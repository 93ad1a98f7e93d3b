import Presidium.Lib.Replicas
import Presidium.Storage.Tables

/-!
# CRDT documents

`crdt.rs` wraps a text document of `yrs`, a library of conflict-free replicated
data types.  The library is a parameter, `Yrs`, with the calls that the wrapper
makes; `Yrs.Law` is what the library promises of them.

A document of the library is a sequence of items, one for each character, and
its text is the characters of the items in their order.  The name of an item is
the client id of the document that wrote it, and a number that this document
counts up.  A document draws its client id when it is created.  An update brings
all items of the document it was exported from, and items that a document has
already are ignored.  So the promise on `apply_update` holds for documents that
do not use a name for two different items.

`Device` is a program that keeps a document in the store.
-/

namespace Presidium

open Replicas

/-- The calls of `yrs`. -/
structure Yrs where
  Doc : Type
  Update : Type
  /-- `Doc::new`, with the client id that it draws. -/
  new : Nat → Doc
  len : Doc → Nat
  insert : Doc → Nat → String → Doc
  getString : Doc → String
  /-- `encode_state_as_update_v1` for the empty state vector. -/
  encodeStateAsUpdate : Doc → Bytes
  decode : Bytes → Except String Update
  /-- The document is the one after the call also if the call fails. -/
  applyUpdate : Doc → Update → Except String Unit × Doc

/-- The name of an item: a client id and a number. -/
abbrev ItemId := Nat × Nat

/-- What the library promises, in terms of the items of a document. -/
structure Yrs.Law (y : Yrs) where
  Content : Type
  decEq : DecidableEq Content
  char : Content → Char
  client : y.Doc → Nat
  /-- The items, in the order of the text. -/
  inOrder : y.Doc → List (ItemId × Content)
  nodup : ∀ d, (inOrder d).Nodup
  client_new : ∀ c, client (y.new c) = c
  inOrder_new : ∀ c, inOrder (y.new c) = []
  getString_eq : ∀ d, y.getString d = String.ofList ((inOrder d).map fun a => char a.2)
  /-- Offsets are in bytes. -/
  len_eq : ∀ d, y.len d = (y.getString d).utf8ByteSize
  /-- Text added at the end: one new item for each character, with the next
  numbers of the client. -/
  insert_len : ∀ d s,
    client (y.insert d (y.len d) s) = client d ∧
    ∃ new : List (ItemId × Content),
      inOrder (y.insert d (y.len d) s) = inOrder d ++ new ∧
      new.map (fun a => char a.2) = s.toList ∧
      (new.map Prod.fst).Nodup ∧
      ∀ name x, (name, x) ∈ new → name.1 = client d ∧ ∀ x', (name, x') ∉ inOrder d
  /-- More items never change the order of those that were there. -/
  sublist : ∀ d d', (∀ a ∈ inOrder d, a ∈ inOrder d') → (inOrder d).Sublist (inOrder d')
  /-- An exported update can be applied to a document that uses no name of it
  for something else. -/
  apply_encode : ∀ d d', NoClash ((inOrder d).toFinset ∪ (inOrder d').toFinset) →
    ∃ u d'', y.decode (y.encodeStateAsUpdate d') = .ok u ∧
      y.applyUpdate d u = (.ok (), d'') ∧ client d'' = client d ∧
      (inOrder d'').toFinset = (inOrder d).toFinset ∪ (inOrder d').toFinset

attribute [instance] Yrs.Law.decEq

/-- The errors of the store, with the variant that the documents add. -/
inductive DocError where
  | storage (e : StorageError)
  | crdt (message : String)
  deriving DecidableEq

/-- A single CRDT document (one per conversation / device). -/
structure CrdtDocument (y : Yrs) where
  id : String
  doc : y.Doc

namespace CrdtDocument

variable {y : Yrs}

/-- Create an empty document. -/
def new (y : Yrs) (id : String) (client : Nat) : CrdtDocument y :=
  { id, doc := y.new client }

/-- Create a document from a previously exported update. -/
def fromBytes (y : Yrs) (id : String) (client : Nat) (bytes : Bytes) :
    Except DocError (CrdtDocument y) :=
  match y.decode bytes with
  | .error e => .error (.crdt ("update decode: " ++ e))
  | .ok update =>
    match y.applyUpdate (y.new client) update with
    | (.error e, _) => .error (.crdt ("update apply: " ++ e))
    | (.ok (), doc) => .ok { id, doc }

/-- Append text to the document content. -/
def appendText (d : CrdtDocument y) (text : String) : CrdtDocument y :=
  { d with doc := y.insert d.doc (y.len d.doc) text }

/-- Full text content of the document. -/
def text (d : CrdtDocument y) : String := y.getString d.doc

/-- Number of characters in the document. -/
def len (d : CrdtDocument y) : Nat := y.len d.doc

/-- Whether the document contains no characters. -/
def isEmpty (d : CrdtDocument y) : Bool := d.len == 0

/-- Export the full document state as an update blob. -/
def exportUpdate (d : CrdtDocument y) : Bytes := y.encodeStateAsUpdate d.doc

/-- Import (merge) an update produced by another replica. -/
def importUpdate (d : CrdtDocument y) (bytes : Bytes) : Except DocError Unit × CrdtDocument y :=
  match y.decode bytes with
  | .error e => (.error (.crdt ("update decode: " ++ e)), d)
  | .ok update =>
    match y.applyUpdate d.doc update with
    | (.error e, doc) => (.error (.crdt ("update apply: " ++ e)), { d with doc })
    | (.ok (), doc) => (.ok (), { d with doc })

/-- Import an export of another document wholesale. -/
def mergeFrom (d other : CrdtDocument y) : Except DocError Unit × CrdtDocument y :=
  d.importUpdate other.exportUpdate

/-- Two-way synchronize.  Both updates are exported before one is imported, and
a failure of the second import leaves the first one in place. -/
def sync (a b : CrdtDocument y) : Except DocError Unit × CrdtDocument y × CrdtDocument y :=
  let updateA := a.exportUpdate
  let updateB := b.exportUpdate
  match a.importUpdate updateB with
  | (.error e, a) => (.error e, a, b)
  | (.ok (), a) =>
    match b.importUpdate updateA with
    | (.error e, b) => (.error e, a, b)
    | (.ok (), b) => (.ok (), a, b)

end CrdtDocument

/-! ## What the calls do to the items -/

namespace Yrs.Law

variable {y : Yrs} (L : y.Law)

/-- The items, without their order. -/
def items (d : y.Doc) : Finset (ItemId × L.Content) := (L.inOrder d).toFinset

/-- The character of an item. -/
def letter (a : ItemId × L.Content) : Char := L.char a.2

theorem mem_items {d : y.Doc} {a : ItemId × L.Content} : a ∈ L.items d ↔ a ∈ L.inOrder d :=
  List.mem_toFinset

theorem items_new (client : Nat) : L.items (y.new client) = ∅ := by
  rw [items, L.inOrder_new]
  rfl

theorem toList_text (d : CrdtDocument y) : d.text.toList = (L.inOrder d.doc).map L.letter := by
  show (y.getString d.doc).toList = _
  rw [L.getString_eq, String.toList_ofList]
  rfl

/-- Items stand in the same order in a document that has more. -/
theorem filter_inOrder {d d' : y.Doc} (h : L.items d ⊆ L.items d') {I : Finset (ItemId × L.Content)}
    (hI : I ⊆ L.items d) :
    (L.inOrder d').filter (· ∈ I) = (L.inOrder d).filter (· ∈ I) := by
  refine filter_of_sublist (L.sublist d d' fun a ha => ?_) (L.nodup d') fun a ha => ?_
  · exact L.mem_items.mp (h (L.mem_items.mpr ha))
  · exact L.mem_items.mp (hI ha)

/-- The document `d'` is `d` with the items `new` of `text` at the end. -/
structure Writes (d d' : y.Doc) (text : String) (new : List (ItemId × L.Content)) : Prop where
  client : L.client d' = L.client d
  inOrder : L.inOrder d' = L.inOrder d ++ new
  letters : new.map L.letter = text.toList
  distinct : (new.map Prod.fst).Nodup
  fresh : ∀ name x, (name, x) ∈ new → name.1 = L.client d ∧ ∀ x', (name, x') ∉ L.items d

theorem appendText (d : CrdtDocument y) (text : String) :
    ∃ new, L.Writes d.doc (d.appendText text).doc text new := by
  obtain ⟨hclient, new, horder, hletters, hdistinct, hfresh⟩ := L.insert_len d.doc text
  refine ⟨new, hclient, horder, hletters, hdistinct, fun name x hx => ?_⟩
  obtain ⟨hname, hno⟩ := hfresh name x hx
  exact ⟨hname, fun x' hx' => hno x' (L.mem_items.mp hx')⟩

namespace Writes

variable {L} {d d' : y.Doc} {text : String} {new : List (ItemId × L.Content)}

theorem items (h : L.Writes d d' text new) : L.items d' = L.items d ∪ new.toFinset := by
  rw [Law.items, h.inOrder, List.toFinset_append]
  rfl

theorem noClash (h : L.Writes d d' text new) : NoClash new.toFinset := by
  intro name a b ha hb
  have hsame : (name, a) = (name, b) :=
    List.inj_on_of_nodup_map h.distinct (List.mem_toFinset.mp ha) (List.mem_toFinset.mp hb) rfl
  exact congrArg Prod.snd hsame

/-- The new items read the text. -/
theorem read (h : L.Writes d d' text new) :
    ((L.inOrder d').filter (· ∈ new.toFinset)).map L.letter = text.toList := by
  have hold : (L.inOrder d).filter (· ∈ new.toFinset) = [] := by
    refine List.filter_eq_nil_iff.mpr fun a ha hnew => ?_
    obtain ⟨name, x⟩ := a
    have hnew : (name, x) ∈ new := List.mem_toFinset.mp (of_decide_eq_true hnew)
    exact (h.fresh name x hnew).2 x (L.mem_items.mpr ha)
  have hall : new.filter (· ∈ new.toFinset) = new :=
    List.filter_eq_self.mpr fun a ha => decide_eq_true (List.mem_toFinset.mpr ha)
  rw [h.inOrder, List.filter_append, hold, hall, List.nil_append, h.letters]

end Writes

/-- An import of what a compatible document exported succeeds and joins the two. -/
theorem importUpdate {d : CrdtDocument y} {d' : y.Doc}
    (h : NoClash (L.items d.doc ∪ L.items d')) :
    ∃ doc, d.importUpdate (y.encodeStateAsUpdate d') = (.ok (), { d with doc }) ∧
      L.client doc = L.client d.doc ∧ L.items doc = L.items d.doc ∪ L.items d' := by
  obtain ⟨u, doc, hdecode, happly, hclient, hitems⟩ := L.apply_encode d.doc d' h
  refine ⟨doc, ?_, hclient, hitems⟩
  simp only [CrdtDocument.importUpdate, hdecode, happly]

theorem fromBytes (id : String) (client : Nat) {d : y.Doc} (h : NoClash (L.items d)) :
    ∃ doc, CrdtDocument.fromBytes y id client (y.encodeStateAsUpdate d) = .ok { id, doc } ∧
      L.client doc = client ∧ L.items doc = L.items d := by
  have hclash : NoClash (L.items (y.new client) ∪ L.items d) := by
    rwa [L.items_new, Finset.empty_union]
  obtain ⟨u, doc, hdecode, happly, hclient, hitems⟩ := L.apply_encode _ d hclash
  refine ⟨doc, ?_, hclient.trans (L.client_new client), ?_⟩
  · simp only [CrdtDocument.fromBytes, hdecode, happly]
  · have hitems : L.items doc = L.items (y.new client) ∪ L.items d := hitems
    rw [hitems, L.items_new, Finset.empty_union]

/-- Two compatible documents have the same items after they have synchronized. -/
theorem sync {a b : CrdtDocument y} (h : NoClash (L.items a.doc ∪ L.items b.doc)) :
    ∃ docA docB, a.sync b = (.ok (), { a with doc := docA }, { b with doc := docB }) ∧
      L.client docA = L.client a.doc ∧ L.client docB = L.client b.doc ∧
      L.items docA = L.items a.doc ∪ L.items b.doc ∧
      L.items docB = L.items a.doc ∪ L.items b.doc := by
  obtain ⟨docA, hA, hclientA, hitemsA⟩ := L.importUpdate (d := a) h
  rw [Finset.union_comm] at h
  obtain ⟨docB, hB, hclientB, hitemsB⟩ := L.importUpdate (d := b) h
  refine ⟨docA, docB, ?_, hclientA, hclientB, hitemsA, hitemsB.trans (Finset.union_comm _ _)⟩
  simp only [CrdtDocument.sync, CrdtDocument.exportUpdate, hA, hB]

end Yrs.Law

/-! ## A device -/

/-- A program with a document, and the store of its device. -/
structure Device (y : Yrs) where
  document : CrdtDocument y
  tables : Tables

namespace Device

variable {y : Yrs}

def appendText (dev : Device y) (text : String) : Except DocError Unit × Device y :=
  (.ok (), { dev with document := dev.document.appendText text })

def importUpdate (dev : Device y) (bytes : Bytes) : Except DocError Unit × Device y :=
  let (result, document) := dev.document.importUpdate bytes
  (result, { dev with document })

def mergeFrom (dev other : Device y) : Except DocError Unit × Device y :=
  let (result, document) := dev.document.mergeFrom other.document
  (result, { dev with document })

/-- `save_doc` with an export of the document. -/
def save (dev : Device y) (now : Int) : Except DocError Unit × Device y :=
  match dev.tables.saveDoc dev.document.id dev.document.exportUpdate now with
  | .error e => (.error (.storage e), dev)
  | .ok tables => (.ok (), { dev with tables })

/-- The program starts again, with the document that `load_doc` finds or an
empty one. -/
def restart (dev : Device y) (client : Nat) : Except DocError Unit × Device y :=
  match dev.tables.loadDoc dev.document.id with
  | .error e => (.error (.storage e), dev)
  | .ok none => (.ok (), { dev with document := .new y dev.document.id client })
  | .ok (some bytes) =>
    match CrdtDocument.fromBytes y dev.document.id client bytes with
    | .error e => (.error e, dev)
    | .ok document => (.ok (), { dev with document })

end Device

/-- The document saved last is the one that is loaded. -/
theorem Tables.loadDoc_saveDoc {id : String} (hid : Database.Bindable id) (t : Tables)
    (bytes : Bytes) (now : Int) :
    ∃ t', t.saveDoc id bytes now = .ok t' ∧ t'.loadDoc id = .ok (some bytes) := by
  let row : DocRow := { id, ydoc := bytes, updatedAt := now }
  have hfind : (upsertBy (fun r => r.id == id) (fun _ => row) row t.docs).find?
      (fun r => r.id == id) = some ((t.docs.find? fun r => r.id == id).elim row fun _ => row) := by
    refine find?_upsertBy (fun _ _ => ?_) ?_ t.docs
    · exact beq_self_eq_true id
    · exact beq_self_eq_true id
  refine ⟨_, by rw [Tables.saveDoc, Database.bindText_ok hid]; rfl, ?_⟩
  rw [Tables.loadDoc, Database.bindText_ok hid]
  show Except.ok (((upsertBy _ _ row t.docs).find? _).map DocRow.ydoc) = _
  rw [hfind]
  cases t.docs.find? fun r => r.id == id with
  | none => rfl
  | some _ => rfl

end Presidium
