import Presidium.Storage.Crdt

/-!
# Documents on several devices

Programs on several devices keep a document of the same conversation.  They
append text, import what another one exported at any time before, in any order
and any number of times, synchronize two by two, save the document and start
again from what they saved.

`Heard` is what the documents are for: of each device, the edits it has heard
of.  `Tracks` relates the documents to it.  The log of the relation has the
items of each edit.  All items together are a document too (`Tracks.whole`), and
every device shows a part of its text.

A document that is created draws a new client id, also when it is created from
saved bytes.  A device that starts again from an old copy has forgotten which
numbers it used, and does not use them again because its name is new.
-/

namespace Presidium

open Replicas

/-- What the programs do. -/
inductive DocCall where
  /-- A new device, with the client id that its document draws. -/
  | join (i client : Nat)
  | append (i : Nat) (text : String)
  /-- The device hands out an export. -/
  | publish (i : Nat)
  /-- The device imports the export with the number `k`. -/
  | deliver (i k : Nat)
  | mergeFrom (i j : Nat)
  | sync (i j : Nat)
  | save (i : Nat) (now : Int)
  | restart (i client : Nat)

/-- The devices, all that was exported, and the client ids drawn so far. -/
structure Fleet (y : Yrs) where
  device : Nat → Option (Device y)
  wire : List Bytes
  drawn : List Nat
  errors : List DocError

namespace Fleet

variable {y : Yrs}

def empty : Fleet y := { device := fun _ => none, wire := [], drawn := [], errors := [] }

def failure : Except DocError Unit → List DocError
  | .ok () => []
  | .error e => [e]

/-- A call on the device `i`. -/
def on (s : Fleet y) (i : Nat) (call : Device y → Except DocError Unit × Device y) : Fleet y :=
  match s.device i with
  | none => s
  | some dev =>
    { s with
      device := Function.update s.device i (some (call dev).2)
      errors := s.errors ++ failure (call dev).1 }

theorem on_of_ok {s : Fleet y} {i : Nat} {dev dev' : Device y}
    {call : Device y → Except DocError Unit × Device y} (h : s.device i = some dev)
    (hcall : call dev = (.ok (), dev')) :
    s.on i call = { s with device := Function.update s.device i (some dev') } := by
  simp only [on, h, hcall, failure, List.append_nil]

/-- Both devices of a synchronization. -/
def syncBoth (s : Fleet y) (i j : Nat) : Fleet y :=
  match s.device i, s.device j with
  | some a, some b =>
    let synced := a.document.sync b.document
    { s with
      device := Function.update
        (Function.update s.device i (some { a with document := synced.2.1 }))
        j (some { b with document := synced.2.2 })
      errors := s.errors ++ failure synced.1 }
  | _, _ => s

def step (id : String) (s : Fleet y) : DocCall → Fleet y
  | .join i client =>
    { s with
      device := Function.update s.device i
        (some { document := .new y id client, tables := .empty })
      drawn := client :: s.drawn }
  | .append i text => s.on i fun dev => dev.appendText text
  | .publish i =>
    { s with wire := s.wire ++ ((s.device i).map fun dev => dev.document.exportUpdate).toList }
  | .deliver i k => s.on i fun dev => dev.importUpdate (s.wire.getD k [])
  | .mergeFrom i j =>
    match s.device j with
    | none => s
    | some other => s.on i fun dev => dev.mergeFrom other
  | .sync i j => s.syncBoth i j
  | .save i now => s.on i fun dev => dev.save now
  | .restart i client =>
    { s.on i fun dev => dev.restart client with drawn := client :: s.drawn }

/-- Client ids are drawn at random from a large range: none is drawn twice. -/
def Enabled (s : Fleet y) : DocCall → Prop
  | .join i client => (s.device i).isNone = true ∧ client ∉ s.drawn
  | .append i _ | .publish i | .save i _ => (s.device i).isSome = true
  | .deliver i k => (s.device i).isSome = true ∧ k < s.wire.length
  | .mergeFrom i j | .sync i j =>
    i ≠ j ∧ (s.device i).isSome = true ∧ (s.device j).isSome = true
  | .restart i client => (s.device i).isSome = true ∧ client ∉ s.drawn

def machine (y : Yrs) (id : String) : Machine (Fleet y) DocCall :=
  { step := step id, Enabled }

end Fleet

/-! ## What the devices have heard of -/

/-- The texts of the edits, numbered as they were made, and the edits that each
device, each saved copy and each export has. -/
structure Heard where
  texts : List String
  device : Nat → Finset Nat
  saved : Nat → Finset Nat
  wire : List (Finset Nat)

namespace Heard

def empty : Heard := { texts := [], device := fun _ => ∅, saved := fun _ => ∅, wire := [] }

/-- What the device `i` and its store have heard of. -/
def set (h : Heard) (i : Nat) (heard saved : Finset Nat) : Heard :=
  { h with
    device := Function.update h.device i heard
    saved := Function.update h.saved i saved }

def step (h : Heard) : DocCall → Heard
  | .join i _ => h.set i ∅ ∅
  | .append i text =>
    { h with
      texts := h.texts ++ [text]
      device := Function.update h.device i (insert h.texts.length (h.device i)) }
  | .publish i => { h with wire := h.wire ++ [h.device i] }
  | .deliver i k => h.set i (h.device i ∪ h.wire.getD k ∅) (h.saved i)
  | .mergeFrom i j => h.set i (h.device i ∪ h.device j) (h.saved i)
  | .sync i j =>
    (h.set i (h.device i ∪ h.device j) (h.saved i)).set j (h.device i ∪ h.device j) (h.saved j)
  | .save i _ => h.set i (h.device i) (h.device i)
  | .restart i _ => h.set i (h.saved i) (h.saved i)

def run (h : Heard) (calls : List DocCall) : Heard := calls.foldl step h

end Heard

/-! ## The documents have what their devices have heard of -/

section Tracks

variable {y : Yrs} (L : y.Law) (id : String)

/-- The saved copy of the document, if there is one, has the edits `saved`. -/
def Tables.HoldsCopy (l : Log (ItemId × L.Content)) (saved : Finset Nat) (t : Tables) : Prop :=
  t.loadDoc id = .ok none ∧ saved = ∅ ∨
    ∃ d, t.loadDoc id = .ok (some (y.encodeStateAsUpdate d)) ∧ l.Covers saved (L.items d)

/-- One device. -/
structure Device.Tracks (l : Log (ItemId × L.Content)) (drawn : List Nat)
    (heard saved : Finset Nat) (dev : Device y) : Prop where
  named : dev.document.id = id
  items : l.Covers heard (L.items dev.document.doc)
  client : L.client dev.document.doc ∈ drawn
  /-- The device has all that was written under its name. -/
  own : ∀ name x, (name, x) ∈ l.all → name.1 = L.client dev.document.doc →
    (name, x) ∈ L.items dev.document.doc
  saved : dev.tables.HoldsCopy L id l saved

structure Tracks (s : Fleet y) (h : Heard) (l : Log (ItemId × L.Content)) : Prop where
  errors : s.errors = []
  count : l.count = h.texts.length
  sound : l.Sound
  drawn : ∀ name x, (name, x) ∈ l.all → name.1 ∈ s.drawn
  device : ∀ i dev, s.device i = some dev →
    dev.Tracks L id l s.drawn (h.device i) (h.saved i)
  apart : ∀ i j dev dev', s.device i = some dev → s.device j = some dev' → i ≠ j →
    L.client dev.document.doc ≠ L.client dev'.document.doc
  exports : s.wire.length = h.wire.length
  wire : ∀ k bytes, s.wire[k]? = some bytes →
    ∃ d, bytes = y.encodeStateAsUpdate d ∧ l.Covers (h.wire.getD k ∅) (L.items d)
  /-- The document into which an edit was written reads it. -/
  texts : ∀ n text, h.texts[n]? = some text →
    ∃ d, l.wrote n ⊆ L.items d ∧ L.items d ⊆ l.all ∧
      ((L.inOrder d).filter (· ∈ l.wrote n)).map L.letter = text.toList

variable {L id} {s : Fleet y} {h : Heard} {l : Log (ItemId × L.Content)}

/-- An edit leaves a saved copy what it was. -/
theorem Tables.HoldsCopy.record {saved : Finset Nat} {t : Tables}
    (ht : t.HoldsCopy L id l saved) (new : Finset (ItemId × L.Content)) :
    t.HoldsCopy L id (l.record new) saved := by
  rcases ht with hnone | ⟨d, hload, hd⟩
  · exact Or.inl hnone
  · exact Or.inr ⟨d, hload, hd.record new⟩

theorem Device.Tracks.draws {drawn drawn' : List Nat} {heard saved : Finset Nat} {dev : Device y}
    (ht : dev.Tracks L id l drawn heard saved) (hsub : drawn ⊆ drawn') :
    dev.Tracks L id l drawn' heard saved :=
  { ht with client := hsub ht.client }

/-- An edit of somebody else. -/
theorem Device.Tracks.record {drawn : List Nat} {heard saved : Finset Nat} {dev : Device y}
    (ht : dev.Tracks L id l drawn heard saved) {new : Finset (ItemId × L.Content)}
    (hother : ∀ name x, (name, x) ∈ new → name.1 ≠ L.client dev.document.doc) :
    dev.Tracks L id (l.record new) drawn heard saved where
  named := ht.named
  items := ht.items.record new
  client := ht.client
  own name x hx hname := by
    rcases Log.mem_all_record.mp hx with hx | hx
    · exact ht.own name x hx hname
    · exact absurd hname (hother name x hx)
  saved := ht.saved.record new

/-- An edit of the device. -/
theorem Device.Tracks.edit {drawn : List Nat} {heard saved : Finset Nat} {dev : Device y}
    (ht : dev.Tracks L id l drawn heard saved) {text : String} {new : List (ItemId × L.Content)}
    (hnew : L.Writes dev.document.doc (dev.document.appendText text).doc text new) :
    Device.Tracks L id (l.record new.toFinset) drawn (insert l.count heard) saved
      { dev with document := dev.document.appendText text } where
  named := ht.named
  items := by
    show Log.Covers _ _ (L.items (dev.document.appendText text).doc)
    rw [hnew.items]
    exact ht.items.edit _
  client := by
    show L.client (dev.document.appendText text).doc ∈ drawn
    rw [hnew.client]
    exact ht.client
  own name x hx hname := by
    show (name, x) ∈ L.items (dev.document.appendText text).doc
    rw [hnew.items]
    rcases Log.mem_all_record.mp hx with hx | hx
    · exact Finset.mem_union_left _ (ht.own name x hx (hname.trans hnew.client))
    · exact Finset.mem_union_right _ hx
  saved := ht.saved.record _

namespace Tracks

theorem start : Tracks L id Fleet.empty Heard.empty Log.empty where
  errors := rfl
  count := rfl
  sound := .empty
  drawn name x hx := by
    obtain ⟨n, hn, -⟩ := Log.mem_all.mp hx
    exact absurd hn (Nat.not_lt_zero n)
  device _ _ hdev := nomatch hdev
  apart _ _ _ _ hdev := nomatch hdev
  exports := rfl
  wire _ _ hbytes := nomatch hbytes
  texts _ _ htext := nomatch htext

/-- A device that is new, or has a new document, without a new edit. -/
theorem set (ht : Tracks L id s h l) {i : Nat} {dev : Device y} {drawn : List Nat}
    {heard saved : Finset Nat} (hsub : s.drawn ⊆ drawn)
    (hdev : dev.Tracks L id l drawn heard saved)
    (hother : ∀ j other, s.device j = some other → j ≠ i →
      L.client other.document.doc ≠ L.client dev.document.doc) :
    Tracks L id { s with device := Function.update s.device i (some dev), drawn := drawn }
      (h.set i heard saved) l where
  errors := ht.errors
  count := ht.count
  sound := ht.sound
  drawn name x hx := hsub (ht.drawn name x hx)
  device j other hj := by
    by_cases hji : j = i
    · subst hji
      change Function.update s.device j (some dev) j = some other at hj
      rw [Function.update_self] at hj
      cases hj
      simpa [Heard.set] using hdev
    · change Function.update s.device i (some dev) j = some other at hj
      rw [Function.update_of_ne hji] at hj
      simpa [Heard.set, hji] using (ht.device j other hj).draws hsub
  apart j k a b hj hk hne := by
    change Function.update s.device i (some dev) j = some a at hj
    change Function.update s.device i (some dev) k = some b at hk
    by_cases hji : j = i
    · subst hji
      rw [Function.update_self] at hj
      rw [Function.update_of_ne (Ne.symm hne)] at hk
      cases hj
      exact (hother k b hk (Ne.symm hne)).symm
    · rw [Function.update_of_ne hji] at hj
      by_cases hki : k = i
      · subst hki
        rw [Function.update_self] at hk
        cases hk
        exact hother j a hj hji
      · rw [Function.update_of_ne hki] at hk
        exact ht.apart j k a b hj hk hne
  exports := ht.exports
  wire := ht.wire
  texts := ht.texts

/-- The document of a device grows by items that others have. -/
theorem grow (ht : Tracks L id s h l) {i : Nat} {dev : Device y} (hdev : s.device i = some dev)
    {doc d : y.Doc} {heard : Finset Nat} (hclient : L.client doc = L.client dev.document.doc)
    (hitems : L.items doc = L.items dev.document.doc ∪ L.items d)
    (hd : l.Covers heard (L.items d)) :
    Tracks L id
      { s with
        device := Function.update s.device i
          (some { dev with document := { dev.document with doc } }) }
      (h.set i (h.device i ∪ heard) (h.saved i)) l := by
  have hold := ht.device i dev hdev
  refine ht.set (List.Subset.refl _) ?_ ?_
  · refine { named := hold.named, items := ?_, client := ?_, own := ?_, saved := hold.saved }
    · show l.Covers _ (L.items doc)
      rw [hitems]
      exact hold.items.union hd
    · show L.client doc ∈ s.drawn
      rw [hclient]
      exact hold.client
    · intro name x hx hname
      show (name, x) ∈ L.items doc
      rw [hitems]
      exact Finset.mem_union_left _ (hold.own name x hx (hname.trans hclient))
  · intro j other hj hne
    show _ ≠ L.client doc
    rw [hclient]
    exact ht.apart j i other dev hj hdev hne

theorem join (ht : Tracks L id s h l) (hid : Database.Bindable id) {i client : Nat}
    (hfresh : client ∉ s.drawn) :
    Tracks L id (s.step id (.join i client)) (h.step (.join i client)) l := by
  have hnew : L.client (y.new client) = client := L.client_new client
  refine ht.set (List.subset_cons_self _ _) ?_ ?_
  · refine { named := rfl, items := ?_, client := ?_, own := ?_, saved := Or.inl ⟨?_, rfl⟩ }
    · show l.Covers ∅ (L.items (y.new client))
      rw [L.items_new]
      exact .empty l
    · show L.client (y.new client) ∈ client :: s.drawn
      rw [hnew]
      exact List.mem_cons_self
    · intro name x hx hname
      have hname : name.1 = client := hname.trans hnew
      exact absurd (hname ▸ ht.drawn name x hx) hfresh
    · rw [Tables.loadDoc, Database.bindText_ok hid]
      rfl
  · intro j other hj _ heq
    have heq : L.client other.document.doc = client := heq.trans hnew
    exact hfresh (heq ▸ (ht.device j other hj).client)

section Append

variable {i : Nat} {dev : Device y} {text : String} {new : List (ItemId × L.Content)}

/-- Nobody has the names of the new items. -/
theorem fresh_append (ht : Tracks L id s h l) (hdev : s.device i = some dev)
    (hnew : L.Writes dev.document.doc (dev.document.appendText text).doc text new) :
    ∀ name a b, (name, a) ∈ new.toFinset → (name, b) ∉ l.all := by
  intro name a b ha hb
  obtain ⟨hname, hno⟩ := hnew.fresh name a (List.mem_toFinset.mp ha)
  exact hno b ((ht.device i dev hdev).own name b hb hname)

theorem drawn_append (ht : Tracks L id s h l) (hdev : s.device i = some dev)
    (hnew : L.Writes dev.document.doc (dev.document.appendText text).doc text new) :
    ∀ name x, (name, x) ∈ (l.record new.toFinset).all → name.1 ∈ s.drawn := by
  intro name x hx
  rcases Log.mem_all_record.mp hx with hx | hx
  · exact ht.drawn name x hx
  · rw [(hnew.fresh name x (List.mem_toFinset.mp hx)).1]
    exact (ht.device i dev hdev).client

theorem device_append (ht : Tracks L id s h l) (hdev : s.device i = some dev)
    (hnew : L.Writes dev.document.doc (dev.document.appendText text).doc text new) :
    ∀ j other, Function.update s.device i
        (some { dev with document := dev.document.appendText text }) j = some other →
      other.Tracks L id (l.record new.toFinset) s.drawn
        (Function.update h.device i (insert h.texts.length (h.device i)) j) (h.saved j) := by
  intro j other hj
  by_cases hji : j = i
  · subst hji
    rw [Function.update_self] at hj ⊢
    cases hj
    rw [← ht.count]
    exact (ht.device j dev hdev).edit hnew
  · rw [Function.update_of_ne hji] at hj ⊢
    refine (ht.device j other hj).record fun name x hx hname => ?_
    -- nobody else has the client id of the new items
    have hwriter := (hnew.fresh name x (List.mem_toFinset.mp hx)).1
    exact ht.apart i j dev other hdev hj (Ne.symm hji) (hwriter.symm.trans hname)

theorem apart_append (ht : Tracks L id s h l) (hdev : s.device i = some dev)
    (hnew : L.Writes dev.document.doc (dev.document.appendText text).doc text new) :
    ∀ j k a b,
      Function.update s.device i (some { dev with document := dev.document.appendText text }) j =
        some a →
      Function.update s.device i (some { dev with document := dev.document.appendText text }) k =
        some b →
      j ≠ k → L.client a.document.doc ≠ L.client b.document.doc := by
  -- client ids are as before
  have hclients : ∀ j a, Function.update s.device i
      (some { dev with document := dev.document.appendText text }) j = some a →
      ∃ a', s.device j = some a' ∧ L.client a.document.doc = L.client a'.document.doc := by
    intro j a hj
    by_cases hji : j = i
    · subst hji
      rw [Function.update_self] at hj
      cases hj
      exact ⟨dev, hdev, hnew.client⟩
    · rw [Function.update_of_ne hji] at hj
      exact ⟨a, hj, rfl⟩
  intro j k a b hj hk hne
  obtain ⟨a', hj', ha⟩ := hclients j a hj
  obtain ⟨b', hk', hb⟩ := hclients k b hk
  rw [ha, hb]
  exact ht.apart j k a' b' hj' hk' hne

theorem texts_append (ht : Tracks L id s h l) (hdev : s.device i = some dev)
    (hnew : L.Writes dev.document.doc (dev.document.appendText text).doc text new) :
    ∀ n t, (h.texts ++ [text])[n]? = some t →
      ∃ d, (l.record new.toFinset).wrote n ⊆ L.items d ∧
        L.items d ⊆ (l.record new.toFinset).all ∧
        ((L.inOrder d).filter (· ∈ (l.record new.toFinset).wrote n)).map L.letter = t.toList := by
  intro n t hn
  have hle : n < h.texts.length + 1 := by
    simpa using (List.getElem?_eq_some_iff.mp hn).1
  rcases Nat.lt_succ_iff_lt_or_eq.mp hle with hlt | rfl
  · rw [List.getElem?_append_left hlt] at hn
    obtain ⟨d, hwrote, hall, hread⟩ := ht.texts n t hn
    rw [Log.wrote_record_of_lt (ht.count ▸ hlt)]
    exact ⟨d, hwrote, hall.trans (Log.all_subset_record _), hread⟩
  · rw [List.getElem?_concat_length] at hn
    cases hn
    rw [← ht.count, Log.wrote_record_count]
    refine ⟨(dev.document.appendText text).doc, ?_, ?_, hnew.read⟩
    · rw [hnew.items]
      exact Finset.subset_union_right
    · rw [hnew.items]
      exact ((ht.device i dev hdev).items.edit _).subset_all

theorem append (ht : Tracks L id s h l) (hdev : s.device i = some dev) (text : String) :
    ∃ l', Tracks L id (s.step id (.append i text)) (h.step (.append i text)) l' := by
  obtain ⟨new, hnew⟩ := L.appendText dev.document text
  have hstep : s.step id (.append i text) =
      { s with
        device := Function.update s.device i
          (some { dev with document := dev.document.appendText text }) } :=
    Fleet.on_of_ok hdev rfl
  rw [hstep]
  exact ⟨l.record new.toFinset,
    { errors := ht.errors
      count := by
        show l.count + 1 = (h.texts ++ [text]).length
        rw [ht.count, List.length_append]
        rfl
      sound := ht.sound.record hnew.noClash (ht.fresh_append hdev hnew)
      drawn := ht.drawn_append hdev hnew
      device := ht.device_append hdev hnew
      apart := ht.apart_append hdev hnew
      exports := ht.exports
      wire := fun k bytes hbytes => by
        obtain ⟨d, hd, hcovers⟩ := ht.wire k bytes hbytes
        exact ⟨d, hd, hcovers.record _⟩
      texts := ht.texts_append hdev hnew }⟩

end Append

theorem publish (ht : Tracks L id s h l) {i : Nat} {dev : Device y}
    (hdev : s.device i = some dev) :
    Tracks L id (s.step id (.publish i)) (h.step (.publish i)) l := by
  have hold := ht.device i dev hdev
  have hstep : s.step id (.publish i) =
      { s with wire := s.wire ++ [dev.document.exportUpdate] } := by
    simp only [Fleet.step, hdev, Option.map_some, Option.toList_some]
  rw [hstep]
  refine { ht with exports := ?_, wire := ?_ }
  · show (s.wire ++ [_]).length = (h.wire ++ [_]).length
    rw [List.length_append, List.length_append, ht.exports]
    rfl
  · intro k bytes hk
    change (s.wire ++ [dev.document.exportUpdate])[k]? = some bytes at hk
    show ∃ d, bytes = y.encodeStateAsUpdate d ∧
      l.Covers ((h.wire ++ [h.device i]).getD k ∅) (L.items d)
    rw [List.getD_eq_getElem?_getD]
    rcases Nat.lt_trichotomy k s.wire.length with hlt | heq | hgt
    · rw [List.getElem?_append_left hlt] at hk
      rw [List.getElem?_append_left (ht.exports ▸ hlt), ← List.getD_eq_getElem?_getD]
      exact ht.wire k bytes hk
    · rw [heq, List.getElem?_concat_length] at hk
      cases hk
      rw [heq, ht.exports, List.getElem?_concat_length]
      exact ⟨dev.document.doc, rfl, hold.items⟩
    · have hlen : (s.wire ++ [dev.document.exportUpdate]).length ≤ k := by
        rw [List.length_append, List.length_singleton]
        omega
      rw [List.getElem?_eq_none hlen] at hk
      cases hk

theorem deliver (ht : Tracks L id s h l) {i k : Nat} {dev : Device y}
    (hdev : s.device i = some dev) (hk : k < s.wire.length) :
    Tracks L id (s.step id (.deliver i k)) (h.step (.deliver i k)) l := by
  have hbytes : s.wire[k]? = some s.wire[k] := List.getElem?_eq_getElem hk
  obtain ⟨d, hd, hcovers⟩ := ht.wire k _ hbytes
  have hclash := ht.sound.noClash_union (ht.device i dev hdev).items hcovers
  obtain ⟨doc, himport, hclient, hitems⟩ := L.importUpdate (d := dev.document) hclash
  have hcall : dev.importUpdate (s.wire.getD k []) =
      (.ok (), { dev with document := { dev.document with doc } }) := by
    rw [List.getD_eq_getElem?_getD, hbytes, Option.getD_some, hd]
    simp only [Device.importUpdate, himport]
  rw [Fleet.step, Fleet.on_of_ok hdev hcall]
  exact ht.grow hdev hclient hitems hcovers

theorem mergeFrom (ht : Tracks L id s h l) {i j : Nat} {dev other : Device y}
    (hdev : s.device i = some dev) (hother : s.device j = some other) :
    Tracks L id (s.step id (.mergeFrom i j)) (h.step (.mergeFrom i j)) l := by
  have hcovers := (ht.device j other hother).items
  have hclash := ht.sound.noClash_union (ht.device i dev hdev).items hcovers
  obtain ⟨doc, himport, hclient, hitems⟩ := L.importUpdate (d := dev.document) hclash
  have hcall : dev.mergeFrom other =
      (.ok (), { dev with document := { dev.document with doc } }) := by
    simp only [Device.mergeFrom, CrdtDocument.mergeFrom, CrdtDocument.exportUpdate, himport]
  simp only [Fleet.step, hother]
  rw [Fleet.on_of_ok hdev hcall]
  exact ht.grow hdev hclient hitems hcovers

theorem sync (ht : Tracks L id s h l) {i j : Nat} (hne : i ≠ j) {a b : Device y}
    (ha : s.device i = some a) (hb : s.device j = some b) :
    Tracks L id (s.step id (.sync i j)) (h.step (.sync i j)) l := by
  have hcoversA := (ht.device i a ha).items
  have hcoversB := (ht.device j b hb).items
  obtain ⟨docA, docB, hsync, hclientA, hclientB, hitemsA, hitemsB⟩ :=
    L.sync (ht.sound.noClash_union hcoversA hcoversB)
  have hstep : s.step id (.sync i j) =
      { s with
        device := Function.update
          (Function.update s.device i (some { a with document := { a.document with doc := docA } }))
          j (some { b with document := { b.document with doc := docB } }) } := by
    simp only [Fleet.step, Fleet.syncBoth, ha, hb, hsync, Fleet.failure, List.append_nil]
  -- first the one device, then the other
  have hfirst := ht.grow ha hclientA hitemsA hcoversB
  have hb' : Function.update s.device i
      (some { a with document := { a.document with doc := docA } }) j = some b := by
    rw [Function.update_of_ne (Ne.symm hne), hb]
  rw [Finset.union_comm] at hitemsB
  have hboth := hfirst.grow hb' hclientB hitemsB hcoversA
  have hheard : h.step (.sync i j) =
      (h.set i (h.device i ∪ h.device j) (h.saved i)).set j
        ((h.set i (h.device i ∪ h.device j) (h.saved i)).device j ∪ h.device i)
        ((h.set i (h.device i ∪ h.device j) (h.saved i)).saved j) := by
    simp only [Heard.step, Heard.set, Function.update_of_ne (Ne.symm hne),
      Finset.union_comm (h.device i)]
  rw [hstep, hheard]
  exact hboth

theorem save (ht : Tracks L id s h l) (hid : Database.Bindable id) {i : Nat} {dev : Device y}
    (hdev : s.device i = some dev) (now : Int) :
    Tracks L id (s.step id (.save i now)) (h.step (.save i now)) l := by
  have hold := ht.device i dev hdev
  obtain ⟨tables, hsave, hload⟩ :=
    Tables.loadDoc_saveDoc hid dev.tables dev.document.exportUpdate now
  have hcall : dev.save now = (.ok (), { dev with tables }) := by
    simp only [Device.save, hold.named, hsave]
  rw [Fleet.step, Fleet.on_of_ok hdev hcall]
  refine ht.set (List.Subset.refl _) ?_ fun j other hj hne => ht.apart j i other dev hj hdev hne
  exact { hold with saved := Or.inr ⟨dev.document.doc, hload, hold.items⟩ }

theorem restart (ht : Tracks L id s h l) {i client : Nat} {dev : Device y}
    (hdev : s.device i = some dev) (hfresh : client ∉ s.drawn) :
    Tracks L id (s.step id (.restart i client)) (h.step (.restart i client)) l := by
  have hold := ht.device i dev hdev
  -- the document comes from the store, or is empty
  have hdoc : ∃ doc, dev.restart client =
      (.ok (), { dev with document := { dev.document with doc } }) ∧
      L.client doc = client ∧ l.Covers (h.saved i) (L.items doc) := by
    rcases hold.saved with ⟨hload, hsaved⟩ | ⟨d, hload, hd⟩
    · refine ⟨y.new client, ?_, L.client_new client, ?_⟩
      · simp only [Device.restart, hold.named, hload]
        rfl
      · rw [hsaved, L.items_new]
        exact .empty l
    · obtain ⟨doc, hbytes, hclient, hitems⟩ :=
        L.fromBytes id client (ht.sound.noClash.subset hd.subset_all)
      refine ⟨doc, ?_, hclient, hitems ▸ hd⟩
      simp only [Device.restart, hold.named, hload, hbytes]
  obtain ⟨doc, hcall, hclient, hitems⟩ := hdoc
  rw [Fleet.step, Fleet.on_of_ok hdev hcall]
  refine ht.set (List.subset_cons_self _ _) ?_ ?_
  · refine { named := hold.named, items := hitems, client := ?_, own := ?_, saved := hold.saved }
    · show L.client doc ∈ client :: s.drawn
      rw [hclient]
      exact List.mem_cons_self
    · intro name x hx hname
      have hname : name.1 = client := hname.trans hclient
      exact absurd (hname ▸ ht.drawn name x hx) hfresh
  · intro j other hj _ heq
    have heq : L.client other.document.doc = client := heq.trans hclient
    exact hfresh (heq ▸ (ht.device j other hj).client)

theorem step (ht : Tracks L id s h l) (hid : Database.Bindable id) {c : DocCall}
    (henabled : s.Enabled c) : ∃ l', Tracks L id (s.step id c) (h.step c) l' := by
  cases c with
  | join i client => exact ⟨l, ht.join hid henabled.2⟩
  | append i text =>
    obtain ⟨dev, hdev⟩ := Option.isSome_iff_exists.mp henabled
    exact ht.append hdev text
  | publish i =>
    obtain ⟨dev, hdev⟩ := Option.isSome_iff_exists.mp henabled
    exact ⟨l, ht.publish hdev⟩
  | deliver i k =>
    obtain ⟨dev, hdev⟩ := Option.isSome_iff_exists.mp henabled.1
    exact ⟨l, ht.deliver hdev henabled.2⟩
  | mergeFrom i j =>
    obtain ⟨dev, hdev⟩ := Option.isSome_iff_exists.mp henabled.2.1
    obtain ⟨other, hother⟩ := Option.isSome_iff_exists.mp henabled.2.2
    exact ⟨l, ht.mergeFrom hdev hother⟩
  | sync i j =>
    obtain ⟨a, ha⟩ := Option.isSome_iff_exists.mp henabled.2.1
    obtain ⟨b, hb⟩ := Option.isSome_iff_exists.mp henabled.2.2
    exact ⟨l, ht.sync henabled.1 ha hb⟩
  | save i now =>
    obtain ⟨dev, hdev⟩ := Option.isSome_iff_exists.mp henabled
    exact ⟨l, ht.save hid hdev now⟩
  | restart i client =>
    obtain ⟨dev, hdev⟩ := Option.isSome_iff_exists.mp henabled.1
    exact ⟨l, ht.restart hdev henabled.2⟩

theorem run (ht : Tracks L id s h l) (hid : Database.Bindable id) {calls : List DocCall}
    (hvalid : (Fleet.machine y id).Valid s calls) :
    ∃ l', Tracks L id ((Fleet.machine y id).run s calls) (h.run calls) l' := by
  induction calls generalizing s h l with
  | nil => exact ⟨l, ht⟩
  | cons c calls ih =>
    obtain ⟨henabled, hrest⟩ := hvalid
    obtain ⟨l', ht'⟩ := ht.step hid henabled
    exact ih ht' hrest

end Tracks

end Tracks

/-! ## Convergence -/

/-- What a reader of the documents sees of the edits. -/
structure Fleet.Converges {y : Yrs} (s : Fleet y) (h : Heard) : Prop where
  /-- No call fails. -/
  errors : s.errors = []
  /-- The devices have heard of edits that were made. -/
  made : ∀ i dev, s.device i = some dev → ∀ n ∈ h.device i, n < h.texts.length
  /-- All edits stand in one line, each of them once, with its characters in the
  order in which they were written.  A document shows of this line the characters
  of the edits that its device has heard of, and nothing else. -/
  shown : ∃ line, Shuffle (h.texts.map String.toList) line ∧
    ∀ i dev, s.device i = some dev → dev.document.text.toList = letters (h.device i) line
  /-- Who has heard of more shows more, in the same order. -/
  grows : ∀ i j dev dev', s.device i = some dev → s.device j = some dev' →
    h.device i ⊆ h.device j → dev.document.text.toList.Sublist dev'.document.text.toList
  /-- Who has heard of the same shows the same. -/
  agree : ∀ i j dev dev', s.device i = some dev → s.device j = some dev' →
    h.device i = h.device j →
    dev.document.text = dev'.document.text ∧ dev.document.len = dev'.document.len

/-- A document has every edit that its device has heard of. -/
theorem Fleet.Converges.kept {y : Yrs} {s : Fleet y} {h : Heard} (hs : s.Converges h) {i : Nat}
    {dev : Device y} (hdev : s.device i = some dev) {n : Nat} (hn : n ∈ h.device i) :
    ∃ text, h.texts[n]? = some text ∧ text.toList.Sublist dev.document.text.toList := by
  obtain ⟨line, hline, hshown⟩ := hs.shown
  have hlt : n < h.texts.length := hs.made i dev hdev n hn
  have htext : h.texts[n]? = some h.texts[n] := List.getElem?_eq_getElem hlt
  refine ⟨_, htext, ?_⟩
  rw [hshown i dev hdev]
  refine hline.word_sublist hn ?_
  rw [List.getElem?_map, htext]
  rfl

namespace Tracks

variable {y : Yrs} {L : y.Law} {id : String} {s : Fleet y} {h : Heard}
  {l : Log (ItemId × L.Content)}

/-- The documents of the edits can be merged one after the other. -/
theorem merged (ht : Tracks L id s h l) (m : Nat) (hm : m ≤ l.count) :
    ∃ d, L.items d ⊆ l.all ∧ ∀ n < m, l.wrote n ⊆ L.items d := by
  induction m with
  | zero =>
    refine ⟨y.new 0, ?_, nofun⟩
    rw [L.items_new]
    exact Finset.empty_subset _
  | succ m ih =>
    obtain ⟨d, hall, hwrote⟩ := ih (Nat.le_of_succ_le hm)
    have hlt : m < h.texts.length := ht.count ▸ hm
    obtain ⟨d', hwrote', hall', -⟩ := ht.texts m _ (List.getElem?_eq_getElem hlt)
    obtain ⟨-, both, -, -, -, hitems⟩ :=
      L.apply_encode d d' (ht.sound.noClash.subset (Finset.union_subset hall hall'))
    have hitems : L.items both = L.items d ∪ L.items d' := hitems
    refine ⟨both, hitems ▸ Finset.union_subset hall hall', fun n hn => ?_⟩
    rw [hitems]
    rcases Nat.lt_succ_iff_lt_or_eq.mp hn with hn | rfl
    · exact (hwrote n hn).trans Finset.subset_union_left
    · exact hwrote'.trans Finset.subset_union_right

/-- A document with the items of all edits. -/
theorem whole (ht : Tracks L id s h l) : ∃ d, L.items d = l.all := by
  obtain ⟨d, hall, hwrote⟩ := ht.merged l.count (Nat.le_refl _)
  refine ⟨d, hall.antisymm fun a ha => ?_⟩
  obtain ⟨n, hn, ha⟩ := Log.mem_all.mp ha
  exact hwrote n hn ha

theorem shown (ht : Tracks L id s h l) :
    ∃ line, Shuffle (h.texts.map String.toList) line ∧
      ∀ i dev, s.device i = some dev → dev.document.text.toList = letters (h.device i) line := by
  obtain ⟨d, hd⟩ := ht.whole
  have hline : ∀ a ∈ L.inOrder d, a ∈ l.all := fun a ha => hd ▸ L.mem_items.mpr ha
  refine ⟨l.tagged L.letter (L.inOrder d), ht.sound.shuffle_tagged hline ?_ ?_, ?_⟩
  · rw [ht.count, List.length_map]
  · intro n w hw
    rw [List.getElem?_map] at hw
    obtain ⟨text, htext, rfl⟩ := Option.map_eq_some_iff.mp hw
    obtain ⟨d', hwrote, hall, hread⟩ := ht.texts n text htext
    rw [L.filter_inOrder (hd ▸ hall) hwrote, hread]
  · intro i dev hdev
    have hitems := (ht.device i dev hdev).items
    have hself : (L.inOrder dev.document.doc).filter (· ∈ L.items dev.document.doc) =
        L.inOrder dev.document.doc :=
      List.filter_eq_self.mpr fun a ha => decide_eq_true (L.mem_items.mpr ha)
    rw [ht.sound.letters_tagged hline hitems,
      L.filter_inOrder (hd ▸ hitems.subset_all) (Finset.Subset.refl _), hself, L.toList_text]

theorem converges (ht : Tracks L id s h l) : s.Converges h where
  errors := ht.errors
  made i dev hdev n hn := ht.count ▸ (ht.device i dev hdev).items.made n hn
  shown := ht.shown
  grows i j dev dev' hdev hdev' hsub := by
    obtain ⟨line, -, hshown⟩ := ht.shown
    rw [hshown i dev hdev, hshown j dev' hdev']
    exact letters_sublist hsub line
  agree i j dev dev' hdev hdev' heq := by
    obtain ⟨line, -, hshown⟩ := ht.shown
    have htext : dev.document.text = dev'.document.text := by
      refine String.toList_injective ?_
      rw [hshown i dev hdev, hshown j dev' hdev', heq]
    refine ⟨htext, ?_⟩
    calc dev.document.len
      _ = dev.document.text.utf8ByteSize := L.len_eq _
      _ = dev'.document.text.utf8ByteSize := congrArg _ htext
      _ = dev'.document.len := (L.len_eq _).symm

end Tracks

/-- Whatever the programs do with their documents, and in whichever order
exports arrive, every document shows exactly the edits its device has heard of,
each of them once. -/
theorem replicas_converge {y : Yrs} (L : y.Law) {id : String} (hid : Database.Bindable id)
    {calls : List DocCall} (hvalid : (Fleet.machine y id).Valid .empty calls) :
    ((Fleet.machine y id).run .empty calls).Converges (Heard.empty.run calls) := by
  have hstart : Tracks L id Fleet.empty Heard.empty Log.empty := .start
  obtain ⟨l, ht⟩ := hstart.run hid hvalid
  exact ht.converges

/-! ## One device synchronizes with all others -/

namespace Heard

variable {h : Heard} {hub : Nat}

theorem device_sync_self (h : Heard) {i : Nat} (hne : hub ≠ i) :
    (h.step (.sync hub i)).device hub = h.device hub ∪ h.device i := by
  simp [step, set, hne]

theorem device_sync_other (h : Heard) (i : Nat) :
    (h.step (.sync hub i)).device i = h.device hub ∪ h.device i := by
  simp [step, set]

theorem device_sync_of_ne {i j : Nat} (h : Heard) (hhub : j ≠ hub) (hj : j ≠ i) :
    (h.step (.sync hub i)).device j = h.device j := by
  simp [step, set, hhub, hj]

/-- No edit is forgotten. -/
theorem subset_device_sync (h : Heard) {i : Nat} (hne : hub ≠ i) (j : Nat) :
    h.device j ⊆ (h.step (.sync hub i)).device j := by
  by_cases hi : j = i
  · rw [hi, device_sync_other]
    exact Finset.subset_union_right
  · by_cases hhub : j = hub
    · rw [hhub, device_sync_self h hne]
      exact Finset.subset_union_left
    · rw [device_sync_of_ne h hhub hi]

theorem texts_syncs (h : Heard) (others : List Nat) :
    (h.run (others.map (.sync hub))).texts = h.texts := by
  induction others generalizing h with
  | nil => rfl
  | cons i others ih => exact ih (h.step (.sync hub i))

/-- A round only adds to what a device has heard of. -/
theorem subset_device_syncs (h : Heard) {others : List Nat} (hne : ∀ i ∈ others, hub ≠ i)
    (j : Nat) : h.device j ⊆ (h.run (others.map (.sync hub))).device j := by
  induction others generalizing h with
  | nil => exact Finset.Subset.refl _
  | cons i others ih =>
    rw [List.forall_mem_cons] at hne
    exact (subset_device_sync h hne.1 j).trans (ih (h.step (.sync hub i)) hne.2)

/-- After a round the hub has heard of all that the others had. -/
theorem subset_hub_syncs (h : Heard) {others : List Nat} (hne : ∀ i ∈ others, hub ≠ i) {j : Nat}
    (hj : j ∈ others) : h.device j ⊆ (h.run (others.map (.sync hub))).device hub := by
  induction others generalizing h with
  | nil => cases hj
  | cons i others ih =>
    rw [List.forall_mem_cons] at hne
    rcases List.mem_cons.mp hj with rfl | hj
    · refine Finset.Subset.trans ?_ (subset_device_syncs (h.step (.sync hub j)) hne.2 hub)
      rw [device_sync_self h hne.1]
      exact Finset.subset_union_right
    · exact (subset_device_sync h hne.1 j).trans (ih (h.step (.sync hub i)) hne.2 hj)

/-- And after a round the others have heard of no more than the hub. -/
theorem syncs_subset_hub (h : Heard) {others : List Nat} (hne : ∀ i ∈ others, hub ≠ i) {j : Nat}
    (hj : j ∈ others ∨ h.device j ⊆ h.device hub) :
    (h.run (others.map (.sync hub))).device j ⊆ (h.run (others.map (.sync hub))).device hub := by
  induction others generalizing h with
  | nil => exact hj.resolve_left List.not_mem_nil
  | cons i others ih =>
    rw [List.forall_mem_cons] at hne
    refine ih (h.step (.sync hub i)) hne.2 ?_
    by_cases hi : j = i
    · right
      rw [hi, device_sync_other, device_sync_self h hne.1]
    · rcases hj with hj | hsub
      · exact Or.inl ((List.mem_cons.mp hj).resolve_left hi)
      · right
        by_cases hhub : j = hub
        · rw [hhub]
        · rw [device_sync_of_ne h hhub hi, device_sync_self h hne.1]
          exact hsub.trans Finset.subset_union_left

/-- If the others had heard of no more than the hub, a round gives them all of
it and the hub nothing. -/
theorem syncs_of_subset (h : Heard) {others : List Nat} (hne : ∀ i ∈ others, hub ≠ i)
    (hsub : ∀ i ∈ others, h.device i ⊆ h.device hub) {j : Nat}
    (hj : j ∈ others ∨ h.device j = h.device hub) :
    (h.run (others.map (.sync hub))).device j = h.device hub := by
  induction others generalizing h with
  | nil => exact hj.resolve_left List.not_mem_nil
  | cons i others ih =>
    rw [List.forall_mem_cons] at hne hsub
    have hunion : h.device hub ∪ h.device i = h.device hub := Finset.union_eq_left.mpr hsub.1
    have hhub : (h.step (.sync hub i)).device hub = h.device hub := by
      rw [device_sync_self h hne.1, hunion]
    have hstep : ∀ k, (h.step (.sync hub i)).device k =
        if k = i then h.device hub else h.device k := by
      intro k
      by_cases hki : k = i
      · rw [if_pos hki, hki, device_sync_other, hunion]
      · rw [if_neg hki]
        by_cases hk : k = hub
        · rw [hk, hhub]
        · exact device_sync_of_ne h hk hki
    rw [← hhub]
    refine ih (h.step (.sync hub i)) hne.2 (fun k hk => ?_) ?_
    · rw [hhub, hstep k]
      by_cases hki : k = i
      · rw [if_pos hki]
      · rw [if_neg hki]
        exact hsub.2 k hk
    · by_cases hji : j = i
      · right
        rw [hhub, hstep j, if_pos hji]
      · refine hj.imp (fun hj => (List.mem_cons.mp hj).resolve_left hji) fun hj => ?_
        rw [hhub, hstep j, if_neg hji, hj]

end Heard

theorem hub_ne_of_valid {y : Yrs} {id : String} {hub : Nat} {others : List Nat} {s : Fleet y}
    (hvalid : (Fleet.machine y id).Valid s (others.map (.sync hub))) : ∀ i ∈ others, hub ≠ i := by
  induction others generalizing s with
  | nil => nofun
  | cons i others ih =>
    obtain ⟨henabled, hrest⟩ := hvalid
    exact List.forall_mem_cons.mpr ⟨henabled.1, ih hrest⟩

/-- Two rounds in which one device synchronizes with each of the others make all
of them show the same text, and it has every edit that one of them had. -/
theorem star_sync_converges {y : Yrs} (L : y.Law) {id : String} (hid : Database.Bindable id)
    {calls : List DocCall} {hub : Nat} {others : List Nat}
    (hvalid : (Fleet.machine y id).Valid .empty
      (calls ++ (others.map (.sync hub) ++ others.map (.sync hub)))) :
    let s := (Fleet.machine y id).run .empty
      (calls ++ (others.map (.sync hub) ++ others.map (.sync hub)))
    let before := Heard.empty.run calls
    ∀ i ∈ hub :: others, ∀ dev center, s.device i = some dev → s.device hub = some center →
      dev.document.text = center.document.text ∧ dev.document.len = center.document.len ∧
      ∀ j ∈ hub :: others, ∀ n ∈ before.device j, ∃ text,
        before.texts[n]? = some text ∧ text.toList.Sublist dev.document.text.toList := by
  intro s before i hi dev center hdev hcenter
  have hstart : Tracks L id Fleet.empty Heard.empty Log.empty := .start
  obtain ⟨l, ht⟩ := hstart.run hid hvalid
  have hconv := ht.converges
  have hne : ∀ i ∈ others, hub ≠ i :=
    hub_ne_of_valid (Machine.valid_append.mp (Machine.valid_append.mp hvalid).2).1
  have hrun : Heard.empty.run (calls ++ (others.map (.sync hub) ++ others.map (.sync hub))) =
      (before.run (others.map (.sync hub))).run (others.map (.sync hub)) := by
    simp only [before, Heard.run, List.foldl_append]
  rw [hrun] at hconv
  let first := before.run (others.map (.sync hub))
  have hsub : ∀ j ∈ others, first.device j ⊆ first.device hub :=
    fun j hj => before.syncs_subset_hub hne (Or.inl hj)
  have hall : ∀ j ∈ hub :: others,
      (first.run (others.map (.sync hub))).device j = first.device hub := by
    intro j hj
    refine first.syncs_of_subset hne hsub ?_
    rcases List.mem_cons.mp hj with rfl | hj
    · exact Or.inr rfl
    · exact Or.inl hj
  obtain ⟨htext, hlen⟩ := hconv.agree i hub dev center hdev hcenter
    ((hall i hi).trans (hall hub List.mem_cons_self).symm)
  refine ⟨htext, hlen, fun j hj n hn => ?_⟩
  have hheard : n ∈ first.device hub := by
    rcases List.mem_cons.mp hj with rfl | hj
    · exact before.subset_device_syncs hne _ hn
    · exact before.subset_hub_syncs hne hj hn
  obtain ⟨text, hget, hkept⟩ := hconv.kept hdev (hall i hi ▸ hheard)
  rw [Heard.texts_syncs, Heard.texts_syncs] at hget
  exact ⟨text, hget, hkept⟩

end Presidium
