import Mathlib.Data.List.Lex
import Mathlib.Data.List.Sort
import Mathlib.Data.Prod.Lex
import Presidium.Storage.DocReplicas

/-!
# A text that keeps the law of the library

The smallest library that keeps `Yrs.Law` and orders text as `yrs` does.  Every
character is an item, which is inserted behind another one, its origin.  The
items are a tree, and the text is read off the tree from the top: an item stands
before all that was inserted behind it, and what was inserted behind the same
item is ordered by the client ids.

An item carries the names of its origin, of the origin of its origin, and so on
to the top.  With its own name at the end this is its path, and the order of the
text is the lexicographic order of the paths.
-/

namespace Presidium

open Replicas

namespace TreeText

/-- A name, the path of the origin and a character. -/
abbrev Item := ItemId × (List ItemId × Char)

def path (a : Item) : List (ℕ ×ₗ ℕ) := (a.2.1 ++ [a.1]).map toLex

def key (a : Item) : List (ℕ ×ₗ ℕ) ×ₗ ℕ := toLex (path a, a.2.2.toNat)

theorem key_injective : Function.Injective key := by
  rintro ⟨name, origin, x⟩ ⟨name', origin', x'⟩ h
  simp only [key, path, EmbeddingLike.apply_eq_iff_eq, Prod.mk.injEq] at h
  obtain ⟨hpath, hchar⟩ := h
  cases Char.toNat_inj.mp hchar
  have hsame := List.map_injective_iff.mpr toLex.injective hpath
  obtain ⟨rfl, hname⟩ := List.append_inj' hsame rfl
  cases hname
  rfl

def Before (a b : Item) : Prop := key a ≤ key b

instance : DecidableRel Before := fun a b => inferInstanceAs (Decidable (key a ≤ key b))

instance : IsTrans Item Before := ⟨fun _ _ _ hab hbc => le_trans hab hbc⟩

instance : Std.Antisymm Before := ⟨fun _ _ hab hba => key_injective (le_antisymm hab hba)⟩

instance : Std.Total Before := ⟨fun a b => le_total (key a) (key b)⟩

theorem before_of_path_lt {a b : Item} (h : path a < path b) : Before a b :=
  Prod.Lex.toLex_le_toLex.mpr (Or.inl h)

theorem path_le_of_before {a b : Item} (h : Before a b) : path a ≤ path b := by
  rcases Prod.Lex.toLex_le_toLex.mp h with hlt | ⟨heq, -⟩
  · exact hlt.le
  · exact heq.le

/-- What is inserted behind an item comes after it. -/
theorem path_lt_of_origin {a b : Item} (h : a.2.1 ++ [a.1] <+: b.2.1) : path a < path b := by
  obtain ⟨t, ht⟩ := h
  have hpath : path b = path a ++ (t ++ [b.1]).map toLex := by
    rw [path, path, ← ht, List.append_assoc, List.map_append]
  rw [hpath]
  have hne : (t ++ [b.1]).map toLex ≠ [] := by simp
  obtain ⟨x, xs, hx⟩ := List.exists_cons_of_ne_nil hne
  have hlt : List.Lex (· < ·) (path a ++ []) (path a ++ x :: xs) :=
    List.Lex.append_left _ List.Lex.nil _
  rw [List.append_nil] at hlt
  rw [hx]
  exact hlt

/-! ## The items in order -/

/-- In order, and each name once. -/
structure Ordered (items : List Item) : Prop where
  sorted : items.Pairwise Before
  distinct : (items.map Prod.fst).Nodup

theorem Ordered.sublist {items items' : List Item} (h : Ordered items) (h' : Ordered items')
    (hsub : ∀ a ∈ items, a ∈ items') : items.Sublist items' :=
  List.sublist_of_subperm_of_pairwise (h.distinct.of_map.subperm hsub) h.sorted h'.sorted

/-- Items after all others come last. -/
theorem Ordered.append {items new : List Item} (h : Ordered items)
    (hnew : new.Pairwise fun a b => path a < path b ∧ a.1 ≠ b.1)
    (hafter : ∀ a ∈ items, ∀ b ∈ new, path a < path b ∧ a.1 ≠ b.1) : Ordered (items ++ new) where
  sorted := by
    refine List.pairwise_append.mpr ⟨h.sorted, hnew.imp fun hab => before_of_path_lt hab.1, ?_⟩
    exact fun a ha b hb => before_of_path_lt (hafter a ha b hb).1
  distinct := by
    have hpairs : (items ++ new).Pairwise fun a b => a.1 ≠ b.1 := by
      refine List.pairwise_append.mpr ⟨List.pairwise_map.mp h.distinct, hnew.imp And.right, ?_⟩
      exact fun a ha b hb => (hafter a ha b hb).2
    exact List.pairwise_map.mpr hpairs

/-- An item of an update takes its place.  An item with a known name is ignored. -/
def integrate (items : List Item) (a : Item) : List Item :=
  if a.1 ∈ items.map Prod.fst then items else items.orderedInsert Before a

theorem Ordered.integrate {items : List Item} (h : Ordered items) (a : Item) :
    Ordered (integrate items a) := by
  rw [TreeText.integrate]
  split
  · exact h
  · rename_i hnew
    refine ⟨h.sorted.orderedInsert a items, ?_⟩
    refine (((List.perm_orderedInsert Before a items).map Prod.fst).nodup_iff).mpr ?_
    exact List.nodup_cons.mpr ⟨hnew, h.distinct⟩

theorem mem_integrate {items : List Item} {a b : Item}
    (h : ∀ c ∈ items, c.1 = a.1 → c = a) : b ∈ integrate items a ↔ b ∈ items ∨ b = a := by
  rw [integrate]
  split
  · rename_i hknown
    obtain ⟨c, hc, hname⟩ := List.mem_map.mp hknown
    have hca : c = a := h c hc hname
    refine ⟨Or.inl, ?_⟩
    rintro (hb | rfl)
    · exact hb
    · exact hca ▸ hc
  · rw [List.mem_orderedInsert, or_comm]

theorem mem_foldl_integrate {update items : List Item} {b : Item}
    (h : NoClash (items.toFinset ∪ update.toFinset)) :
    b ∈ update.foldl integrate items ↔ b ∈ items ∨ b ∈ update := by
  induction update generalizing items with
  | nil => simp
  | cons a update ih =>
    have hone : ∀ c ∈ items, c.1 = a.1 → c = a := by
      rintro ⟨name, x⟩ hc rfl
      have hsame : x = a.2 := h a.1 x a.2 (by simp [hc]) (by simp)
      rw [hsame]
    have hmem : ∀ c, c ∈ integrate items a ↔ c ∈ items ∨ c = a := fun c => mem_integrate hone
    have hsub : (integrate items a).toFinset ∪ update.toFinset ⊆
        items.toFinset ∪ (a :: update).toFinset := by
      intro c hc
      simp only [Finset.mem_union, List.mem_toFinset, hmem, List.mem_cons] at hc ⊢
      tauto
    rw [List.foldl_cons, ih (h.subset hsub), hmem, List.mem_cons, or_assoc]

theorem Ordered.foldl_integrate {items : List Item} (h : Ordered items) (update : List Item) :
    Ordered (update.foldl TreeText.integrate items) := by
  induction update generalizing items with
  | nil => exact h
  | cons a update ih => exact ih (h.integrate a)

/-- The path of the last item, which is the origin of what is added at the end. -/
def lastPath (items : List Item) : List ItemId :=
  (items.getLast?.map fun a => a.2.1 ++ [a.1]).getD []

/-- What has the last item among its origins comes after all items. -/
theorem Ordered.path_lt {items : List Item} (h : Ordered items) {a b : Item} (ha : a ∈ items)
    (hb : lastPath items <+: b.2.1) : path a < path b := by
  obtain ⟨z, hz⟩ : ∃ z, items.getLast? = some z :=
    Option.ne_none_iff_exists'.mp (mt List.getLast?_eq_none_iff.mp (List.ne_nil_of_mem ha))
  rw [lastPath, hz, Option.map_some, Option.getD_some] at hb
  obtain ⟨xs, rfl⟩ := List.getLast?_eq_some_iff.mp hz
  have hle : path a ≤ path z := by
    rcases List.mem_append.mp ha with hx | hx
    · exact path_le_of_before
        ((List.pairwise_append.mp h.sorted).2.2 a hx z (List.mem_singleton_self z))
    · rw [List.mem_singleton.mp hx]
  exact hle.trans_lt (path_lt_of_origin hb)

/-! ## New items -/

/-- Numbers count the units of UTF-16. -/
def width (c : Char) : Nat := if c.toNat < 0x10000 then 1 else 2

theorem width_pos (c : Char) : 0 < width c := by
  rw [width]
  split
  · exact Nat.one_pos
  · exact Nat.two_pos

/-- The characters of a text, each inserted behind the one before it. -/
def chain (client : Nat) : List ItemId → Nat → List Char → List Item
  | _, _, [] => []
  | origin, number, c :: cs =>
    ((client, number), (origin, c)) ::
      chain client (origin ++ [(client, number)]) (number + width c) cs

theorem map_chain (client : Nat) (origin : List ItemId) (number : Nat) (cs : List Char) :
    (chain client origin number cs).map (fun a => a.2.2) = cs := by
  induction cs generalizing origin number with
  | nil => rfl
  | cons c cs ih => simp [chain, ih]

theorem mem_chain {client number : Nat} {origin : List ItemId} {cs : List Char} {a : Item}
    (h : a ∈ chain client origin number cs) :
    a.1.1 = client ∧ number ≤ a.1.2 ∧ origin <+: a.2.1 := by
  induction cs generalizing origin number with
  | nil => cases h
  | cons c cs ih =>
    rcases List.mem_cons.mp h with rfl | h
    · exact ⟨rfl, le_rfl, List.prefix_rfl⟩
    · obtain ⟨hclient, hnumber, horigin⟩ := ih h
      exact ⟨hclient, by omega, (List.prefix_append _ _).trans horigin⟩

theorem pairwise_chain (client : Nat) (origin : List ItemId) (number : Nat) (cs : List Char) :
    (chain client origin number cs).Pairwise fun a b => path a < path b ∧ a.1 ≠ b.1 := by
  induction cs generalizing origin number with
  | nil => exact List.Pairwise.nil
  | cons c cs ih =>
    refine List.pairwise_cons.mpr ⟨fun b hb => ?_, ih _ _⟩
    obtain ⟨-, hnumber, horigin⟩ := mem_chain hb
    refine ⟨path_lt_of_origin horigin, fun heq => ?_⟩
    have hsame : number = b.1.2 := congrArg Prod.snd heq
    have hwidth := width_pos c
    omega

/-- The next number of a client. -/
def clock (client : Nat) : List Item → Nat
  | [] => 0
  | a :: items =>
    if a.1.1 = client then max (a.1.2 + width a.2.2) (clock client items) else clock client items

theorem lt_clock {client : Nat} {items : List Item} {a : Item} (h : a ∈ items)
    (hclient : a.1.1 = client) : a.1.2 < clock client items := by
  induction items with
  | nil => cases h
  | cons b items ih =>
    rw [clock]
    rcases List.mem_cons.mp h with rfl | h
    · rw [if_pos hclient]
      exact Nat.lt_of_lt_of_le (Nat.lt_add_of_pos_right (width_pos _)) (Nat.le_max_left _ _)
    · split
      · exact Nat.lt_of_lt_of_le (ih h) (Nat.le_max_right _ _)
      · exact ih h

/-! ## Updates as bytes -/

/-- A number `n` is `n` ones and a zero. -/
def writeNat (n : Nat) : Bytes := List.replicate n 1 ++ [0]

/-- The numbers, if `n` ones were read before. -/
def readNats : Nat → Bytes → List Nat
  | _, [] => []
  | n, b :: bytes => if b = 0 then n :: readNats 0 bytes else readNats (n + 1) bytes

theorem readNats_writeNat (m n : Nat) (bytes : Bytes) :
    readNats m (writeNat n ++ bytes) = (m + n) :: readNats 0 bytes := by
  induction n generalizing m with
  | zero => rfl
  | succ n ih =>
    calc readNats m (writeNat (n + 1) ++ bytes)
      _ = readNats (m + 1) (writeNat n ++ bytes) := rfl
      _ = (m + 1 + n) :: readNats 0 bytes := ih (m + 1)
      _ = (m + (n + 1)) :: readNats 0 bytes := by rw [Nat.add_right_comm, Nat.add_assoc]

theorem readNats_flatMap (ns : List Nat) : readNats 0 (ns.flatMap writeNat) = ns := by
  induction ns with
  | nil => rfl
  | cons n ns ih => rw [List.flatMap_cons, readNats_writeNat, ih, Nat.zero_add]

/-- An item in numbers, with the length of its path. -/
def writeItem (a : Item) : List Nat :=
  [a.1.1, a.1.2, a.2.2.toNat, a.2.1.length] ++ a.2.1.flatMap fun name => [name.1, name.2]

def readNames : Nat → List Nat → List ItemId × List Nat
  | n + 1, client :: number :: ns =>
    let (names, rest) := readNames n ns
    ((client, number) :: names, rest)
  | _, ns => ([], ns)

/-- As many items as there are, at most `n`. -/
def readItems : Nat → List Nat → List Item
  | n + 1, client :: number :: code :: length :: ns =>
    let (origin, rest) := readNames length ns
    ((client, number), (origin, Char.ofNat code)) :: readItems n rest
  | _, _ => []

theorem readNames_flatMap (names : List ItemId) (ns : List Nat) :
    readNames names.length (names.flatMap (fun name => [name.1, name.2]) ++ ns) = (names, ns) := by
  induction names with
  | nil => rfl
  | cons name names ih => simp [readNames, ih]

theorem readItems_flatMap (items : List Item) :
    ∀ n, items.length ≤ n → readItems n (items.flatMap writeItem) = items := by
  induction items with
  | nil =>
    intro n _
    cases n <;> rfl
  | cons a items ih =>
    intro n hn
    obtain ⟨n, rfl⟩ := Nat.exists_eq_succ_of_ne_zero (Nat.ne_of_gt (Nat.lt_of_lt_of_le
      (Nat.succ_pos _) hn))
    have hrest := ih n (Nat.le_of_succ_le_succ hn)
    simp [writeItem, readItems, readNames_flatMap, hrest]

def encode (items : List Item) : Bytes :=
  (items.length :: items.flatMap writeItem).flatMap writeNat

def decode (bytes : Bytes) : Except String (List Item) :=
  match readNats 0 bytes with
  | [] => .error "UnexpectedEof"
  | n :: ns => .ok (readItems n ns)

theorem decode_encode (items : List Item) : decode (encode items) = .ok items := by
  rw [decode, encode, readNats_flatMap]
  exact congrArg Except.ok (readItems_flatMap items _ (Nat.le_refl _))

/-! ## The library -/

structure Doc where
  client : Nat
  items : List Item
  ordered : Ordered items

namespace Doc

def getString (d : Doc) : String := String.ofList (d.items.map fun a => a.2.2)

/-- The items of a text that is added at the end. -/
def new (d : Doc) (text : String) : List Item :=
  chain d.client (lastPath d.items) (clock d.client d.items) text.toList

theorem new_fresh (d : Doc) {text : String} {name : ItemId} {x : List ItemId × Char}
    (h : (name, x) ∈ d.new text) : name.1 = d.client ∧ ∀ x', (name, x') ∉ d.items := by
  obtain ⟨hclient, hnumber, -⟩ := mem_chain h
  refine ⟨hclient, fun x' hx' => ?_⟩
  have hlt : name.2 < clock d.client d.items := lt_clock hx' hclient
  exact absurd hnumber (Nat.not_le_of_lt hlt)

def append (d : Doc) (text : String) : Doc where
  client := d.client
  items := d.items ++ d.new text
  ordered := by
    refine d.ordered.append (pairwise_chain ..) fun a ha b hb => ⟨?_, ?_⟩
    · exact d.ordered.path_lt ha (mem_chain hb).2.2
    · rintro hname
      have hnew : (b.1, b.2) ∈ d.new text := hb
      exact (d.new_fresh hnew).2 a.2 (hname ▸ ha)

def apply (d : Doc) (update : List Item) : Doc where
  client := d.client
  items := update.foldl integrate d.items
  ordered := d.ordered.foldl_integrate update

end Doc

/-- The wrapper inserts at the end only, so `insert` does not look at the place. -/
def yrs : Yrs where
  Doc := Doc
  Update := List Item
  new client := { client, items := [], ordered := ⟨List.Pairwise.nil, List.nodup_nil⟩ }
  len d := d.getString.utf8ByteSize
  insert d _ text := d.append text
  getString := Doc.getString
  encodeStateAsUpdate d := encode d.items
  decode := decode
  applyUpdate d update := (.ok (), d.apply update)

def law : yrs.Law where
  Content := List ItemId × Char
  decEq := inferInstance
  char x := x.2
  client := Doc.client
  inOrder := Doc.items
  nodup d := d.ordered.distinct.of_map
  client_new _ := rfl
  inOrder_new _ := rfl
  getString_eq _ := rfl
  len_eq _ := rfl
  insert_len d text := by
    refine ⟨rfl, d.new text, rfl, map_chain .., ?_, fun name x => d.new_fresh⟩
    exact List.pairwise_map.mpr ((pairwise_chain ..).imp And.right)
  sublist d d' := d.ordered.sublist d'.ordered
  apply_encode d d' h := by
    refine ⟨d'.items, d.apply d'.items, decode_encode d'.items, rfl, rfl, ?_⟩
    ext b
    rw [Finset.mem_union, List.mem_toFinset, List.mem_toFinset, List.mem_toFinset]
    exact mem_foldl_integrate h

end TreeText

/-- Two devices write at the same time.  The first one starts again from a copy
without the text of the second one, and goes on behind its own text. -/
def TreeText.concurrent : List DocCall :=
  [.join 0 7, .join 1 8, .append 0 "a", .save 0 1, .append 1 "b", .sync 0 1, .restart 0 9,
    .append 0 "c", .mergeFrom 1 0]

theorem replicas_converge_concurrent :
    ((Fleet.machine TreeText.yrs "conv").run .empty TreeText.concurrent).Converges
      (Heard.empty.run TreeText.concurrent) ∧
    (((Fleet.machine TreeText.yrs "conv").run .empty TreeText.concurrent).device 1).map
      (fun dev => dev.document.text) = some "acb" := by
  refine ⟨replicas_converge TreeText.law (by decide) ?_, by decide +kernel⟩
  exact ⟨⟨rfl, by decide⟩, ⟨rfl, by decide⟩, rfl, rfl, rfl, ⟨by decide, rfl, rfl⟩,
    ⟨rfl, by decide⟩, rfl, ⟨by decide, rfl, rfl⟩, trivial⟩

/-- Three devices, two of which write, and two rounds through the third. -/
def TreeText.star : Fleet TreeText.yrs :=
  (Fleet.machine TreeText.yrs "conv").run .empty
    ([.join 0 7, .join 1 8, .join 2 9, .append 1 "b", .append 2 "c"] ++
      (([1, 2] : List Nat).map (.sync 0) ++ ([1, 2] : List Nat).map (.sync 0)))

theorem star_sync_converges_three :
    (TreeText.star.device 2).map (fun dev => dev.document.text) =
      (TreeText.star.device 0).map (fun dev => dev.document.text) ∧
    (TreeText.star.device 0).map (fun dev => dev.document.text) = some "bc" := by
  refine ⟨?_, by decide +kernel⟩
  have hvalid : (Fleet.machine TreeText.yrs "conv").Valid .empty
      ([.join 0 7, .join 1 8, .join 2 9, .append 1 "b", .append 2 "c"] ++
        (([1, 2] : List Nat).map (.sync 0) ++ ([1, 2] : List Nat).map (.sync 0))) :=
    ⟨⟨rfl, by decide⟩, ⟨rfl, by decide⟩, ⟨rfl, by decide⟩, rfl, rfl, ⟨by decide, rfl, rfl⟩,
      ⟨by decide, rfl, rfl⟩, ⟨by decide, rfl, rfl⟩, ⟨by decide, rfl, rfl⟩, trivial⟩
  have hdev : (TreeText.star.device 2).isSome = true := rfl
  have hcenter : (TreeText.star.device 0).isSome = true := rfl
  obtain ⟨dev, hdev⟩ := Option.isSome_iff_exists.mp hdev
  obtain ⟨center, hcenter⟩ := Option.isSome_iff_exists.mp hcenter
  rw [hdev, hcenter]
  exact congrArg some
    (star_sync_converges TreeText.law (by decide) hvalid 2 (by decide) dev center hdev
      hcenter).1

end Presidium
