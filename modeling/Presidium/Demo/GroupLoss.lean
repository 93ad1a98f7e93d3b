import Presidium.Demo.GroupOrder

/-!
# Group messages after a loss

The reader has no way to skip a position: the index in the header makes the
nonce, but the key is the one at which the reader's chain stands.  So the first
publication that does not arrive, lost on the way or failed in `publish`, is the
last that matters: no later one is opened.
-/

namespace Presidium

variable {B : Nat → Type}

/-- Results that are all successes. -/
theorem map_toOption_eq_iff {ε α : Type} {results : List (Except ε α)} {values : List α} :
    results.map Except.toOption = values.map some ↔ results = values.map .ok := by
  constructor
  · intro h
    induction results generalizing values with
    | nil =>
      cases values with
      | nil => rfl
      | cons v vs => cases h
    | cons r rs ih =>
      cases values with
      | nil => cases h
      | cons v vs =>
        obtain ⟨hfirst, hrest⟩ := List.cons.inj h
        rw [List.map_cons, ih hrest]
        cases r with
        | error e => cases hfirst
        | ok a => rw [Option.some.inj hfirst]
  · intro h
    rw [h, List.map_map]
    rfl

namespace Broadcast

variable (P : Primitives B) [Serde (HybridSignature B)] [Serde SenderKeyMessage]
  (b : Broadcast B)

/-- Publication number `i` went out and was not dropped. -/
def remains (arrives : Nat → Bool) (i : Nat) : Bool :=
  arrives i && ((b.sent P)[i]?.join).isSome

/-- The numbers of the publications that remain. -/
def remainingNumbers (arrives : Nat → Bool) : List Nat :=
  (List.range b.publications.length).filter (b.remains P arrives)

/-- Their envelopes, in publication order. -/
def remaining (arrives : Nat → Bool) : List NetworkEnvelope :=
  (b.remainingNumbers P arrives).filterMap fun i => (b.sent P)[i]?.join

variable {P} {b}

theorem sent_of_mem_remainingNumbers {arrives : Nat → Bool} {i : Nat}
    (h : i ∈ b.remainingNumbers P arrives) : ∃ e, (b.sent P)[i]? = some (some e) := by
  have hremains := (List.mem_filter.mp h).2
  unfold remains at hremains
  rw [Bool.and_eq_true] at hremains
  obtain ⟨e, he⟩ := Option.isSome_iff_exists.mp hremains.2
  exact ⟨e, Option.join_eq_some_iff.mp he⟩

theorem genuine_of_mem_remaining {arrives : Nat → Bool} {e : NetworkEnvelope}
    (h : e ∈ b.remaining P arrives) : b.Genuine P e := by
  intro _
  obtain ⟨i, -, hi⟩ := List.mem_filterMap.mp h
  exact Or.inl ⟨i, e, Option.join_eq_some_iff.mp hi, rfl, rfl⟩

/-- They bring their numbers. -/
theorem map_position_remaining [LawfulSerde (HybridSignature B)] (hsig : P.SignaturesVerify)
    (hideal : P.AeadIdeal) (hdistinct : b.DistinctKeys P) (arrives : Nat → Bool) :
    (b.remaining P arrives).map (b.position P) = (b.remainingNumbers P arrives).map some := by
  unfold remaining
  have hsent : ∀ i ∈ b.remainingNumbers P arrives, ∃ e, (b.sent P)[i]? = some (some e) :=
    fun i hi => sent_of_mem_remainingNumbers hi
  generalize b.remainingNumbers P arrives = numbers at hsent
  induction numbers with
  | nil => rfl
  | cons i rest ih =>
    obtain ⟨e, he⟩ := hsent i List.mem_cons_self
    have hjoin : (b.sent P)[i]?.join = some e := Option.join_eq_some_iff.mpr he
    have hrest := ih fun j hj => hsent j (List.mem_cons_of_mem _ hj)
    rw [List.filterMap_cons]
    simp only [hjoin]
    rw [List.map_cons, List.map_cons, position_sent hsig hideal hdistinct he, hrest]

end Broadcast

/-- Each remaining envelope is decrypted to the plaintext of its number exactly
when no publication that failed or was dropped comes before one that remains. -/
theorem group_survives_loss_iff (P : Primitives B) [Serde (HybridSignature B)]
    [LawfulSerde (HybridSignature B)] [Serde SenderKeyMessage] [LawfulSerde SenderKeyMessage]
    (hsig : P.SignaturesVerify) (hround : P.AeadRoundTrip) (hideal : P.AeadIdeal)
    (b : Broadcast B) (hdistinct : b.DistinctKeys P) (g : GroupChat B)
    (hgroup : g.groupId = b.chat.groupId) (arrives : Nat → Bool) :
    (b.subscribe P g).results P (b.remaining P arrives) =
        (b.remainingNumbers P arrives).map (fun i => .ok (b.textAt i)) ↔
      ∀ i j, i < j → j < b.publications.length → b.remains P arrives j = true →
        b.remains P arrives i = true := by
  have hreader := Broadcast.readerAt_subscribe (P := P) hgroup
  have hgenuine : ∀ e ∈ b.remaining P arrives, b.Genuine P e :=
    fun e he => Broadcast.genuine_of_mem_remaining he
  have hresults := (hreader.run hround hideal hdistinct (by omega) hgenuine).1
  rw [Broadcast.map_position_remaining hsig hideal hdistinct] at hresults
  rw [← InOrder.filter_range_eq_iff]
  show _ ↔ b.remainingNumbers P arrives =
    List.range' 0 (b.remainingNumbers P arrives).length
  rw [← InOrder.outcomes_eq_self_iff]
  set numbers := b.remainingNumbers P arrives with hnumbers
  have hvalues : numbers.map (fun i => (.ok (b.textAt i) : Except AppError Bytes)) =
      (numbers.map b.textAt).map .ok := by
    rw [List.map_map]
    rfl
  rw [hvalues, ← map_toOption_eq_iff, hresults]
  constructor
  · intro h
    apply InOrder.outcomes_eq_of_isSome
    intro o ho
    have hmem : o.map b.textAt ∈ (numbers.map b.textAt).map some := by
      rw [← h]
      exact List.mem_map_of_mem ho
    obtain ⟨text, -, htext⟩ := List.mem_map.mp hmem
    cases o with
    | none => cases htext
    | some n => rfl
  · intro h
    rw [h, List.map_map, List.map_map]
    rfl

/-! ## A message that is lost -/

namespace Sym

/-- The first of two messages is dropped. -/
def firstDropped (i : Nat) : Bool := i != 0

/-- The second one is. -/
def secondDropped (i : Nat) : Bool := i != 1

end Sym

open scoped Presidium.Sym in
/-- Losing the last message costs nothing else. -/
theorem group_survives_last_loss :
    (Sym.twoPublications.subscribe Sym.primitives .new).results Sym.primitives
        (Sym.twoPublications.remaining Sym.primitives Sym.secondDropped) = [.ok [1]] := by
  have hlast := (group_survives_loss_iff Sym.primitives Sym.signaturesVerify Sym.aeadRoundTrip
    Sym.aeadIdeal Sym.twoPublications (Sym.distinctKeys _) .new rfl Sym.secondDropped).mpr (by
      have hsecond : Sym.twoPublications.remains Sym.primitives Sym.secondDropped 1 = false := by
        decide +kernel
      intro i j hij hj hremains
      have hj' : j < 2 := hj
      obtain rfl : j = 1 := by omega
      rw [hsecond] at hremains
      cases hremains)
  have hnumbers : Sym.twoPublications.remainingNumbers Sym.primitives Sym.secondDropped = [0] := by
    decide +kernel
  rw [hlast, hnumbers]
  rfl

open scoped Presidium.Sym in
/-- The first of two messages is lost, and the second, which arrives, is not
decrypted. -/
theorem lost_message_blocks_group :
    Sym.twoPublications.DistinctKeys Sym.primitives ∧
      Sym.twoPublications.remainingNumbers Sym.primitives Sym.firstDropped = [1] ∧
      (Sym.twoPublications.subscribe Sym.primitives .new).results Sym.primitives
          (Sym.twoPublications.remaining Sym.primitives Sym.firstDropped) =
        [.error (.crypto .decryptionFailed)] := by
  refine ⟨Sym.distinctKeys _, ?_, ?_⟩
  · decide +kernel
  · decide +kernel

end Presidium
