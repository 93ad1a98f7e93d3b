import Presidium.Crypto.RatchetLemmas
import Presidium.Lib.Window

/-!
# The receiving chain is a window

The receiving half of a ratchet is a chain key and a list of stored keys.
`Tracks` relates it to a `Window`: the chain stands at `next`, and the stored
keys are those of the numbers that were jumped over.

The refinement: `decrypt` on any number moves the window by `arrive`.  On a
number that the window takes it tries the one key that belongs to the number,
whichever of its two paths it goes (`decrypt_takes`).  On a number that was not
taken before this is `deliver` (`decrypt_tracks`).
-/

namespace Presidium

variable {B : Nat → Type} (P : Primitives B)

/-- The stored entry for position `n`. -/
def entryAt (c : ChainKey B) (n : Nat) : UInt64 × B MESSAGE_KEY_SIZE :=
  (UInt64.ofNat n, messageKeyAt P c n)

theorem ofNat_inj_of_lt {n m : Nat} (hn : n < 2 ^ 64) (hm : m < 2 ^ 64)
    (h : UInt64.ofNat n = UInt64.ofNat m) : n = m := by
  have hnat := congrArg UInt64.toNat h
  rwa [UInt64.toNat_ofNat_of_lt' hn, UInt64.toNat_ofNat_of_lt' hm] at hnat

section Zero

variable {c : ChainKey B} (hzero : c.index = 0)
include hzero

theorem advance_index_of_zero (n : Nat) : (c.advance P n).index = UInt64.ofNat n := by
  rw [ChainKey.advance_index, hzero, UInt64.zero_add]

/-- What the catch-up loop stores, in terms of positions. -/
theorem skippedRange_advance (start d : Nat) :
    skippedRange P (c.advance P start) d = (List.range' start d).map (entryAt P c) := by
  unfold skippedRange
  rw [List.range'_eq_map_range, List.map_map]
  refine List.map_congr_left fun k _ => ?_
  rw [ChainKey.advance_advance]
  show ((c.advance P (start + k)).index, messageKeyAt P c (start + k)) = _
  rw [advance_index_of_zero P hzero]
  rfl

end Zero

/-- The stored keys of a list of positions, looked up by number. -/
theorem find_entryAt {c : ChainKey B} {ns : List Nat} (hns : ∀ n ∈ ns, n < 2 ^ 64) {n : Nat}
    (hn : n < 2 ^ 64) :
    ((ns.map (entryAt P c)).find? (fun entry => entry.1 == UInt64.ofNat n)).map Prod.snd =
      if n ∈ ns then some (messageKeyAt P c n) else none := by
  induction ns with
  | nil => rfl
  | cons k ns ih =>
    rw [List.map_cons, List.find?_cons]
    by_cases hk : k = n
    · subst hk
      simp [entryAt]
    · have hne : (UInt64.ofNat k == UInt64.ofNat n) = false :=
        beq_false_of_ne fun h => hk (ofNat_inj_of_lt (hns k List.mem_cons_self) hn h)
      simp only [entryAt, hne]
      rw [ih fun j hj => hns j (List.mem_cons_of_mem k hj)]
      simp only [List.mem_cons, Ne.symm hk, false_or]

namespace DoubleRatchet

/-- The receiving half of `r` is the window `w` over the chain that starts at
`c`. -/
structure Tracks (c : ChainKey B) (w : Window) (r : DoubleRatchet B) : Prop where
  chain : r.receivingChain.chainKey = some (c.advance P w.next)
  stored : r.receivingChain.skippedMessageKeys = w.skipped.map (entryAt P c)

/-- The ratchet with the receiving half that belongs to a window. -/
def withWindow (r : DoubleRatchet B) (c : ChainKey B) (w : Window) : DoubleRatchet B :=
  r.withReceiving (c.advance P w.next) (w.skipped.map (entryAt P c))

variable {P} {c : ChainKey B} {w : Window} {r : DoubleRatchet B}

theorem Tracks.eq_withWindow (h : r.Tracks P c w) : r.withWindow P c w = r := by
  obtain ⟨root, sending, ⟨our, their, chainKey, stored⟩, _, _⟩ := r
  obtain rfl : chainKey = _ := h.chain
  obtain rfl : stored = _ := h.stored
  rfl

theorem Tracks.storedKey_eq (h : r.Tracks P c w) (hskipped : ∀ n ∈ w.skipped, n < 2 ^ 64)
    {n : Nat} (hn : n < 2 ^ 64) :
    r.storedKey (UInt64.ofNat n) =
      if n ∈ w.skipped then some (messageKeyAt P c n) else none := by
  unfold storedKey
  rw [h.stored]
  exact find_entryAt P hskipped hn

theorem Tracks.distance_eq (hzero : c.index = 0) (hnext : w.next < 2 ^ 64) {n : Nat}
    (hn : n < 2 ^ 64) : distance (c.advance P w.next) (UInt64.ofNat n) = n - w.next := by
  unfold distance
  rw [advance_index_of_zero P hzero, UInt64.toNat_ofNat_of_lt' hnext, UInt64.toNat_ofNat_of_lt' hn]

variable [Serde (RatchetMessageHeader B)]

section Arrive

variable (hzero : c.index = 0) (h : r.Tracks P c w) (hskipped : ∀ k ∈ w.skipped, k < 2 ^ 64)
  (hnext : w.next < 2 ^ 64) {n : Nat} (hn : n < 2 ^ 64) {header : RatchetMessageHeader B}
  (hnumber : header.messageNumber = UInt64.ofNat n) (ciphertext : Bytes)
include hzero h hskipped hnext hn hnumber

/-- `decrypt` on a number without a stored key. -/
theorem decrypt_arrive (hmem : n ∉ w.skipped) :
    r.decrypt P ciphertext header =
      if w.InReach MAX_SKIP_MESSAGES n then
        answer (r.withWindow P c (w.arrive MAX_SKIP_MESSAGES n))
          (openWith P (messageKeyAt P c (w.next + (n - w.next))) header ciphertext)
      else
        .error (.ratchetError "Too many skipped messages")
          (r.withWindow P c (w.arrive MAX_SKIP_MESSAGES n)) := by
  have hstored := h.storedKey_eq hskipped hn
  rw [if_neg hmem, ← hnumber] at hstored
  have hdistance : distance (c.advance P w.next) header.messageNumber = n - w.next := by
    rw [hnumber]
    exact Tracks.distance_eq hzero hnext hn
  have hwithin : WithinLimit (c.advance P w.next) r.receivingChain.skippedMessageKeys
      header.messageNumber ↔ w.InReach MAX_SKIP_MESSAGES n := by
    unfold WithinLimit Window.InReach
    rw [hdistance, h.stored, List.length_map]
  rw [decrypt_live P hstored h.chain]
  by_cases hreach : w.InReach MAX_SKIP_MESSAGES n
  · rw [if_pos (hwithin.mpr hreach), if_pos hreach, Window.arrive, if_neg hmem, if_pos hreach]
    unfold tried liveKey
    rw [hdistance, h.stored, skippedRange_advance P hzero, ChainKey.advance_advance,
      ChainKey.advance_advance, ← List.map_append]
    rfl
  · rw [if_neg (fun hlimit => hreach (hwithin.mp hlimit)), if_neg hreach, Window.arrive,
      if_neg hmem, if_neg hreach]
    unfold overrun
    dsimp only
    rw [h.stored, List.length_map, skippedRange_advance P hzero, ChainKey.advance_advance,
      ← List.map_append]
    rfl

/-- `decrypt` on a number that the window takes tries the key of that number,
whichever of its two paths it goes. -/
theorem decrypt_takes (htakes : w.Takes MAX_SKIP_MESSAGES n) :
    r.decrypt P ciphertext header =
      answer (r.withWindow P c (w.arrive MAX_SKIP_MESSAGES n))
        (openWith P (messageKeyAt P c n) header ciphertext) := by
  by_cases hmem : n ∈ w.skipped
  · -- a late message: its key was stored when the chain went past it
    have hstored := h.storedKey_eq hskipped hn
    rw [if_pos hmem, ← hnumber] at hstored
    rw [decrypt_stored P hstored, Window.arrive, if_pos hmem, h.eq_withWindow]
  · obtain ⟨hle, hreach⟩ := htakes.resolve_left hmem
    rw [decrypt_arrive hzero h hskipped hnext hn hnumber ciphertext hmem, if_pos hreach,
      Nat.add_sub_cancel' hle]

end Arrive

/-- On a number that was not taken before, `decrypt` tries the key of that
number and moves the window. -/
theorem decrypt_tracks (hzero : c.index = 0) (h : r.Tracks P c w) {taken : List Nat}
    (haccounts : w.Accounts taken) {n : Nat} (hfresh : n ∉ taken) (hn : n < 2 ^ 64)
    (hnext : w.next < 2 ^ 64) (hlimit : (w.deliver n).skipped.length ≤ MAX_SKIP_MESSAGES)
    {header : RatchetMessageHeader B} (hnumber : header.messageNumber = UInt64.ofNat n)
    (ciphertext : Bytes) :
    r.decrypt P ciphertext header =
      answer (r.withWindow P c (w.deliver n))
        (openWith P (messageKeyAt P c n) header ciphertext) := by
  have hskipped : ∀ k ∈ w.skipped, k < 2 ^ 64 := fun k hk =>
    Nat.lt_trans (haccounts.skipped_lt k hk) hnext
  by_cases hlt : n < w.next
  · have hmem : n ∈ w.skipped := (haccounts.covered n hlt).resolve_right hfresh
    rw [decrypt_takes hzero h hskipped hnext hn hnumber ciphertext (Or.inl hmem), Window.arrive,
      if_pos hmem, Window.deliver_of_lt hlt]
  · have hle : w.next ≤ n := Nat.not_lt.mp hlt
    have hmem : n ∉ w.skipped := fun hk => hlt (haccounts.skipped_lt n hk)
    have hreach : w.InReach MAX_SKIP_MESSAGES n := by
      rw [Window.deliver_of_le hle] at hlimit
      exact Or.inr (by simpa using hlimit)
    rw [decrypt_takes hzero h hskipped hnext hn hnumber ciphertext (Or.inr ⟨hle, hreach⟩),
      Window.arrive_eq_deliver hmem hle hreach]

end DoubleRatchet
end Presidium
