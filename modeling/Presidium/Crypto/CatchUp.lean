import Presidium.Crypto.Replay
import Presidium.Lib.WhileLoop

/-!
# The turns of the catch-up loop

`catchUp` computes the loop of `decrypt` with fuel.  Here the loop stands as
the `while` loop that it is in the source, and `catchUp` is its run.  Every
turn stores one key and goes on only within the limit, so the room that is
left for keys bounds the turns, for a message number of any size.

The counter of a chain is a `u64`.  Below its target it does not wrap, so the
loop meets every number between the chain and the target once.  Behind the
largest number it wraps to 0, with the `next` that follows the loop.
-/

namespace Presidium

variable {B : Nat → Type} (P : Primitives B)

namespace DoubleRatchet

/-- The loop of `decrypt`, up to the message number of the header. -/
def catchUpLoop (messageNumber : UInt64) :
    WhileLoop CryptoError (ChainKey B × List (UInt64 × B MESSAGE_KEY_SIZE)) where
  cond s := s.1.index < messageNumber
  body s :=
    let msgKey := s.1.messageKey P
    let skipped := s.2 ++ [(msgKey.index, msgKey.key)]
    if skipped.length > MAX_SKIP_MESSAGES then
      .error (.ratchetError "Too many skipped messages") (s.1, skipped)
    else
      .ok () (s.1.next P, skipped)

theorem catchUp_eq_run (messageNumber : UInt64) (fuel : Nat) (chain : ChainKey B)
    (skipped : List (UInt64 × B MESSAGE_KEY_SIZE)) :
    catchUp P messageNumber fuel chain skipped =
      (catchUpLoop P messageNumber).run fuel (chain, skipped) := by
  induction fuel generalizing chain skipped with
  | zero => rfl
  | succ fuel ih =>
    unfold catchUp WhileLoop.run
    by_cases hlt : chain.index < messageNumber
    · simp only [catchUpLoop, hlt, decide_true, if_true]
      split
      · rfl
      · exact ih _ _
    · simp only [catchUpLoop, hlt, decide_false, if_false, Bool.false_eq_true]

/-- A turn that goes on has stored one key, and there was room for it. -/
theorem length_of_catchUpLoop_body {messageNumber : UInt64}
    {s s' : ChainKey B × List (UInt64 × B MESSAGE_KEY_SIZE)}
    (h : (catchUpLoop P messageNumber).body s = .ok () s') :
    s'.2.length = s.2.length + 1 ∧ s'.2.length ≤ MAX_SKIP_MESSAGES := by
  simp only [catchUpLoop] at h
  split at h
  next => cases h
  next hroom =>
    cases h
    exact ⟨List.length_append, Nat.not_lt.mp hroom⟩

/-- The room for keys bounds the turns of the loop. -/
theorem exists_takes_catchUpLoop (messageNumber : UInt64) (chain : ChainKey B)
    (skipped : List (UInt64 × B MESSAGE_KEY_SIZE)) :
    ∃ turns out, turns ≤ max 1 (MAX_SKIP_MESSAGES + 1 - skipped.length) ∧
      (catchUpLoop P messageNumber).Takes turns (chain, skipped) out := by
  refine WhileLoop.exists_takes (fun s => MAX_SKIP_MESSAGES + 1 - s.2.length) ?_ (chain, skipped)
  intro s s' _ hbody
  obtain ⟨hlength, hroom⟩ := length_of_catchUpLoop_body P hbody
  show 0 < MAX_SKIP_MESSAGES + 1 - s'.2.length ∧
    MAX_SKIP_MESSAGES + 1 - s'.2.length < MAX_SKIP_MESSAGES + 1 - s.2.length
  omega

/-- What the loop stores on its way, by message numbers. -/
theorem skippedRange_eq_numbers (chain : ChainKey B) (messageNumber : UInt64) :
    skippedRange P chain (distance chain messageNumber) =
      (List.range' chain.index.toNat (messageNumber.toNat - chain.index.toNat)).map fun j =>
        (UInt64.ofNat j, ((chain.advance P (j - chain.index.toNat)).messageKey P).key) := by
  have hrange : List.range' chain.index.toNat (messageNumber.toNat - chain.index.toNat) =
      (List.range (distance chain messageNumber)).map (chain.index.toNat + ·) :=
    List.range'_eq_map_range
  rw [hrange, List.map_map, skippedRange]
  refine List.map_congr_left fun k _ => ?_
  have hindex : (chain.advance P k).index = UInt64.ofNat (chain.index.toNat + k) := by
    rw [ChainKey.advance_index, UInt64.ofNat_add, UInt64.ofNat_toNat]
  simp only [Function.comp_apply, Nat.add_sub_cancel_left]
  exact congrArg (·, _) hindex

theorem advance_distance_index {chain : ChainKey B} {messageNumber : UInt64}
    (hle : chain.index ≤ messageNumber) :
    (chain.advance P (distance chain messageNumber + 1)).index = messageNumber + 1 := by
  have hnat : chain.index.toNat ≤ messageNumber.toNat := UInt64.le_iff_toNat_le.mp hle
  have hsum : chain.index.toNat + distance chain messageNumber = messageNumber.toNat := by
    unfold distance
    omega
  rw [ChainKey.advance_succ]
  show (chain.advance P (distance chain messageNumber)).index + 1 = messageNumber + 1
  rw [ChainKey.advance_index, ← UInt64.ofNat_toNat (x := chain.index), ← UInt64.ofNat_add, hsum,
    UInt64.ofNat_toNat]

section Main

variable {P} [Serde (RatchetMessageHeader B)]

/-- The loop is bounded, whatever the message number, and a message that is
taken off a chain within the limit moves the chain behind its number and
stores the keys of the numbers in between.  Nothing else changes. -/
theorem catch_up_bounded_and_exact {r : DoubleRatchet B} {chain : ChainKey B}
    (hchain : r.receivingChain.chainKey = some chain) (header : RatchetMessageHeader B) :
    (∃ turns out,
        turns ≤ max 1 (MAX_SKIP_MESSAGES + 1 - r.receivingChain.skippedMessageKeys.length) ∧
        (catchUpLoop P header.messageNumber).Takes turns
          (chain, r.receivingChain.skippedMessageKeys) out ∧
        ∀ fuel, turns ≤ fuel →
          catchUp P header.messageNumber fuel chain r.receivingChain.skippedMessageKeys = out) ∧
      (chain.index ≤ header.messageNumber →
        header.messageNumber ∉ r.receivingChain.skippedMessageKeys.map Prod.fst →
        r.receivingChain.skippedMessageKeys.length +
            (header.messageNumber.toNat - chain.index.toNat) ≤ MAX_SKIP_MESSAGES →
        ∀ ciphertext plaintext r', r.decrypt P ciphertext header = .ok plaintext r' →
          ∃ chain', r'.receivingChain.chainKey = some chain' ∧
            chain'.index = header.messageNumber + 1 ∧
            chain' = chain.advance P (header.messageNumber.toNat + 1 - chain.index.toNat) ∧
            r'.receivingChain.skippedMessageKeys =
              r.receivingChain.skippedMessageKeys ++
                (List.range' chain.index.toNat
                  (header.messageNumber.toNat - chain.index.toNat)).map (fun j =>
                    (UInt64.ofNat j,
                      ((chain.advance P (j - chain.index.toNat)).messageKey P).key)) ∧
            r'.rootKey = r.rootKey ∧ r'.sendingChain = r.sendingChain ∧
            r'.receivingChain.ourRatchetKey = r.receivingChain.ourRatchetKey ∧
            r'.receivingChain.theirRatchetPublic = r.receivingChain.theirRatchetPublic ∧
            r'.sessionId = r.sessionId ∧ r'.associatedData = r.associatedData) := by
  constructor
  · obtain ⟨turns, out, hbound, htakes⟩ := exists_takes_catchUpLoop P header.messageNumber chain
      r.receivingChain.skippedMessageKeys
    refine ⟨turns, out, hbound, htakes, fun fuel hfuel => ?_⟩
    rw [catchUp_eq_run]
    exact htakes.run_eq hfuel
  · intro hle hstored _ ciphertext plaintext r' hrun
    have hnat : chain.index.toNat ≤ header.messageNumber.toNat := UInt64.le_iff_toNat_le.mp hle
    obtain ⟨key, -, ⟨hkey, -⟩ | ⟨-, chain₀, hchain₀, -, -, rfl⟩⟩ := decrypt_eq_ok P hrun
    · exact absurd (List.mem_map_of_mem (mem_of_storedKey hkey)) hstored
    · obtain rfl : chain = chain₀ := Option.some.inj (hchain.symm.trans hchain₀)
      have hturns : distance chain header.messageNumber + 1 =
          header.messageNumber.toNat + 1 - chain.index.toNat := by
        unfold distance
        omega
      refine ⟨chain.advance P (distance chain header.messageNumber + 1), rfl,
        advance_distance_index P hle, by rw [hturns], ?_, rfl, rfl, rfl, rfl, rfl, rfl⟩
      rw [← skippedRange_eq_numbers P chain header.messageNumber]
      rfl

end Main

/-- The second message overtakes the first. -/
theorem catch_up_overtaking :
    ∃ message chain plaintext r' chain',
      Sym.twoMessages[1]? = some message ∧
      ((machine Sym.primitives).run Sym.receiver (Sym.deliveries [])).receivingChain.chainKey =
        some chain ∧
      ((machine Sym.primitives).run Sym.receiver (Sym.deliveries [])).decrypt Sym.primitives
        message.1 message.2 = .ok plaintext r' ∧
      r'.receivingChain.chainKey = some chain' ∧ chain'.index = message.2.messageNumber + 1 ∧
      r'.receivingChain.skippedMessageKeys = [(0, (chain.messageKey Sym.primitives).key)] := by
  obtain ⟨message, hmessage, hnumber, hok⟩ : ∃ message, Sym.twoMessages[1]? = some message ∧
      message.2.messageNumber = 1 ∧
      (((machine Sym.primitives).run Sym.receiver (Sym.deliveries [])).decrypt Sym.primitives
        message.1 message.2).IsOk := ⟨_, rfl, by decide +kernel, by decide +kernel⟩
  obtain ⟨chain, hchain, hindex⟩ : ∃ chain,
      ((machine Sym.primitives).run Sym.receiver (Sym.deliveries [])).receivingChain.chainKey =
        some chain ∧ chain.index = 0 := ⟨_, rfl, rfl⟩
  obtain ⟨plaintext, r', hrun⟩ := Outcome.isOk_iff.mp hok
  obtain ⟨chain', hchain', hnext, -, hskipped, -⟩ :=
    (catch_up_bounded_and_exact hchain message.2).2 (by rw [hindex, hnumber]; decide)
      List.not_mem_nil (by rw [hindex, hnumber]; decide) _ _ _ hrun
  refine ⟨message, chain, plaintext, r', chain', hmessage, hchain, hrun, hchain', hnext, ?_⟩
  rw [hindex, hnumber] at hskipped
  exact hskipped

end DoubleRatchet
end Presidium
