import Presidium.Crypto.RatchetLemmas

/-!
# The message key of a call

`encrypt` and `decrypt` use one message key each and do not return it.
`nextKey` and `openingKey` name it from the state before the call, and
`nextKey_of_encrypt` and `openingKey_of_decrypt` say that a successful call has
used it.
-/

namespace Presidium.DoubleRatchet

variable {B : Nat → Type} (P : Primitives B)

/-- The message key and the number that the next `encrypt` seals under. -/
def nextKey (r : DoubleRatchet B) : Option (B MESSAGE_KEY_SIZE × UInt64) :=
  match r.ensureSendingChain P with
  | .error _ => none
  | .ok r => r.sendingChain.chainKey.map fun c => ((c.messageKey P).key, c.index)

/-- The message key that `decrypt` tries on a message number. -/
def openingKey (r : DoubleRatchet B) (messageNumber : UInt64) : Option (B MESSAGE_KEY_SIZE) :=
  match r.storedKey messageNumber with
  | some key => some key
  | none => r.receivingChain.chainKey.map fun c => liveKey P c messageNumber

variable {P}

theorem nextKey_of_chain {r : DoubleRatchet B} {c : ChainKey B}
    (h : r.sendingChain.chainKey = some c) :
    r.nextKey P = some ((c.messageKey P).key, c.index) := by
  have hensure : r.ensureSendingChain P = .ok r := by
    unfold ensureSendingChain
    simp only [h]
  unfold nextKey
  simp only [hensure, h]
  rfl

variable [Serde (RatchetMessageHeader B)]

/-- `encrypt` seals under that key and number. -/
theorem nextKey_of_encrypt {r r' : DoubleRatchet B} {plaintext ciphertext : Bytes}
    {header : RatchetMessageHeader B} (h : r.encrypt P plaintext = .ok (ciphertext, header) r') :
    ∃ key, r.nextKey P = some (key, header.messageNumber) ∧
      P.aeadEncrypt key (nonceOf header.messageNumber) (Serde.toVec header) plaintext =
        some ciphertext := by
  obtain ⟨r₁, c, hensure, hkey, hseal, rfl, -⟩ := encrypt_eq_ok P h
  refine ⟨(c.messageKey P).key, ?_, hseal⟩
  unfold nextKey
  simp only [hensure, hkey]
  rfl

/-- `decrypt` opens under that key. -/
theorem openingKey_of_decrypt {r r' : DoubleRatchet B} {ciphertext plaintext : Bytes}
    {header : RatchetMessageHeader B} (h : r.decrypt P ciphertext header = .ok plaintext r') :
    ∃ key, r.openingKey P header.messageNumber = some key ∧
      openWith P key header ciphertext = some plaintext := by
  obtain ⟨key, hopen, ⟨hstored, -⟩ | ⟨hnone, c, hchain, -, rfl, -⟩⟩ := decrypt_eq_ok P h
  · refine ⟨key, ?_, hopen⟩
    unfold openingKey
    rw [hstored]
  · refine ⟨_, ?_, hopen⟩
    unfold openingKey
    rw [hnone, hchain]
    rfl

end Presidium.DoubleRatchet
