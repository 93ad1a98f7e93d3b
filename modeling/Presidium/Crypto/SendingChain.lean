import Presidium.Crypto.RatchetRuns

/-!
# The sending side of one call

`seals` is the message that a call gives back, together with the text that
went into it.

`apply_sending` is the specification of a call for the sending side.  Only
`encrypt` touches the sending chain, and it moves the chain by one position
whether or not the AEAD succeeds.  The branch of `dh_ratchet` that puts a
fresh chain in its place needs a key pair of ours in the receiving chain, and
`Keyed` says that there never is one.

`nextChain` is the chain that `encrypt` works on.  It is the sending chain, or
the chain that `encrypt` derives on first use.
-/

namespace Presidium

variable {B : Nat → Type}

/-- A message that `encrypt` gave back. -/
structure SealedMessage (B : Nat → Type) where
  plaintext : Bytes
  ciphertext : Bytes
  header : RatchetMessageHeader B

/-- The message number as a position. -/
def SealedMessage.number (m : SealedMessage B) : Nat := m.header.messageNumber.toNat

/-- The message is sealed under the message key at its number on the chain. -/
def SealedMessage.Under (P : Primitives B) [Serde (RatchetMessageHeader B)] (c : ChainKey B)
    (m : SealedMessage B) : Prop :=
  P.aeadEncrypt (messageKeyAt P c m.number) (nonceOf m.header.messageNumber)
    (Serde.toVec m.header) m.plaintext = some m.ciphertext

/-- The message is sealed under some message key of the chain. -/
def SealedMessage.On (P : Primitives B) [Serde (RatchetMessageHeader B)] (c : ChainKey B)
    (m : SealedMessage B) : Prop :=
  ∃ n, P.aeadEncrypt (messageKeyAt P c n) (nonceOf m.header.messageNumber)
    (Serde.toVec m.header) m.plaintext = some m.ciphertext

namespace DoubleRatchet

section Definitions

variable (P : Primitives B)

/-- The chain that the next `encrypt` works on. -/
def nextChain (r : DoubleRatchet B) : Option (ChainKey B) :=
  match r.ensureSendingChain P with
  | .error _ => none
  | .ok r => r.sendingChain.chainKey

variable [Serde (RatchetMessageHeader B)]

/-- The message that a call seals. -/
def seals (r : DoubleRatchet B) : RatchetOp B → List (SealedMessage B)
  | .encrypt plaintext =>
    match r.encrypt P plaintext with
    | .ok (ciphertext, header) _ => [{ plaintext, ciphertext, header }]
    | .error _ _ => []
  | _ => []

/-- The call of `encrypt` has sealed the message `m` with the key at the front
of the chain `c`. -/
structure SealedFrom (r : DoubleRatchet B) (c : ChainKey B) (m : SealedMessage B) : Prop where
  number : m.header.messageNumber = c.index
  ratchetKey : m.header.dhPublicKey = (r.headerFor P c.index).dhPublicKey
  ciphertext : P.aeadEncrypt (c.messageKey P).key (nonceOf m.header.messageNumber)
    (Serde.toVec m.header) m.plaintext = some m.ciphertext

end Definitions

variable {P : Primitives B}

theorem nextChain_of_chain {r : DoubleRatchet B} {c : ChainKey B}
    (h : r.sendingChain.chainKey = some c) : r.nextChain P = some c := by
  have hensure : r.ensureSendingChain P = .ok r := by
    unfold ensureSendingChain
    simp only [h]
  unfold nextChain
  rw [hensure]
  exact h

/-- A chain derived on first use comes from the root key as it is then and the
two ratchet keys, and starts at position zero. -/
theorem nextChain_of_none {r : DoubleRatchet B} {c : ChainKey B}
    (hnone : r.sendingChain.chainKey = none) (h : r.nextChain P = some c) :
    c.index = 0 ∧ ∃ ourKey their, r.sendingChain.ourRatchetKey = some ourKey ∧
      r.sendingChain.theirRatchetPublic = some their ∧
      c = (r.rootKey.ratchetStep P (P.diffieHellman ourKey their)).2 := by
  unfold nextChain at h
  cases hensure : r.ensureSendingChain P with
  | error e =>
    rw [hensure] at h
    cases h
  | ok r₁ =>
    rw [hensure] at h
    have hchain : r₁.sendingChain.chainKey = some c := h
    rcases ensureSendingChain_eq_ok P hensure with rfl | ⟨ourKey, their, hour, htheir, rfl⟩
    · rw [hnone] at hchain
      cases hchain
    · obtain rfl := Option.some.inj hchain
      exact ⟨rfl, ourKey, their, hour, htheir, rfl⟩

variable [Serde (RatchetMessageHeader B)]

/-- Without a chain to work on, `encrypt` leaves the ratchet as it is. -/
theorem encrypt_state_of_none {r : DoubleRatchet B} (h : r.nextChain P = none)
    (plaintext : Bytes) : (r.encrypt P plaintext).state = r := by
  obtain ⟨root, ⟨our, their, chainKey, stored⟩, receiving, sessionId, associatedData⟩ := r
  cases chainKey with
  | some c => cases h
  | none =>
    cases our with
    | none => rfl
    | some ourKey =>
      cases their with
      | none => rfl
      | some peer => cases h

theorem mem_seals {r : DoubleRatchet B} {plaintext : Bytes} {m : SealedMessage B}
    (h : m ∈ seals P r (.encrypt plaintext)) :
    ∃ r', r.encrypt P plaintext = .ok (m.ciphertext, m.header) r' ∧ m.plaintext = plaintext := by
  unfold seals at h
  cases hcall : r.encrypt P plaintext with
  | error e r' =>
    simp only [hcall] at h
    exact absurd h List.not_mem_nil
  | ok answer r' =>
    simp only [hcall] at h
    obtain rfl := List.mem_singleton.mp h
    exact ⟨r', rfl, rfl⟩

theorem seals_length_le (r : DoubleRatchet B) (op : RatchetOp B) :
    (seals P r op).length ≤ 1 := by
  cases op with
  | encrypt plaintext =>
    unfold seals
    cases hcall : r.encrypt P plaintext with
    | error e r' => simp only [hcall, List.length_nil, Nat.zero_le]
    | ok answer r' => simp only [hcall, List.length_singleton, Nat.le_refl]
  | decrypt ciphertext header => exact Nat.zero_le 1
  | dhRatchet peerRatchetPublic => exact Nat.zero_le 1

omit [Serde (RatchetMessageHeader B)] in
private theorem headerFor_congr {r r' : DoubleRatchet B}
    (h : r'.sendingChain.ourRatchetKey = r.sendingChain.ourRatchetKey) (index : UInt64) :
    r'.headerFor P index = r.headerFor P index := by
  unfold headerFor
  rw [h]

/-- What `encrypt` seals, it seals from the chain it works on. -/
theorem sealedFrom_of_mem {r : DoubleRatchet B} {plaintext : Bytes} {m : SealedMessage B}
    (h : m ∈ seals P r (.encrypt plaintext)) :
    ∃ c, r.nextChain P = some c ∧ SealedFrom P r c m := by
  obtain ⟨r', hcall, rfl⟩ := mem_seals h
  obtain ⟨r₁, c, hensure, hchain, hseal, hheader, -⟩ := encrypt_eq_ok P hcall
  have hour : r₁.sendingChain.ourRatchetKey = r.sendingChain.ourRatchetKey := by
    rcases ensureSendingChain_eq_ok P hensure with rfl | ⟨ourKey, their, -, -, rfl⟩
    · rfl
    · rfl
  refine ⟨c, ?_, ?_, ?_, ?_⟩
  · unfold nextChain
    rw [hensure]
    exact hchain
  · rw [hheader]
    rfl
  · rw [hheader, headerFor_congr hour]
  · rw [hheader]
    exact hseal

/-- The sending chain after `encrypt`: one position on, on whatever exit. -/
theorem encrypt_chainKey (r : DoubleRatchet B) (plaintext : Bytes) :
    (r.encrypt P plaintext).state.sendingChain.chainKey =
      match r.nextChain P with
      | none => r.sendingChain.chainKey
      | some c => some (c.next P) := by
  rw [encrypt_state_eq]
  unfold nextChain
  cases hensure : r.ensureSendingChain P with
  | error e => rfl
  | ok r₁ =>
    cases hchain : r₁.sendingChain.chainKey with
    | some c =>
      simp only [hchain]
      rfl
    | none =>
      simp only [hchain]
      rcases ensureSendingChain_eq_ok P hensure with rfl | ⟨ourKey, their, -, -, rfl⟩
      · exact hchain.symm
      · cases hchain

/-- A call leaves the sending chain alone and seals nothing, or it is an
`encrypt` that moves the chain it works on by one. -/
theorem apply_sending {r : DoubleRatchet B} (hr : r.Keyed) (op : RatchetOp B) :
    (seals P r op = [] ∧
        (r.apply P op).sendingChain.chainKey = r.sendingChain.chainKey) ∨
      ∃ plaintext c, op = .encrypt plaintext ∧ r.nextChain P = some c ∧
        (r.apply P op).sendingChain.chainKey = some (c.next P) ∧
        ∀ m ∈ seals P r op, SealedFrom P r c m := by
  cases op with
  | encrypt plaintext =>
    have hafter := encrypt_chainKey (P := P) r plaintext
    cases hnext : r.nextChain P with
    | none =>
      left
      rw [hnext] at hafter
      refine ⟨?_, hafter⟩
      apply List.eq_nil_iff_forall_not_mem.mpr
      intro m hm
      obtain ⟨c, hc, -⟩ := sealedFrom_of_mem hm
      rw [hnext] at hc
      cases hc
    | some c =>
      right
      rw [hnext] at hafter
      refine ⟨plaintext, c, rfl, rfl, hafter, ?_⟩
      intro m hm
      obtain ⟨c', hc', hm⟩ := sealedFrom_of_mem hm
      obtain rfl := Option.some.inj (hnext.symm.trans hc')
      exact hm
  | decrypt ciphertext header =>
    left
    refine ⟨rfl, ?_⟩
    show (r.decrypt P ciphertext header).state.sendingChain.chainKey = _
    rw [decrypt_sendingChain]
  | dhRatchet peerRatchetPublic =>
    left
    refine ⟨rfl, ?_⟩
    obtain ⟨ourKey, hour⟩ := hr.sendingKey
    show (r.dhRatchet P peerRatchetPublic).state.sendingChain.chainKey = _
    rw [dhRatchet_eq P hr.noReceivingKey hour]
    rfl

/-- No call changes our ratchet key. -/
theorem apply_ourRatchetKey {r : DoubleRatchet B} (hr : r.Keyed) (op : RatchetOp B) :
    (r.apply P op).sendingChain.ourRatchetKey = r.sendingChain.ourRatchetKey := by
  cases op with
  | encrypt plaintext => exact (encrypt_state r plaintext).2.1
  | decrypt ciphertext header =>
    show (r.decrypt P ciphertext header).state.sendingChain.ourRatchetKey = _
    rw [decrypt_sendingChain]
  | dhRatchet peerRatchetPublic =>
    obtain ⟨ourKey, hour⟩ := hr.sendingKey
    show (r.dhRatchet P peerRatchetPublic).state.sendingChain.ourRatchetKey = _
    rw [dhRatchet_eq P hr.noReceivingKey hour]
    rfl

end DoubleRatchet
end Presidium
