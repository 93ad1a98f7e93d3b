import Presidium.Crypto.Pqxdh

/-!
# Persisted session state of `session_state.rs`

A ratchet is stored as a flat snapshot.  The chain key and its index are
separate fields there, so reading a snapshot back checks that an index does
not stand without a key.  A snapshot taken of a ratchet always passes, and
`toRatchet_fromRatchet` says that it restores everything but the session id
and the associated data, which are arguments.
-/

namespace Presidium

variable {B : Nat → Type}

/-- The errors of `presidium-storage` that the modelled functions return. -/
inductive StorageError where
  | database (message : String)
  | serialization
  | invalidData (message : String)
  deriving DecidableEq, Repr

/-- Snapshot of a `RatchetChain`. -/
structure ChainSnapshot (B : Nat → Type) where
  ourRatchetKey : Option (B X25519_PRIVATE_KEY_SIZE)
  theirRatchetPublic : Option (B X25519_PUBLIC_KEY_SIZE)
  chainKey : Option (B CHAIN_KEY_SIZE)
  chainIndex : UInt64
  skippedMessageKeys : List (UInt64 × B MESSAGE_KEY_SIZE)

/-- Snapshot of a `DoubleRatchet`. -/
structure RatchetSnapshot (B : Nat → Type) where
  rootKey : B ROOT_KEY_SIZE
  sendingChain : ChainSnapshot B
  receivingChain : ChainSnapshot B

/-- State of one conversation session, as the `sessions` table holds it. -/
structure SessionState (B : Nat → Type) where
  isInitiator : Bool
  sessionKeys : SessionKeys B
  ratchet : Option (RatchetSnapshot B)
  /-- Unix timestamp (ms) of the last use. -/
  lastUsed : Int

namespace ChainSnapshot

def fromChain (chain : RatchetChain B) : ChainSnapshot B :=
  { ourRatchetKey := chain.ourRatchetKey
    theirRatchetPublic := chain.theirRatchetPublic
    chainKey := chain.chainKey.map ChainKey.key
    chainIndex := (chain.chainKey.map ChainKey.index).getD 0
    skippedMessageKeys := chain.skippedMessageKeys }

def toChain (snapshot : ChainSnapshot B) : Except StorageError (RatchetChain B) :=
  let chain (chainKey : Option (ChainKey B)) : RatchetChain B :=
    { ourRatchetKey := snapshot.ourRatchetKey
      theirRatchetPublic := snapshot.theirRatchetPublic
      chainKey
      skippedMessageKeys := snapshot.skippedMessageKeys }
  match snapshot.chainKey with
  | some key => .ok (chain (some { key, index := snapshot.chainIndex }))
  | none =>
    if snapshot.chainIndex = 0 then .ok (chain none)
    else .error (.invalidData "chain snapshot has an index but no chain key")

theorem toChain_fromChain (chain : RatchetChain B) : (fromChain chain).toChain = .ok chain := by
  obtain ⟨our, their, chainKey, skipped⟩ := chain
  cases chainKey with
  | none => rfl
  | some key => rfl

/-- An index does not stand without a key. -/
def Keyed (snapshot : ChainSnapshot B) : Prop :=
  snapshot.chainKey = none → snapshot.chainIndex = 0

/-- A snapshot is rebuilt exactly when it is keyed, and it is the snapshot of
the chain it gives. -/
theorem toChain_eq_ok_iff {snapshot : ChainSnapshot B} {chain : RatchetChain B} :
    snapshot.toChain = .ok chain ↔ snapshot.Keyed ∧ fromChain chain = snapshot := by
  constructor
  · intro h
    obtain ⟨our, their, chainKey, index, skipped⟩ := snapshot
    cases chainKey with
    | some key =>
      cases h
      exact ⟨fun hnone => absurd hnone (by simp), rfl⟩
    | none =>
      by_cases hindex : index = 0
      · subst hindex
        cases h
        exact ⟨fun _ => rfl, rfl⟩
      · simp only [toChain, if_neg hindex] at h
        cases h
  · rintro ⟨-, rfl⟩
    exact toChain_fromChain chain

theorem exists_toChain_iff (snapshot : ChainSnapshot B) :
    (∃ chain, snapshot.toChain = .ok chain) ↔ snapshot.Keyed := by
  constructor
  · rintro ⟨chain, h⟩
    exact (toChain_eq_ok_iff.mp h).1
  · intro hkeyed
    unfold toChain
    cases hkey : snapshot.chainKey with
    | some key => exact ⟨_, rfl⟩
    | none =>
      simp only [if_pos (hkeyed hkey)]
      exact ⟨_, rfl⟩

end ChainSnapshot

namespace RatchetSnapshot

/-- Capture the state of a live ratchet. -/
def fromRatchet (r : DoubleRatchet B) : RatchetSnapshot B :=
  { rootKey := r.rootKey.key
    sendingChain := .fromChain r.sendingChain
    receivingChain := .fromChain r.receivingChain }

/-- Rebuild a live ratchet from the snapshot. -/
def toRatchet (snapshot : RatchetSnapshot B) (sessionId : String) (associatedData : Bytes) :
    Except StorageError (DoubleRatchet B) := do
  let sendingChain ← snapshot.sendingChain.toChain
  let receivingChain ← snapshot.receivingChain.toChain
  return { rootKey := ⟨snapshot.rootKey⟩, sendingChain, receivingChain, sessionId, associatedData }

theorem toRatchet_fromRatchet (r : DoubleRatchet B) (sessionId : String)
    (associatedData : Bytes) :
    (fromRatchet r).toRatchet sessionId associatedData =
      .ok { r with sessionId, associatedData } := by
  unfold toRatchet fromRatchet
  simp only [ChainSnapshot.toChain_fromChain]
  rfl

/-- Neither chain of the snapshot has an index without a key. -/
def Keyed (snapshot : RatchetSnapshot B) : Prop :=
  snapshot.sendingChain.Keyed ∧ snapshot.receivingChain.Keyed

theorem toRatchet_eq_ok {snapshot : RatchetSnapshot B} {sessionId : String}
    {associatedData : Bytes} {r : DoubleRatchet B}
    (h : snapshot.toRatchet sessionId associatedData = .ok r) :
    snapshot.sendingChain.toChain = .ok r.sendingChain ∧
      snapshot.receivingChain.toChain = .ok r.receivingChain ∧ r.rootKey = ⟨snapshot.rootKey⟩ := by
  unfold toRatchet at h
  rw [Except.bind_eq_ok] at h
  obtain ⟨sending, hsending, h⟩ := h
  rw [Except.bind_eq_ok] at h
  obtain ⟨receiving, hreceiving, h⟩ := h
  cases h
  exact ⟨hsending, hreceiving, rfl⟩

/-- A ratchet is rebuilt from a snapshot exactly when the snapshot is keyed. -/
theorem exists_toRatchet_iff (snapshot : RatchetSnapshot B) (sessionId : String)
    (associatedData : Bytes) :
    (∃ r, snapshot.toRatchet sessionId associatedData = .ok r) ↔ snapshot.Keyed := by
  constructor
  · rintro ⟨r, h⟩
    obtain ⟨hsending, hreceiving, -⟩ := toRatchet_eq_ok h
    exact ⟨(ChainSnapshot.exists_toChain_iff _).mp ⟨_, hsending⟩,
      (ChainSnapshot.exists_toChain_iff _).mp ⟨_, hreceiving⟩⟩
  · rintro ⟨hsending, hreceiving⟩
    obtain ⟨sending, hsending⟩ := (ChainSnapshot.exists_toChain_iff _).mpr hsending
    obtain ⟨receiving, hreceiving⟩ := (ChainSnapshot.exists_toChain_iff _).mpr hreceiving
    unfold toRatchet
    rw [hsending, hreceiving]
    exact ⟨_, rfl⟩

theorem fromRatchet_toRatchet {snapshot : RatchetSnapshot B} {sessionId : String}
    {associatedData : Bytes} {r : DoubleRatchet B}
    (h : snapshot.toRatchet sessionId associatedData = .ok r) : fromRatchet r = snapshot := by
  obtain ⟨hsending, hreceiving, hroot⟩ := toRatchet_eq_ok h
  unfold fromRatchet
  rw [(ChainSnapshot.toChain_eq_ok_iff.mp hsending).2,
    (ChainSnapshot.toChain_eq_ok_iff.mp hreceiving).2, hroot]

end RatchetSnapshot
end Presidium
