import Presidium.Demo.SymbolicJson

/-!
# What an envelope signature binds

`build_raw_envelope` signs the header followed by the payload, and
`verify_envelope` checks just that.  The other fields of the envelope are not
signed, and the border between header and payload is not marked.  So a
signature binds the concatenation of the two, and each of them only where the
length of the header is known.
-/

namespace Presidium

variable {B : Nat → Type}

/-- Agreement on every field that a receiver acts on. -/
structure NetworkEnvelope.Agree (a b : NetworkEnvelope) : Prop where
  kind : a.kind = b.kind
  conversationId : a.conversationId = b.conversationId
  senderDeviceId : a.senderDeviceId = b.senderDeviceId
  timestamp : a.timestamp = b.timestamp
  nonce : a.nonce = b.nonce
  encryptedPayload : a.encryptedPayload = b.encryptedPayload

section Verify

variable {P : Primitives B} [Serde (HybridSignature B)] {peer : IdentityPublicKey B}

theorem verifyEnvelope_eq_true_iff {envelope : NetworkEnvelope} :
    verifyEnvelope P peer envelope = .ok true ↔
      ∃ signature : HybridSignature B, Serde.fromSlice envelope.signature = some signature ∧
        IdentityKeyPair.verifyHybrid P peer
          (signedBytes envelope.nonce envelope.encryptedPayload) signature = .ok () := by
  unfold verifyEnvelope
  cases hparse : (Serde.fromSlice envelope.signature : Option (HybridSignature B)) with
  | none => simp
  | some signature =>
    cases hverify : IdentityKeyPair.verifyHybrid P peer
        (signedBytes envelope.nonce envelope.encryptedPayload) signature with
    | ok u => simp [hverify]
    | error e => simp [hverify]

/-- The verdict depends on the signature and on the signed bytes only. -/
theorem verifyEnvelope_congr {a b : NetworkEnvelope} (hsignature : b.signature = a.signature)
    (hsigned : signedBytes b.nonce b.encryptedPayload = signedBytes a.nonce a.encryptedPayload) :
    verifyEnvelope P peer b = verifyEnvelope P peer a := by
  unfold verifyEnvelope
  rw [hsignature, hsigned]

theorem signedBytes_eq_of_verifyEnvelope (hideal : IdentityKeyPair.SignaturesIdeal P)
    {a b : NetworkEnvelope} (ha : verifyEnvelope P peer a = .ok true)
    (hb : verifyEnvelope P peer b = .ok true) (hsignature : b.signature = a.signature) :
    signedBytes b.nonce b.encryptedPayload = signedBytes a.nonce a.encryptedPayload := by
  obtain ⟨signature, hparse, hverify⟩ := verifyEnvelope_eq_true_iff.mp ha
  obtain ⟨signature', hparse', hverify'⟩ := verifyEnvelope_eq_true_iff.mp hb
  have hsame : signature' = signature := by
    rw [hsignature, hparse] at hparse'
    exact (Option.some.inj hparse').symm
  subst hsame
  exact hideal peer _ _ _ hverify' hverify

/-- Signed bytes give header and payload back where the length of the header is
known. -/
theorem signedBytes_inj {header header' payload payload' : Bytes}
    (hlength : header'.length = header.length)
    (h : signedBytes header' payload' = signedBytes header payload) :
    header' = header ∧ payload' = payload :=
  List.append_inj h hlength

end Verify

/-- Under one identity and one signature, exactly the envelopes with the signed
bytes of an accepted one are accepted.  Those whose headers have one length
agree on header and payload. -/
theorem signature_binds_signedBytes (P : Primitives B) [Serde (HybridSignature B)]
    (hideal : IdentityKeyPair.SignaturesIdeal P) (peer : IdentityPublicKey B)
    (a b : NetworkEnvelope) (ha : verifyEnvelope P peer a = .ok true)
    (hsignature : b.signature = a.signature) :
    (verifyEnvelope P peer b = .ok true ↔
      signedBytes b.nonce b.encryptedPayload = signedBytes a.nonce a.encryptedPayload) ∧
      (verifyEnvelope P peer b = .ok true → b.nonce.length = a.nonce.length →
        b.nonce = a.nonce ∧ b.encryptedPayload = a.encryptedPayload) := by
  constructor
  · constructor
    · intro hb
      exact signedBytes_eq_of_verifyEnvelope hideal ha hb hsignature
    · intro hsigned
      rw [verifyEnvelope_congr hsignature hsigned]
      exact ha
  · intro hb hlength
    exact signedBytes_inj hlength (signedBytes_eq_of_verifyEnvelope hideal ha hb hsignature)

namespace Sym

theorem signaturesIdeal : IdentityKeyPair.SignaturesIdeal primitives := by
  intro pub message message' sig h h'
  have hsig : sig.classical = 8 :: (frame pub.classical.tail ++ message) :=
    eq_of_beq (IdentityKeyPair.ed25519Verify_of_verifyHybrid h)
  have hsig' : sig.classical = 8 :: (frame pub.classical.tail ++ message') :=
    eq_of_beq (IdentityKeyPair.ed25519Verify_of_verifyHybrid h')
  exact (frame_append_inj (List.cons.inj (hsig.symm.trans hsig')).2).2

/-- A chat envelope as its sender made it. -/
def signedEnvelope : NetworkEnvelope :=
  buildRawEnvelope primitives alice "a1" KIND_DIRECT (asBytes "a1") [5, 6] [123, 125] 10

/-- The same signature in an envelope for another conversation, of another
kind, device and time. -/
def retargeted : NetworkEnvelope :=
  { signedEnvelope with
    kind := KIND_SYNC
    conversationId := asBytes "b2"
    senderDeviceId := asBytes "b2"
    timestamp := 11 }

/-- The same signature with one byte of the header moved to the payload. -/
def resplit : NetworkEnvelope :=
  { signedEnvelope with nonce := [123], encryptedPayload := [125, 5, 6] }

end Sym

theorem signature_binds_retargeted :
    verifyEnvelope Sym.primitives (Sym.alice.publicKey Sym.primitives) Sym.retargeted = .ok true ∧
      Sym.retargeted.encryptedPayload = Sym.signedEnvelope.encryptedPayload := by
  have haccepted : verifyEnvelope Sym.primitives (Sym.alice.publicKey Sym.primitives)
      Sym.signedEnvelope = .ok true := by decide +kernel
  have hbinds := signature_binds_signedBytes Sym.primitives Sym.signaturesIdeal _ _ Sym.retargeted
    haccepted rfl
  have hretargeted := hbinds.1.mpr rfl
  exact ⟨hretargeted, (hbinds.2 hretargeted rfl).2⟩

/-- One signature of one identity is accepted on an envelope for another
conversation, and on one with another border between header and payload. -/
theorem signature_leaves_fields_open :
    IdentityKeyPair.SignaturesIdeal Sym.primitives ∧
      verifyEnvelope Sym.primitives (Sym.alice.publicKey Sym.primitives) Sym.signedEnvelope =
        .ok true ∧
      (verifyEnvelope Sym.primitives (Sym.alice.publicKey Sym.primitives) Sym.retargeted =
          .ok true ∧
        Sym.retargeted.signature = Sym.signedEnvelope.signature ∧
        ¬ Sym.retargeted.Agree Sym.signedEnvelope) ∧
      verifyEnvelope Sym.primitives (Sym.alice.publicKey Sym.primitives) Sym.resplit = .ok true ∧
      Sym.resplit.signature = Sym.signedEnvelope.signature ∧
      ¬ Sym.resplit.Agree Sym.signedEnvelope := by
  refine ⟨Sym.signaturesIdeal, ?_, ⟨?_, rfl, ?_⟩, ?_, rfl, ?_⟩
  · decide +kernel
  · decide +kernel
  · intro hagree
    exact absurd hagree.conversationId (by decide +kernel)
  · decide +kernel
  · intro hagree
    exact absurd (congrArg List.length hagree.nonce) (by decide)

end Presidium
