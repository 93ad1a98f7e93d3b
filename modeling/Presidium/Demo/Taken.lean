import Presidium.Demo.Accepted

/-!
# What a message must be to be taken

`Accepted` says which calls of an arm have to succeed.  Here those calls are
taken apart, down to the bytes of the envelope, the draws and the fields of the
state: what parses, which signature verifies, which key there is for a message
number, what the AEAD and the KEM do with it, and whether the rows fit.

`Taken` is decidable for primitives that can be run.
-/

namespace Presidium

variable {B : Nat → Type}

open Outcome (IsOk)

/-! ## Signatures -/

/-- The signature of the envelope parses, and it is one of `peer`. -/
def NetworkEnvelope.Verifies (P : Primitives B) [Serde (HybridSignature B)]
    (envelope : NetworkEnvelope) (peer : IdentityPublicKey B) : Prop :=
  ∃ signature ∈ (Serde.fromSlice envelope.signature : Option (HybridSignature B)),
    IdentityKeyPair.verifyHybrid P peer (signedBytes envelope.nonce envelope.encryptedPayload)
      signature = .ok ()

instance (P : Primitives B) [Serde (HybridSignature B)] (envelope : NetworkEnvelope)
    (peer : IdentityPublicKey B) : Decidable (envelope.Verifies P peer) :=
  inferInstanceAs (Decidable (∃ _ ∈ _, _))

theorem verifyEnvelope_iff {P : Primitives B} [Serde (HybridSignature B)]
    {peer : IdentityPublicKey B} {envelope : NetworkEnvelope} :
    verifyEnvelope P peer envelope = .ok true ↔ envelope.Verifies P peer := by
  unfold verifyEnvelope NetworkEnvelope.Verifies
  cases (Serde.fromSlice envelope.signature : Option (HybridSignature B)) with
  | none => simp
  | some signature =>
    simp only [Option.mem_some_iff, exists_eq_left']
    cases IdentityKeyPair.verifyHybrid P peer
        (signedBytes envelope.nonce envelope.encryptedPayload) signature with
    | error e => simp
    | ok u => simp

/-! ## The ratchet -/

namespace DoubleRatchet

section Keys

variable (P : Primitives B)

/-- The key for a message number: the one that is stored, or else the one on a
chain, if the numbers up to it can be stored. -/
def keyOn (r : DoubleRatchet B) (chain : Option (ChainKey B)) (messageNumber : UInt64) :
    Option (B MESSAGE_KEY_SIZE) :=
  match r.storedKey messageNumber with
  | some key => some key
  | none =>
    match chain with
    | none => none
    | some c =>
      if WithinLimit c r.receivingChain.skippedMessageKeys messageNumber then
        some (liveKey P c messageNumber)
      else none

theorem isOk_decrypt_iff [Serde (RatchetMessageHeader B)] (r : DoubleRatchet B)
    (ciphertext : Bytes) (header : RatchetMessageHeader B) :
    (r.decrypt P ciphertext header).IsOk ↔
      ∃ key ∈ r.keyOn P r.receivingChain.chainKey header.messageNumber,
        (openWith P key header ciphertext).isSome := by
  have hanswer : ∀ (r' : DoubleRatchet B) o, (answer r' o).IsOk ↔ o.isSome = true := by
    intro r' o
    cases o <;> simp [answer]
  unfold keyOn
  cases hstored : r.storedKey header.messageNumber with
  | some key =>
    rw [decrypt_stored P hstored, hanswer]
    simp
  | none =>
    cases hchain : r.receivingChain.chainKey with
    | none =>
      rw [decrypt_noChain P hstored hchain]
      simp
    | some c =>
      rw [decrypt_live P hstored hchain]
      by_cases hlimit : WithinLimit c r.receivingChain.skippedMessageKeys header.messageNumber
      · simp [hlimit, hanswer]
      · simp [hlimit]

variable [DecidableEq (B X25519_PUBLIC_KEY_SIZE)]

/-- The ratchet can turn to a peer key: it is the known one, or there is a key of
ours to agree with it. -/
def TurnsTo (r : DoubleRatchet B) (peer : B X25519_PUBLIC_KEY_SIZE) : Prop :=
  ChatSession.known r = some peer ∨
    (r.receivingChain.ourRatchetKey.or r.sendingChain.ourRatchetKey).isSome = true

instance (r : DoubleRatchet B) (peer : B X25519_PUBLIC_KEY_SIZE) : Decidable (r.TurnsTo peer) :=
  inferInstanceAs (Decidable (_ ∨ _))

/-- The receiving chain for a peer key: the current one for the known key, and
else the one that the root key gives with it. -/
def chainFor (r : DoubleRatchet B) (peer : B X25519_PUBLIC_KEY_SIZE) : Option (ChainKey B) :=
  -- a key in the receiving chain, which no constructor puts there, turns the sending side
  if ChatSession.known r = some peer ∨ r.receivingChain.ourRatchetKey.isSome = true then
    r.receivingChain.chainKey
  else
    r.sendingChain.ourRatchetKey.map fun ourKey =>
      (r.rootKey.ratchetStep P (P.diffieHellman ourKey peer)).2

/-- `decrypt` of the session turns the ratchet, or it fails. -/
theorem advance_cases (r : DoubleRatchet B) (header : RatchetMessageHeader B) :
    (¬ r.TurnsTo header.dhPublicKey ∧ ¬ (ChatSession.advance P r header).IsOk) ∨
      r.TurnsTo header.dhPublicKey ∧
        ∃ r', ChatSession.advance P r header = .ok () r' ∧
          r'.receivingChain.skippedMessageKeys = r.receivingChain.skippedMessageKeys ∧
          r'.receivingChain.chainKey = r.chainFor P header.dhPublicKey := by
  unfold ChatSession.advance TurnsTo chainFor
  by_cases hknown : ChatSession.known r = some header.dhPublicKey
  · exact Or.inr ⟨Or.inl hknown, r, by simp [hknown], rfl, by simp [hknown]⟩
  · obtain ⟨root, ⟨our, their, sendingKey, stored⟩, ⟨our', their', receivingKey, skipped⟩, name,
      data⟩ := r
    simp only [hknown, ne_eq, not_false_eq_true, if_true, false_or, dhRatchet]
    cases our' with
    | some key => exact Or.inr ⟨rfl, _, rfl, rfl, rfl⟩
    | none =>
      cases our with
      | some key => exact Or.inr ⟨rfl, _, rfl, rfl, rfl⟩
      | none => exact Or.inl ⟨nofun, id⟩

end Keys

end DoubleRatchet

namespace ChatSession

variable (P : Primitives B) [Serde (HybridSignature B)] [Serde (RatchetMessageHeader B)]

section Opens

variable [DecidableEq (B X25519_PUBLIC_KEY_SIZE)]

/-- The session opens the envelope. -/
def Opens (s : ChatSession B) (envelope : NetworkEnvelope) : Prop :=
  ∃ header ∈ (Serde.fromSlice envelope.nonce : Option (RatchetMessageHeader B)),
    envelope.Verifies P s.peerIdentity ∧ s.ratchet.TurnsTo header.dhPublicKey ∧
    ∃ key ∈ s.ratchet.keyOn P (s.ratchet.chainFor P header.dhPublicKey) header.messageNumber,
      (P.aeadDecrypt key (nonceOf header.messageNumber) (Serde.toVec header)
        envelope.encryptedPayload).isSome

instance (s : ChatSession B) (envelope : NetworkEnvelope) : Decidable (s.Opens P envelope) :=
  inferInstanceAs (Decidable (∃ _ ∈ _, _))

omit [Serde (HybridSignature B)] in
theorem isOk_ratchetDecrypt_iff (s : ChatSession B) (header : RatchetMessageHeader B)
    (payload : Bytes) :
    (s.ratchetDecrypt P header payload).IsOk ↔
      s.ratchet.TurnsTo header.dhPublicKey ∧
        ∃ key ∈ s.ratchet.keyOn P (s.ratchet.chainFor P header.dhPublicKey) header.messageNumber,
          (DoubleRatchet.openWith P key header payload).isSome := by
  unfold ratchetDecrypt
  rcases s.ratchet.advance_cases P header with ⟨hturns, hfails⟩ | ⟨hturns, r, hadvance, hskipped,
    hchain⟩
  · refine iff_of_false ?_ fun h => hturns h.1
    cases hrun : advance P s.ratchet header with
    | ok u r =>
      rw [hrun] at hfails
      exact absurd trivial hfails
    | error e r => exact id
  · have hkey : s.ratchet.keyOn P (s.ratchet.chainFor P header.dhPublicKey) header.messageNumber =
        r.keyOn P r.receivingChain.chainKey header.messageNumber := by
      unfold DoubleRatchet.keyOn DoubleRatchet.storedKey
      rw [hskipped, hchain]
    rw [hkey, ← DoubleRatchet.isOk_decrypt_iff, hadvance]
    simp only [hturns, true_and]
    cases r.decrypt P payload header with
    | ok text r' => exact Iff.rfl
    | error e r' => exact Iff.rfl

theorem isOk_decrypt_iff (s : ChatSession B) (envelope : NetworkEnvelope) :
    (s.decrypt P envelope).IsOk ↔ s.Opens P envelope := by
  unfold decrypt Opens parseHeader
  cases (Serde.fromSlice envelope.nonce : Option (RatchetMessageHeader B)) with
  | none => simp
  | some header =>
    simp only [Option.mem_some_iff, exists_eq_left', ← verifyEnvelope_iff]
    cases hverify : verifyEnvelope P s.peerIdentity envelope with
    | error e => simp
    | ok verified =>
      cases verified with
      | false => simp
      | true =>
        simp only [true_and]
        exact isOk_ratchetDecrypt_iff P s header envelope.encryptedPayload

end Opens

omit [Serde (HybridSignature B)] in
/-- The first text of an initiator is sealed under the first key of the chain
that its ratchet starts with. -/
theorem isOk_encrypt_init (sessionId : String) (root : RootKey B)
    (ourKey : B X25519_PRIVATE_KEY_SIZE) (peer : B X25519_PUBLIC_KEY_SIZE) (text : Bytes) :
    ((DoubleRatchet.init P sessionId root ourKey peer []).encrypt P text).IsOk ↔
      (P.aeadEncrypt
        ((root.ratchetStep P (P.diffieHellman ourKey peer)).2.messageKey P).key (nonceOf 0)
        (Serde.toVec (⟨P.x25519Public ourKey, 0, 0⟩ : RatchetMessageHeader B)) text).isSome := by
  unfold DoubleRatchet.encrypt DoubleRatchet.init DoubleRatchet.ensureSendingChain
  simp only [DoubleRatchet.headerFor, RootKey.ratchetStep, ChainKey.messageKey]
  cases P.aeadEncrypt _ (nonceOf 0) _ text with
  | none => simp
  | some ciphertext => simp

theorem isOk_encrypt_iff (s : ChatSession B) (identity : IdentityKeyPair B) (deviceId : String)
    (plaintext : Bytes) (now : Int) :
    (s.encrypt P identity deviceId plaintext now).IsOk ↔ (s.ratchet.encrypt P plaintext).IsOk := by
  unfold encrypt
  cases s.ratchet.encrypt P plaintext with
  | error e r => exact Iff.rfl
  | ok message r => exact Iff.rfl

end ChatSession

/-! ## The group chat -/

namespace GroupChat

variable (P : Primitives B) [Serde (HybridSignature B)] [Serde SenderKeyMessage]

/-- The group chat opens the envelope. -/
def Opens (g : GroupChat B) (envelope : NetworkEnvelope) : Prop :=
  ∃ peer ∈ g.peerIdentity, envelope.Verifies P peer ∧
    ∃ message ∈ (Serde.fromSlice envelope.nonce : Option SenderKeyMessage),
      ∃ receiver ∈ g.receiver,
        (P.aeadDecrypt (receiver.messageKey P) (nonceOf message.messageIndex) g.groupId
          envelope.encryptedPayload).isSome

instance (g : GroupChat B) (envelope : NetworkEnvelope) : Decidable (g.Opens P envelope) :=
  inferInstanceAs (Decidable (∃ _ ∈ _, _))

theorem isOk_decrypt_iff (g : GroupChat B) (envelope : NetworkEnvelope) :
    (g.decrypt P envelope).IsOk ↔ g.Opens P envelope := by
  unfold decrypt Opens
  cases g.peerIdentity with
  | none => simp
  | some peer =>
    simp only [Option.mem_some_iff, exists_eq_left', ← verifyEnvelope_iff]
    cases verifyEnvelope P peer envelope with
    | error e => simp
    | ok verified =>
      cases verified with
      | false => simp
      | true =>
        cases (Serde.fromSlice envelope.nonce : Option SenderKeyMessage) with
        | none => simp
        | some message =>
          cases g.receiver with
          | none => simp
          | some receiver =>
            simp only [Option.mem_some_iff, exists_eq_left', SenderKeys.decrypt, true_and]
            cases P.aeadDecrypt (receiver.messageKey P) (nonceOf message.messageIndex) g.groupId
                envelope.encryptedPayload with
            | none => simp
            | some plaintext => simp

end GroupChat

/-! ## The key agreement -/

section Pqxdh

variable (P : Primitives B)

/-- The KEM keys of the bundle are ones that can be encapsulated to. -/
def PreKeyBundle.Encapsulates (bundle : PreKeyBundle B) (coins : Coins B) : Prop :=
  (P.mlKemEncapsulate bundle.signedPrekey.publicKey.pq coins.dh1).isSome ∧
    (P.mlKemEncapsulate bundle.signedPrekey.publicKey.pq coins.dh2).isSome ∧
    (P.mlKemEncapsulate bundle.identityKemPublic.pq coins.dh3).isSome ∧
    (P.mlKemEncapsulate bundle.identityKemPublic.pq coins.dh4).isSome ∧
    ∀ otpk ∈ bundle.oneTimePrekeys.head?,
      (P.mlKemEncapsulate otpk.publicKey.pq coins.dh5).isSome

instance (bundle : PreKeyBundle B) (coins : Coins B) : Decidable (bundle.Encapsulates P coins) :=
  inferInstanceAs (Decidable (_ ∧ _))

theorem exists_hybridEncaps_iff (ourKey : HybridKemPrivateKey B)
    (peerPublic : HybridKemPublicKey B) (coins : B 32) :
    (∃ shared ciphertext, hybridEncaps P ourKey peerPublic coins = .ok (shared, ciphertext)) ↔
      (P.mlKemEncapsulate peerPublic.pq coins).isSome := by
  unfold hybridEncaps HybridKemPrivateKey.encapsulate
  cases P.mlKemEncapsulate peerPublic.pq coins with
  | none => exact iff_of_false (fun ⟨_, _, h⟩ => nomatch h) nofun
  | some out => exact iff_of_true ⟨_, _, rfl⟩ rfl

theorem exists_encapsOneTime_iff (ephemeral : HybridKemPrivateKey B)
    (otpk : Option (OneTimePreKey B)) (coins : B 32) :
    (∃ dh5 ct5 dh5Id, encapsOneTime P ephemeral otpk coins = .ok (dh5, ct5, dh5Id)) ↔
      ∀ key ∈ otpk, (P.mlKemEncapsulate key.publicKey.pq coins).isSome := by
  cases otpk with
  | none => exact iff_of_true ⟨_, _, _, rfl⟩ nofun
  | some key =>
    simp only [Option.mem_some_iff, forall_eq', ← exists_hybridEncaps_iff P ephemeral,
      encapsOneTime]
    cases hybridEncaps P ephemeral key.publicKey coins with
    | error e => exact iff_of_false (fun ⟨_, _, _, h⟩ => nomatch h) fun ⟨_, _, h⟩ => nomatch h
    | ok out => exact iff_of_true ⟨_, _, _, rfl⟩ ⟨_, _, rfl⟩

theorem exists_pqxdhInitiator_iff (keys : PqxdhInitiatorKeys B) (coins : Coins B) :
    (∃ output, pqxdhInitiator P keys coins = .ok output) ↔
      keys.peerBundle.verify P = .ok () ∧ keys.peerBundle.Encapsulates P coins := by
  unfold PreKeyBundle.Encapsulates
  rw [← exists_hybridEncaps_iff P keys.ephemeral, ← exists_hybridEncaps_iff P
    (keys.identity.kemSecret P), ← exists_hybridEncaps_iff P keys.ephemeral,
    ← exists_hybridEncaps_iff P (keys.identity.kemSecret P), ← exists_encapsOneTime_iff P
    keys.ephemeral]
  constructor
  · rintro ⟨⟨output, message⟩, hrun⟩
    obtain ⟨shared, ciphertexts, dh5, ct5, dh5Id, h, -⟩ := (pqxdhInitiator_eq_ok P).mp hrun
    exact ⟨h.verified, ⟨_, _, h.leg1⟩, ⟨_, _, h.leg2⟩, ⟨_, _, h.leg3⟩, ⟨_, _, h.leg4⟩,
      ⟨_, _, _, h.leg5⟩⟩
  · rintro ⟨hverify, ⟨dh1, ct1, h1⟩, ⟨dh2, ct2, h2⟩, ⟨dh3, ct3, h3⟩, ⟨dh4, ct4, h4⟩,
      ⟨dh5, ct5, dh5Id, h5⟩⟩
    exact ⟨_, (pqxdhInitiator_eq_ok P).mpr ⟨⟨dh1, dh2, dh3, dh4⟩, ⟨ct1, ct2, ct3, ct4⟩, dh5, ct5,
      dh5Id, ⟨hverify, h1, h2, h3, h4, h5⟩, rfl, rfl⟩⟩

/-- The four ciphertexts of the message have the size of one. -/
def PqxdhPrekeyMessage.Decapsulates (message : PqxdhPrekeyMessage B)
    (identity : IdentityKeyPair B) (signedPrekey : HybridKemPrivateKey B) : Prop :=
  (P.mlKemDecapsulate signedPrekey.pq message.ciphertexts.dh1).isSome ∧
    (P.mlKemDecapsulate signedPrekey.pq message.ciphertexts.dh2).isSome ∧
    (P.mlKemDecapsulate (identity.kemSecret P).pq message.ciphertexts.dh3).isSome ∧
    (P.mlKemDecapsulate (identity.kemSecret P).pq message.ciphertexts.dh4).isSome

instance (message : PqxdhPrekeyMessage B) (identity : IdentityKeyPair B)
    (signedPrekey : HybridKemPrivateKey B) :
    Decidable (message.Decapsulates P identity signedPrekey) :=
  inferInstanceAs (Decidable (_ ∧ _))

theorem exists_hybridDh_iff (ourKey : HybridKemPrivateKey B) (peerPublic : HybridKemPublicKey B)
    (ciphertext : Bytes) :
    (∃ shared, hybridDh P ourKey peerPublic (some ciphertext) = .ok shared) ↔
      (P.mlKemDecapsulate ourKey.pq ciphertext).isSome := by
  unfold hybridDh HybridKemPrivateKey.decapsulate
  simp only
  cases P.mlKemDecapsulate ourKey.pq ciphertext with
  | none => exact iff_of_false (fun ⟨_, h⟩ => nomatch h) nofun
  | some out => exact iff_of_true ⟨_, rfl⟩ rfl

/-- A responder without a one-time prekey. -/
theorem exists_pqxdhResponder_iff (identity : IdentityKeyPair B)
    (signedPrekey : HybridKemPrivateKey B) (keyId : UInt32) (message : PqxdhPrekeyMessage B) :
    (∃ output, pqxdhResponder P ⟨identity, signedPrekey, keyId, none, none⟩ message =
        .ok output) ↔
      message.signedPrekeyId = keyId ∧ message.oneTimePrekeyId = none ∧
        message.Decapsulates P identity signedPrekey := by
  unfold PqxdhPrekeyMessage.Decapsulates
  rw [← exists_hybridDh_iff P signedPrekey message.ephemeralPublic,
    ← exists_hybridDh_iff P signedPrekey message.identityKemPublic,
    ← exists_hybridDh_iff P (identity.kemSecret P) message.ephemeralPublic,
    ← exists_hybridDh_iff P (identity.kemSecret P) message.identityKemPublic]
  constructor
  · rintro ⟨output, hrun⟩
    obtain ⟨oneTimePrekey, shared, dh5, h, -⟩ := (pqxdhResponder_eq_ok P).mp hrun
    obtain ⟨rfl, hid, -⟩ := selectOneTimePrekey_eq_ok.mp h.selected
    have hnone : message.oneTimePrekeyId = none :=
      Option.isNone_iff_eq_none.mp (Option.isSome_eq_false_iff.mp hid.symm)
    exact ⟨h.known, hnone, ⟨_, h.leg1⟩, ⟨_, h.leg2⟩, ⟨_, h.leg3⟩, ⟨_, h.leg4⟩⟩
  · rintro ⟨hknown, hnone, ⟨dh1, h1⟩, ⟨dh2, h2⟩, ⟨dh3, h3⟩, ⟨dh4, h4⟩⟩
    refine ⟨_, (pqxdhResponder_eq_ok P).mpr ⟨none, ⟨dh1, dh2, dh3, dh4⟩, none,
      ⟨hknown, ?_, h1, h2, h3, h4, rfl⟩, rfl⟩⟩
    exact selectOneTimePrekey_eq_ok.mpr ⟨rfl, by rw [hnone]; rfl, nofun⟩

end Pqxdh

/-! ## The arms -/

instance (db : Database) (conversationId : String) (messageId headerJson : Bytes) :
    Decidable (db.Fits conversationId messageId headerJson) :=
  decidable_of_iff
    ((∃ header ∈ fromUtf8 headerJson, Database.Bindable header) ∧
      ∀ m ∈ db.messages, ¬ (m.conversationId = conversationId ∧ m.messageId = messageId))
    ⟨fun h => ⟨h.1, h.2⟩, fun h => ⟨h.header, h.unique⟩⟩

namespace App

variable (P : Primitives B)

section Arms

variable [Serde (HybridSignature B)]

/-- The bundle parses, and the initiator can agree with it. -/
def BundleTaken [Serde (PreKeyBundle B)] (app : App B) (body : Bytes) (draws : Draws B) : Prop :=
  ∃ bundle ∈ (Serde.fromSlice body : Option (PreKeyBundle B)),
    app.initiator.isSome = true ∧ Database.Bindable app.store.deviceId ∧
    bundle.verify P = .ok () ∧ bundle.Encapsulates P draws.coins

instance [Serde (PreKeyBundle B)] (app : App B) (body : Bytes) (draws : Draws B) :
    Decidable (app.BundleTaken P body draws) :=
  inferInstanceAs (Decidable (∃ _ ∈ _, _))

omit [Serde (HybridSignature B)] in
theorem bundleAccepted_iff [Serde (PreKeyBundle B)] (app : App B) (body : Bytes)
    (draws : Draws B) : app.BundleAccepted P body draws ↔ app.BundleTaken P body draws := by
  unfold BundleAccepted BundleTaken parseBundle
  cases (Serde.fromSlice body : Option (PreKeyBundle B)) with
  | none => simp
  | some bundle =>
    cases app.initiator with
    | none => simp
    | some h =>
      have hpqxdh := exists_pqxdhInitiator_iff P ⟨h.identity, draws.ephemeral, bundle⟩ draws.coins
      simp only [Except.ok.injEq, Option.some.injEq, exists_and_left, exists_eq_left',
        Option.mem_some_iff, Option.isSome_some, true_and, hpqxdh, and_self_left]

/-- The prekey message parses, it is for the signed prekey of the responder and
for no one-time prekey, and the responder can agree with it. -/
def PrekeyTaken [Serde (PqxdhPrekeyMessage B)] (app : App B) (envelope : NetworkEnvelope)
    (body : Bytes) : Prop :=
  ∃ conversationId ∈ fromUtf8 envelope.senderDeviceId, ∃ h ∈ app.responder,
    ∃ message ∈ (Serde.fromSlice body : Option (PqxdhPrekeyMessage B)),
    ∃ pq ∈ P.tryFrom ML_KEM_1024_PRIVATE_KEY_SIZE h.prekey.privatePq,
      message.signedPrekeyId = h.prekey.keyId ∧ message.oneTimePrekeyId = none ∧
      message.Decapsulates P h.identity ⟨h.prekey.privateClassical, pq⟩ ∧
      Database.Bindable conversationId

instance [Serde (PqxdhPrekeyMessage B)] (app : App B) (envelope : NetworkEnvelope)
    (body : Bytes) : Decidable (app.PrekeyTaken P envelope body) :=
  inferInstanceAs (Decidable (∃ _ ∈ _, _))

omit [Serde (HybridSignature B)] in
theorem privateKey_eq_ok_iff {m : PrekeyMaterial B} {key : HybridKemPrivateKey B} :
    m.privateKey P = .ok key ↔
      ∃ pq ∈ P.tryFrom ML_KEM_1024_PRIVATE_KEY_SIZE m.privatePq, ⟨m.privateClassical, pq⟩ = key := by
  unfold PrekeyMaterial.privateKey
  cases P.tryFrom ML_KEM_1024_PRIVATE_KEY_SIZE m.privatePq with
  | none => simp
  | some pq => simp

omit [Serde (HybridSignature B)] in
theorem prekeyAccepted_iff [Serde (PqxdhPrekeyMessage B)] (app : App B)
    (envelope : NetworkEnvelope) (body : Bytes) :
    app.PrekeyAccepted P envelope body ↔ app.PrekeyTaken P envelope body := by
  have hsender : ∀ id, senderConversation envelope = .ok id ↔
      fromUtf8 envelope.senderDeviceId = some id := by
    intro id
    unfold senderConversation
    cases fromUtf8 envelope.senderDeviceId <;> simp
  constructor
  · rintro ⟨conversationId, h, message, signedPrekey, output, hid, hresponder, hparse, hkey, hpqxdh,
      hbind⟩
    obtain ⟨pq, hpq, rfl⟩ := (privateKey_eq_ok_iff P).mp hkey
    obtain ⟨hknown, hnone, hopens⟩ := (exists_pqxdhResponder_iff P ..).mp ⟨output, hpqxdh⟩
    exact ⟨conversationId, (hsender conversationId).mp hid, h, hresponder, message, hparse, pq, hpq,
      hknown, hnone, hopens, hbind⟩
  · rintro ⟨conversationId, hid, h, hresponder, message, hparse, pq, hpq, hknown, hnone, hopens,
      hbind⟩
    obtain ⟨output, hpqxdh⟩ := (exists_pqxdhResponder_iff P ..).mpr ⟨hknown, hnone, hopens⟩
    exact ⟨conversationId, h, message, _, output, (hsender conversationId).mpr hid, hresponder,
      hparse, (privateKey_eq_ok_iff P).mpr ⟨pq, hpq, rfl⟩, hpqxdh, hbind⟩

variable [Serde (RatchetMessageHeader B)]

/-- The ratchet key has its size, the initiator waits for it, and it can seal its
greeting. -/
def RatchetPubTaken (app : App B) (body : Bytes) (draws : Draws B) : Prop :=
  ∃ h ∈ app.initiator, ∃ output ∈ h.pending, ∃ peer ∈ h.peerIdentity,
    ∃ peerPublic ∈ P.tryFrom 32 body,
      Database.Bindable app.store.deviceId ∧ Database.Bindable h.deviceId ∧
      (app.store.db.hasConversation h.deviceId = true ∨ app.store.deviceId = h.deviceId) ∧
      (P.aeadEncrypt
        (((⟨(SessionKeys.new P true output.sharedSecret peer).rootKey⟩ : RootKey B).ratchetStep P
          (P.diffieHellman draws.initiatorRatchet peerPublic)).2.messageKey P).key (nonceOf 0)
        (Serde.toVec
          (⟨P.x25519Public draws.initiatorRatchet, 0, 0⟩ : RatchetMessageHeader B))
        (greetingOf app.store.deviceId)).isSome

instance (app : App B) (body : Bytes) (draws : Draws B) :
    Decidable (app.RatchetPubTaken P body draws) :=
  inferInstanceAs (Decidable (∃ _ ∈ _, _))

theorem ratchetPubAccepted_iff_taken (app : App B) (body : Bytes) (draws : Draws B) :
    app.RatchetPubAccepted P body draws ↔ app.RatchetPubTaken P body draws := by
  have hstorable : ∀ (h : InitiatorHandshake B) output peer peerPublic,
      (h.session P output peer peerPublic draws.initiatorRatchet).Storable
          (app.store.recorded P app.store.deviceId peer false draws.now).db ↔
        Database.Bindable h.deviceId ∧
          (app.store.db.hasConversation h.deviceId = true ∨ app.store.deviceId = h.deviceId) := by
    intro h output peer peerPublic
    rw [ChatSession.storable_iff, NodeStore.hasConversation_recorded]
    simp [InitiatorHandshake.session]
  have hgreets : ∀ (h : InitiatorHandshake B) output peer peerPublic,
      ((h.session P output peer peerPublic draws.initiatorRatchet).encrypt P app.store.identity
          app.store.deviceId (greetingOf app.store.deviceId) draws.now).IsOk ↔ _ :=
    fun h output peer peerPublic => (ChatSession.isOk_encrypt_iff P _ _ _ _ _).trans
      (ChatSession.isOk_encrypt_init P SESSION_ID _ draws.initiatorRatchet peerPublic _)
  unfold RatchetPubAccepted RatchetPubTaken
  simp only [hstorable, hgreets, Option.mem_def, exists_and_left, and_assoc]

end Arms

section Chat

variable [Serde (SessionKeys B)] [Serde (RatchetSnapshot B)]

/-- There is a session, which has the property: the current one, or else that of
the row of the conversation, if the row parses and its snapshot can be rebuilt. -/
def WithSession (app : App B) (conversationId : String) (holds : ChatSession B → Prop) : Prop :=
  match app.session with
  | some session => holds session
  | none =>
    ∃ row ∈ app.store.db.sessions.find? fun row => row.conversationId == conversationId,
      ∃ keys ∈ (Serde.fromSlice row.sessionKeys : Option (SessionKeys B)),
      ∃ text ∈ row.ratchetState,
      ∃ snapshot ∈ (Serde.fromSlice text : Option (RatchetSnapshot B)),
      ∃ ratchet ∈ (snapshot.toRatchet SESSION_ID []).toOption,
        holds
          { conversationId
            peerIdentity := keys.peerIdentity
            isInitiator := row.isInitiator
            ratchet
            sessionKeys := keys }

instance (app : App B) (conversationId : String) (holds : ChatSession B → Prop)
    [DecidablePred holds] : Decidable (app.WithSession conversationId holds) := by
  unfold WithSession
  cases app.session with
  | some session => exact inferInstanceAs (Decidable (holds session))
  | none => exact inferInstanceAs (Decidable (∃ _ ∈ _, _))

/-- The session of the chat arm. -/
theorem exists_live_iff {app : App B} {conversationId : String}
    (hid : Database.Bindable conversationId) (holds : ChatSession B → Prop) :
    (∃ session, app.live conversationId = .ok (some session) ∧ holds session) ↔
      app.WithSession conversationId holds := by
  unfold live WithSession
  cases app.session with
  | some session => simp
  | none =>
    unfold resume Database.loadSession
    rw [Database.bindText_ok hid]
    cases app.store.db.sessions.find? fun row => row.conversationId == conversationId with
    | none => simp [pure, Except.pure, bind, Except.bind]
    | some row =>
      simp only [Option.mem_some_iff, exists_eq_left', Database.readSession, bind, Except.bind]
      cases (Serde.fromSlice row.sessionKeys : Option (SessionKeys B)) with
      | none => simp
      | some keys =>
        cases row.ratchetState with
        | none => simp [rebuildRatchet, pure, Except.pure]
        | some text =>
          simp only [Option.mem_some_iff, exists_eq_left']
          cases (Serde.fromSlice text : Option (RatchetSnapshot B)) with
          | none => simp
          | some snapshot =>
            simp only [rebuildRatchet, pure, Except.pure, Option.mem_some_iff, exists_eq_left']
            cases snapshot.toRatchet SESSION_ID [] with
            | error e => simp [Except.toOption]
            | ok ratchet => simp [Except.toOption]

variable [Serde (HybridSignature B)] [Serde (RatchetMessageHeader B)]
  [DecidableEq (B X25519_PUBLIC_KEY_SIZE)]

/-- The text of the envelope is opened by the session, and its row and the row of
the session can be written. -/
def ChatTaken (app : App B) (envelope : NetworkEnvelope) (draws : Draws B) : Prop :=
  ∃ conversationId ∈ fromUtf8 envelope.conversationId, Database.Bindable conversationId ∧
    (app.WithSession conversationId fun session =>
      session.Opens P envelope ∧ Database.Bindable session.conversationId ∧
        (app.store.db.hasConversation session.conversationId = true ∨
          conversationId = session.conversationId)) ∧
    app.store.db.Fits conversationId (messageIdBytes envelope.timestamp draws.messageNonce)
      envelope.nonce

instance (app : App B) (envelope : NetworkEnvelope) (draws : Draws B) :
    Decidable (app.ChatTaken P envelope draws) :=
  inferInstanceAs (Decidable (∃ _ ∈ _, _))

theorem chatAccepted_iff (app : App B) (envelope : NetworkEnvelope) (draws : Draws B) :
    app.ChatAccepted P envelope draws ↔ app.ChatTaken P envelope draws := by
  constructor
  · rintro ⟨conversationId, session, htext, hlive, hid, hopens, hsession, hconversation, hfits⟩
    refine ⟨conversationId, htext, hid, ?_, hfits⟩
    exact (exists_live_iff hid _).mp ⟨session, hlive, (session.isOk_decrypt_iff P envelope).mp hopens,
      hsession, hconversation⟩
  · rintro ⟨conversationId, htext, hid, hwith, hfits⟩
    obtain ⟨session, hlive, hopens, hsession, hconversation⟩ := (exists_live_iff hid _).mpr hwith
    exact ⟨conversationId, session, htext, hlive, hid,
      (session.isOk_decrypt_iff P envelope).mpr hopens, hsession, hconversation, hfits⟩

/-- A group message that is opened can be stored. -/
def GossipTaken [Serde SenderKeyMessage] (app : App B) (envelope : NetworkEnvelope)
    (draws : Draws B) : Prop :=
  app.group.Opens P envelope →
    Database.Bindable app.group.conversationId ∧
      app.store.db.Fits app.group.conversationId
        (messageIdBytes envelope.timestamp draws.messageNonce) envelope.nonce

instance [Serde SenderKeyMessage] (app : App B) (envelope : NetworkEnvelope) (draws : Draws B) :
    Decidable (app.GossipTaken P envelope draws) :=
  inferInstanceAs (Decidable (_ → _))

variable [Serde (PreKeyBundle B)] [Serde (PqxdhPrekeyMessage B)] [Serde (GroupKeyDistribution B)]

/-- The envelope is one that its arm takes in this state. -/
def Taken (app : App B) (envelope : NetworkEnvelope) (draws : Draws B) : Prop :=
  let body := envelope.encryptedPayload.drop 1
  match envelope.arm with
  | .bundleReq => app.responder.isSome = true
  | .bundle => app.BundleTaken P body draws
  | .prekey => app.PrekeyTaken P envelope body
  | .ratchetPub => app.RatchetPubTaken P body draws
  | .groupKey =>
    (Serde.fromSlice body : Option (GroupKeyDistribution B)).isSome = true ∧
      app.session.isSome = true
  | .chat => app.ChatTaken P envelope draws

instance (app : App B) (envelope : NetworkEnvelope) (draws : Draws B) :
    Decidable (app.Taken P envelope draws) := by
  unfold Taken
  cases envelope.arm with
  | bundleReq => exact inferInstanceAs (Decidable (_ = true))
  | bundle => exact inferInstanceAs (Decidable (BundleTaken ..))
  | prekey => exact inferInstanceAs (Decidable (PrekeyTaken ..))
  | ratchetPub => exact inferInstanceAs (Decidable (RatchetPubTaken ..))
  | groupKey => exact inferInstanceAs (Decidable (_ ∧ _))
  | chat => exact inferInstanceAs (Decidable (ChatTaken ..))

theorem accepted_iff (app : App B) (envelope : NetworkEnvelope) (draws : Draws B) :
    app.Accepted P envelope draws ↔ app.Taken P envelope draws := by
  unfold Accepted Taken
  cases envelope.arm with
  | bundleReq => exact Iff.rfl
  | bundle => exact bundleAccepted_iff P app _ draws
  | prekey => exact prekeyAccepted_iff P app envelope _
  | ratchetPub => exact ratchetPubAccepted_iff_taken P app _ draws
  | groupKey => exact Iff.rfl
  | chat => exact chatAccepted_iff P app envelope draws

end Chat

end App

end Presidium
