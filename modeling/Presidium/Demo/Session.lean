import Presidium.Storage.Database

/-!
# Chat sessions and envelopes of the demo's `session.rs`

An envelope carries the ratchet header as JSON in its `nonce` slot and a hybrid
signature over header and payload.  `ChatSession` puts the Double Ratchet
behind that: `encrypt` wraps a ratchet message into a signed envelope,
`decrypt` verifies, decides whether to run `dh_ratchet`, and decrypts.

The clock is an argument.  `anyhow` errors keep their context strings.
-/

namespace Presidium

variable {B : Nat → Type}

/-- The errors of the demo crate. -/
inductive AppError where
  | crypto (e : CryptoError)
  | storage (context : String) (e : StorageError)
  | json
  | utf8
  /-- `TryFromSliceError`: a slice of another length than the array. -/
  | slice
  | message (text : String)
  | context (text : String) (e : AppError)
  /-- `NetworkError::NotRunning`: the node task is gone. -/
  | notRunning
  /-- A panic, with its message. -/
  | panic (text : String)
  deriving DecidableEq, Repr

/-! ## Envelopes -/

/-- Envelope kinds (mirrors `presidium.proto`). -/
def KIND_DIRECT : Int := 1
def KIND_GROUP : Int := 2
def KIND_SYNC : Int := 3

/-- Handshake payload markers (first byte of the sync payload). -/
@[match_pattern] def MARKER_BUNDLE_REQ : UInt8 := 0
@[match_pattern] def MARKER_BUNDLE : UInt8 := 1
@[match_pattern] def MARKER_PREKEY : UInt8 := 2
@[match_pattern] def MARKER_RATCHET_PUB : UInt8 := 3
@[match_pattern] def MARKER_GROUP_KEY : UInt8 := 4

/-- Session id used when rebuilding the ratchet from a snapshot. -/
def SESSION_ID : String := "presidium-session"

structure NetworkEnvelope where
  kind : Int
  conversationId : Bytes
  senderDeviceId : Bytes
  timestamp : UInt64
  encryptedPayload : Bytes
  mac : Bytes
  protocolVersion : UInt32
  nonce : Bytes
  signature : Bytes
  deriving DecidableEq

def signedBytes (headerJson payload : Bytes) : Bytes := headerJson ++ payload

section Envelope

variable (P : Primitives B) [Serde (HybridSignature B)]

/-- Build and sign a network envelope. -/
def buildRawEnvelope (identity : IdentityKeyPair B) (deviceId : String) (kind : Int)
    (conversationId payload headerJson : Bytes) (now : Int) : NetworkEnvelope :=
  let signature := identity.signHybrid P (signedBytes headerJson payload)
  { kind
    conversationId
    senderDeviceId := asBytes deviceId
    timestamp := UInt64.ofNat (max now 0).toNat
    encryptedPayload := payload
    mac := P.toVec (P.sha256 payload)
    protocolVersion := 1
    nonce := headerJson
    signature := Serde.toVec signature }

/-- A sync-kind envelope with a marker-prefixed payload. -/
def syncEnvelope (identity : IdentityKeyPair B) (deviceId : String) (marker : UInt8)
    (body : Bytes) (now : Int) : NetworkEnvelope :=
  buildRawEnvelope P identity deviceId KIND_SYNC (asBytes deviceId) (marker :: body) [] now

variable [Serde (RatchetMessageHeader B)]

/-- A signed chat envelope: the header JSON goes into the nonce slot. -/
def buildSignedEnvelope (identity : IdentityKeyPair B) (deviceId : String) (kind : Int)
    (conversationId ciphertext : Bytes) (header : RatchetMessageHeader B) (now : Int) :
    NetworkEnvelope :=
  buildRawEnvelope P identity deviceId kind conversationId ciphertext (Serde.toVec header) now

/-- Parse the ratchet header carried in the nonce slot. -/
def parseHeader (nonce : Bytes) : Except AppError (RatchetMessageHeader B) :=
  match Serde.fromSlice nonce with
  | none => .error (.context "parse ratchet header" .json)
  | some header => .ok header

omit [Serde (HybridSignature B)] in
theorem parseHeader_toVec [LawfulSerde (RatchetMessageHeader B)]
    (header : RatchetMessageHeader B) : parseHeader (Serde.toVec header) = .ok header := by
  unfold parseHeader
  rw [fromSlice_toVec]

omit [Serde (RatchetMessageHeader B)]

/-- Verify the envelope signature against a peer identity. -/
def verifyEnvelope (peer : IdentityPublicKey B) (envelope : NetworkEnvelope) :
    Except AppError Bool :=
  match (Serde.fromSlice envelope.signature : Option (HybridSignature B)) with
  | none => .error (.context "parse signature" .json)
  | some signature =>
    match IdentityKeyPair.verifyHybrid P peer
        (signedBytes envelope.nonce envelope.encryptedPayload) signature with
    | .ok _ => .ok true
    | .error _ => .ok false

variable {P} in
/-- What an identity signs, its public key verifies. -/
theorem verifyEnvelope_buildRawEnvelope [LawfulSerde (HybridSignature B)]
    (hsig : P.SignaturesVerify) (identity : IdentityKeyPair B) (deviceId : String) (kind : Int)
    (conversationId payload headerJson : Bytes) (now : Int) :
    verifyEnvelope P (identity.publicKey P)
      (buildRawEnvelope P identity deviceId kind conversationId payload headerJson now) =
        .ok true := by
  unfold verifyEnvelope buildRawEnvelope
  simp only [fromSlice_toVec, IdentityKeyPair.verifyHybrid_signHybrid hsig]

end Envelope

/-! ## Chat sessions -/

/-- An established 1:1 chat session. -/
structure ChatSession (B : Nat → Type) where
  conversationId : String
  peerIdentity : IdentityPublicKey B
  isInitiator : Bool
  ratchet : DoubleRatchet B
  sessionKeys : SessionKeys B

namespace ChatSession

section Crypto

variable (P : Primitives B) [Serde (HybridSignature B)] [Serde (RatchetMessageHeader B)]

/-- Encrypt a plaintext into a chat envelope. -/
def encrypt (s : ChatSession B) (identity : IdentityKeyPair B) (deviceId : String)
    (plaintext : Bytes) (now : Int) : Outcome AppError (ChatSession B) NetworkEnvelope :=
  match s.ratchet.encrypt P plaintext with
  | .error e r => .error (.context "ratchet encrypt" (.crypto e)) { s with ratchet := r }
  | .ok (ciphertext, header) r =>
    .ok (buildSignedEnvelope P identity deviceId KIND_DIRECT (asBytes s.conversationId)
      ciphertext header now) { s with ratchet := r }

variable {P} in
/-- A successful `encrypt` is one of the ratchet, in a signed envelope. -/
theorem encrypt_eq_ok {s s' : ChatSession B} {identity : IdentityKeyPair B} {deviceId : String}
    {plaintext : Bytes} {now : Int} {envelope : NetworkEnvelope}
    (h : s.encrypt P identity deviceId plaintext now = .ok envelope s') :
    ∃ ciphertext header r, s.ratchet.encrypt P plaintext = .ok (ciphertext, header) r ∧
      envelope = buildSignedEnvelope P identity deviceId KIND_DIRECT (asBytes s.conversationId)
        ciphertext header now ∧
      s' = { s with ratchet := r } := by
  unfold encrypt at h
  cases hratchet : s.ratchet.encrypt P plaintext with
  | error e r =>
    simp only [hratchet] at h
    cases h
  | ok message r =>
    simp only [hratchet] at h
    cases h
    exact ⟨message.1, message.2, r, rfl, rfl, rfl⟩

variable {P} in
/-- Whether it encrypts or not, the session takes over the ratchet. -/
theorem encrypt_state (s : ChatSession B) (identity : IdentityKeyPair B) (deviceId : String)
    (plaintext : Bytes) (now : Int) :
    (s.encrypt P identity deviceId plaintext now).state =
      { s with ratchet := (s.ratchet.encrypt P plaintext).state } := by
  unfold encrypt
  cases hratchet : s.ratchet.encrypt P plaintext with
  | error e r => rfl
  | ok message r => rfl

variable [DecidableEq (B X25519_PUBLIC_KEY_SIZE)]

/-- The peer ratchet key that `decrypt` compares a header with. -/
def known (r : DoubleRatchet B) : Option (B X25519_PUBLIC_KEY_SIZE) :=
  r.receivingChain.theirRatchetPublic.or r.sendingChain.theirRatchetPublic

/-- The part of `decrypt` that runs `dh_ratchet`, when the header key is not
the known one. -/
def advance (r : DoubleRatchet B) (header : RatchetMessageHeader B) :
    Outcome CryptoError (DoubleRatchet B) Unit :=
  if known r ≠ some header.dhPublicKey then r.dhRatchet P header.dhPublicKey else .ok () r

/-- The part of `decrypt` behind the signature check. -/
def ratchetDecrypt (s : ChatSession B) (header : RatchetMessageHeader B) (payload : Bytes) :
    Outcome AppError (ChatSession B) Bytes :=
  match advance P s.ratchet header with
  | .error e r => .error (.context "dh ratchet" (.crypto e)) { s with ratchet := r }
  | .ok _ r =>
    match r.decrypt P payload header with
    | .error e r => .error (.context "ratchet decrypt" (.crypto e)) { s with ratchet := r }
    | .ok plaintext r => .ok plaintext { s with ratchet := r }

/-- Verify, ratchet and decrypt an inbound chat envelope. -/
def decrypt (s : ChatSession B) (envelope : NetworkEnvelope) :
    Outcome AppError (ChatSession B) Bytes :=
  match parseHeader envelope.nonce with
  | .error e => .error e s
  | .ok header =>
    match verifyEnvelope P s.peerIdentity envelope with
    | .error e => .error e s
    | .ok false => .error (.message "signature verification failed") s
    | .ok true => s.ratchetDecrypt P header envelope.encryptedPayload

variable {P} in
/-- `decrypt` refuses an envelope before it touches the session, or it comes to
the ratchet with the header of a verified envelope. -/
theorem decrypt_cases (s : ChatSession B) (envelope : NetworkEnvelope) :
    ((∃ e, s.decrypt P envelope = .error e s) ∧
      ∀ header : RatchetMessageHeader B, parseHeader envelope.nonce = .ok header →
        verifyEnvelope P s.peerIdentity envelope ≠ .ok true) ∨
    ∃ header, parseHeader envelope.nonce = .ok header ∧
      verifyEnvelope P s.peerIdentity envelope = .ok true ∧
      s.decrypt P envelope = s.ratchetDecrypt P header envelope.encryptedPayload := by
  unfold decrypt
  cases hparse : (parseHeader envelope.nonce : Except AppError (RatchetMessageHeader B)) with
  | error e => exact Or.inl ⟨⟨e, rfl⟩, fun _ h => absurd h (by simp)⟩
  | ok header =>
    cases hverify : verifyEnvelope P s.peerIdentity envelope with
    | error e => exact Or.inl ⟨⟨e, rfl⟩, fun _ _ => by simp⟩
    | ok verified =>
      cases verified with
      | false => exact Or.inl ⟨⟨_, rfl⟩, fun _ _ => by simp⟩
      | true => exact Or.inr ⟨header, rfl, rfl, rfl⟩

section Lemmas

variable {P} {s : ChatSession B} {r r' : DoubleRatchet B} {header : RatchetMessageHeader B}
  {payload : Bytes}

omit [Serde (HybridSignature B)]

theorem ratchetDecrypt_ok {text : Bytes} (hadvance : advance P s.ratchet header = .ok () r)
    (hdecrypt : r.decrypt P payload header = .ok text r') :
    s.ratchetDecrypt P header payload = .ok text { s with ratchet := r' } := by
  unfold ratchetDecrypt
  simp only [hadvance, hdecrypt]

theorem ratchetDecrypt_error {e : CryptoError} (hadvance : advance P s.ratchet header = .ok () r)
    (hdecrypt : r.decrypt P payload header = .error e r') :
    s.ratchetDecrypt P header payload =
      .error (.context "ratchet decrypt" (.crypto e)) { s with ratchet := r' } := by
  unfold ratchetDecrypt
  simp only [hadvance, hdecrypt]

/-- Whether it decrypts or not, the session takes over the ratchet. -/
theorem ratchetDecrypt_state (hadvance : advance P s.ratchet header = .ok () r)
    (payload : Bytes) :
    (s.ratchetDecrypt P header payload).state =
      { s with ratchet := (r.decrypt P payload header).state } := by
  cases hdecrypt : r.decrypt P payload header with
  | ok text r' => rw [ratchetDecrypt_ok hadvance hdecrypt]; rfl
  | error e r' => rw [ratchetDecrypt_error hadvance hdecrypt]; rfl

theorem exists_ratchetDecrypt_state (s : ChatSession B) (header : RatchetMessageHeader B)
    (payload : Bytes) :
    ∃ r, (s.ratchetDecrypt P header payload).state = { s with ratchet := r } := by
  cases hadvance : advance P s.ratchet header with
  | ok _ r => exact ⟨_, ratchetDecrypt_state hadvance payload⟩
  | error e r =>
    refine ⟨r, ?_⟩
    unfold ratchetDecrypt
    rw [hadvance]
    rfl

end Lemmas

variable {P} in
/-- `decrypt` moves the ratchet of the session and nothing else. -/
theorem exists_decrypt_state (s : ChatSession B) (envelope : NetworkEnvelope) :
    ∃ r, (s.decrypt P envelope).state = { s with ratchet := r } := by
  rcases decrypt_cases (P := P) s envelope with ⟨⟨e, hrefused⟩, -⟩ | ⟨header, -, -, hrun⟩
  · exact ⟨s.ratchet, by rw [hrefused]; rfl⟩
  · rw [hrun]
    exact exists_ratchetDecrypt_state s header envelope.encryptedPayload

end Crypto

section Persist

/-- The session state that `persist` writes. -/
def state (s : ChatSession B) (now : Int) : SessionState B :=
  { isInitiator := s.isInitiator
    sessionKeys := s.sessionKeys
    ratchet := some (.fromRatchet s.ratchet)
    lastUsed := now }

variable [Serde (SessionKeys B)] [Serde (RatchetSnapshot B)]

/-- Persist the current ratchet snapshot. -/
def persist (s : ChatSession B) (db : Database) (now : Int) : Except AppError Database :=
  match db.saveSession s.conversationId (s.state now) with
  | .error e => .error (.storage "save session" e)
  | .ok db => .ok db

/-- The database takes the row of the session. -/
structure Storable (s : ChatSession B) (db : Database) : Prop where
  conversationId : Database.Bindable s.conversationId
  conversation : db.hasConversation s.conversationId = true

omit [Serde (SessionKeys B)] [Serde (RatchetSnapshot B)] in
theorem storable_iff {s : ChatSession B} {db : Database} :
    s.Storable db ↔
      Database.Bindable s.conversationId ∧ db.hasConversation s.conversationId = true :=
  ⟨fun h => ⟨h.conversationId, h.conversation⟩, fun h => ⟨h.1, h.2⟩⟩

/-- The row that `persist` writes. -/
def row (s : ChatSession B) (now : Int) : SessionRow :=
  Database.sessionRow s.conversationId (s.state now)

theorem persist_ok {s : ChatSession B} {db : Database} (h : s.Storable db) (now : Int) :
    s.persist db now = .ok (db.withSession (s.row now)) := by
  unfold persist
  rw [Database.saveSession_ok h.conversationId h.conversation]
  rfl

theorem persist_error {s : ChatSession B} {db : Database} (h : ¬ s.Storable db) (now : Int) :
    ∃ e, s.persist db now = .error e := by
  obtain ⟨e, herror⟩ := Database.saveSession_error (fun hboth => h ⟨hboth.1, hboth.2⟩)
    (s.state now)
  unfold persist
  rw [herror]
  exact ⟨_, rfl⟩

end Persist

end ChatSession

/-- Rebuild a live ratchet from a persisted snapshot. -/
def rebuildRatchet (state : SessionState B) : Except AppError (DoubleRatchet B) :=
  match state.ratchet with
  | none => .error (.message "no ratchet snapshot stored")
  | some snapshot =>
    match snapshot.toRatchet SESSION_ID [] with
    | .error e => .error (.storage "rebuild ratchet from snapshot" e)
    | .ok r => .ok r

section Resume

variable [Serde (SessionKeys B)] [Serde (RatchetSnapshot B)]

/-- Try to resume a persisted session for a conversation. -/
def resume (db : Database) (conversationId : String) :
    Except AppError (Option (ChatSession B)) :=
  match db.loadSession conversationId with
  | .error e => .error (.storage "load session" e)
  | .ok none => .ok none
  | .ok (some state) =>
    match rebuildRatchet state with
    | .error e => .error e
    | .ok ratchet =>
      .ok (some
        { conversationId
          peerIdentity := state.sessionKeys.peerIdentity
          isInitiator := state.isInitiator
          ratchet
          sessionKeys := state.sessionKeys })

/-- `resume` reads the `sessions` table only. -/
theorem resume_congr {db db' : Database} (h : db'.sessions = db.sessions)
    (conversationId : String) :
    (resume db' conversationId : Except AppError (Option (ChatSession B))) =
      resume db conversationId := by
  unfold resume Database.loadSession
  rw [h]

/-- What was persisted last is what is resumed.  The ratchet comes back with
the fixed session id and without associated data. -/
theorem resume_persist [LawfulSerde (SessionKeys B)] [LawfulSerde (RatchetSnapshot B)]
    {s : ChatSession B} {db db' : Database} {now : Int} (h : s.persist db now = .ok db') :
    resume db' s.conversationId = .ok (some
      { s with
        peerIdentity := s.sessionKeys.peerIdentity
        ratchet := { s.ratchet with sessionId := SESSION_ID, associatedData := [] } }) := by
  unfold ChatSession.persist at h
  cases hsave : db.saveSession s.conversationId (s.state now) with
  | error e =>
    simp only [hsave] at h
    cases h
  | ok saved =>
    simp only [hsave] at h
    cases h
    have hrebuild : rebuildRatchet (s.state now) =
        .ok { s.ratchet with sessionId := SESSION_ID, associatedData := [] } := by
      show (match (RatchetSnapshot.fromRatchet s.ratchet).toRatchet SESSION_ID [] with
        | .error e => _
        | .ok r => .ok r : Except AppError (DoubleRatchet B)) = _
      rw [RatchetSnapshot.toRatchet_fromRatchet]
    unfold resume
    rw [Database.loadSession_saveSession hsave]
    simp only [hrebuild]
    rfl

end Resume
end Presidium
