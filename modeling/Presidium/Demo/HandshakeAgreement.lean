import Presidium.Crypto.PqxdhAgreement
import Presidium.Demo.ChatPair
import Presidium.Demo.SymbolicJson

/-!
# The handshake, end to end

`handshake` runs the handshake arms of `handle_direct` on two nodes, each
message delivered once: the responder's bundle, the initiator's prekey
message, the responder's ratchet key.  Between its bundle and the prekey
message the responder may restart any number of times.

`handshake_ok` computes the result.  The two sessions are the two ends of one
`ChatPair`, whatever was drawn, so the results about pairs apply to every
honest handshake.
-/

namespace Presidium

variable {B : Nat → Type}

/-- The random draws of one handshake, and the times of its messages. -/
structure HandshakeDraws (B : Nat → Type) where
  ephemeral : HybridKemPrivateKey B
  coins : Coins B
  responderRatchet : B X25519_PRIVATE_KEY_SIZE
  initiatorRatchet : B X25519_PRIVATE_KEY_SIZE
  bundleAt : Int
  prekeyAt : Int
  replyAt : Int

section Run

variable (P : Primitives B) [DecidableEq (B 32)] [Serde (HybridSignature B)]
  [Serde (PrekeyMaterial B)] [Serde (PreKeyBundle B)] [Serde (PqxdhPrekeyMessage B)]

/-- The handshake between an initiator and a responder that starts in the
directory `disk`.  The session of the initiator comes first. -/
def handshake (initiator : NodeStore B) (peer : PeerId) (disk : Disk B) (now : BootDraws B)
    (between : List (BootDraws B)) (draws : HandshakeDraws B) :
    Except AppError (ChatSession B × ChatSession B) := do
  let (disk, responder, material) ← boot P disk now
  -- the responder answers the bundle request
  let bundleBody := Serde.toVec ((ResponderHandshake.new responder.identity material).bundle P)
  let bundleEnvelope :=
    syncEnvelope P responder.identity responder.deviceId MARKER_BUNDLE bundleBody draws.bundleAt
  -- the initiator takes the bundle and sends its prekey message
  let bundle ← parseBundle (bundleEnvelope.encryptedPayload.drop 1)
  let driver := InitiatorHandshake.new initiator.identity initiator.deviceId peer
  let (prekey, driver) ←
    (driver.sendPrekey P bundle draws.ephemeral draws.coins draws.prekeyAt).toExcept
  -- the responder restarts, then takes the prekey message
  let (_, responder, material) ← restarts P disk responder material between
  let conversationId ← senderConversation prekey.envelope
  let ((ratchetPublic, responderSession), _) ←
    ((ResponderHandshake.new responder.identity material).onPrekey P
      (prekey.envelope.encryptedPayload.drop 1) conversationId draws.responderRatchet).toExcept
  let reply := syncEnvelope P responder.identity responder.deviceId MARKER_RATCHET_PUB
    (P.toVec ratchetPublic) draws.replyAt
  -- the initiator builds its session
  let (initiatorSession, _) ←
    (driver.establish P (reply.encryptedPayload.drop 1) draws.initiatorRatchet).toExcept
  return (initiatorSession, responderSession)

end Run

section Agreement

variable {P : Primitives B}

/-- The pair that a handshake between two nodes fixes, up to the secret. -/
def pairOf (P : Primitives B) (initiator : NodeStore B) (b : BootDraws B)
    (draws : HandshakeDraws B) (sharedSecret : B 32) : ChatPair B :=
  { identity
      | .first => initiator.identity
      | .second => b.identity
    deviceId
      | .first => initiator.deviceId
      | .second => randomHexDeviceId P b.deviceId
    conversationId := initiator.deviceId
    sharedSecret
    initiatorKey := draws.initiatorRatchet
    responderKey := draws.responderRatchet }

/-- The stored prekey of a node gives the private key back that was drawn. -/
theorem privateKey_firstPrekey (harrays : P.ArraysRoundTrip) (b : BootDraws B) :
    (firstPrekey P b).privateKey P = .ok b.prekey := by
  unfold PrekeyMaterial.privateKey
  rw [show (firstPrekey P b).privatePq = P.toVec b.prekey.pq from rfl, harrays]
  rfl

/-- The keys with which a node answers a prekey message. -/
def ownKeys (P : Primitives B) (b : BootDraws B) : PqxdhResponderKeys B :=
  { identity := b.identity
    signedPrekey := b.prekey
    signedPrekeyId := (firstPrekey P b).keyId
    oneTimePrekey := none
    oneTimePrekeyId := none }

theorem ownsPrekeys (b : BootDraws B) :
    OwnsPrekeys P (ownKeys P b) (firstPrekey P b).signedPrekey [] :=
  ⟨rfl, rfl, rfl, rfl⟩

variable [DecidableEq (B 32)] [Serde (HybridSignature B)]
  [Serde (PrekeyMaterial B)] [Serde (PreKeyBundle B)] [Serde (PqxdhPrekeyMessage B)]
  [LawfulSerde (PrekeyMaterial B)] [LawfulSerde (PreKeyBundle B)]
  [LawfulSerde (PqxdhPrekeyMessage B)]

/-- The handshake succeeds, and its sessions are the two ends of one pair. -/
theorem handshake_ok (harrays : P.ArraysRoundTrip) (hdh : P.DhCommutes) (hkem : P.KemRoundTrip)
    (hsig : P.SignaturesVerify) (initiator : NodeStore B) (peer : PeerId) {b : BootDraws B}
    {disk : Disk B} {now : BootDraws B} (hstarts : StartsFrom P b disk now)
    (between : List (BootDraws B)) (draws : HandshakeDraws B) :
    ∃ sharedSecret,
      handshake P initiator peer disk now between draws =
        .ok ((pairOf P initiator b draws sharedSecret).start P .first,
          (pairOf P initiator b draws sharedSecret).start P .second) := by
  obtain ⟨output, message, hinitiator, hresponder, hidentity⟩ :=
    pqxdh_ok hdh hkem hsig (ownsPrekeys (P := P) b) initiator.identity draws.ephemeral draws.coins
  refine ⟨output.sharedSecret, ?_⟩
  obtain ⟨responder, hboot⟩ := hstarts.boot harrays
  have hverify := PreKeyBundle.verify_new hsig b.identity (firstPrekey P b).signedPrekey []
  have hrestarts := (responder.booted harrays).restarts between
  have hsend := InitiatorHandshake.sendPrekey_ok
    (h := .new initiator.identity initiator.deviceId peer) hverify hinitiator draws.prekeyAt
  have hprekey := ResponderHandshake.onPrekey_ok
    (h := .new responder.store.identity (firstPrekey P b)) (privateKey_firstPrekey harrays b)
    hresponder initiator.deviceId draws.responderRatchet
  have hestablish := InitiatorHandshake.establish_ok harrays
    (h := { InitiatorHandshake.new initiator.identity initiator.deviceId peer with
      peerIdentity := some (b.identity.publicKey P), pending := some output })
    rfl rfl (P.x25519Public draws.responderRatchet) draws.initiatorRatchet
  rw [hidentity] at hprekey
  unfold handshake
  refine Except.bind_eq_ok.mpr ⟨_, hboot, ?_⟩
  refine Except.bind_eq_ok.mpr ⟨_, parseBundle_toVec _, ?_⟩
  refine Except.bind_eq_ok.mpr ⟨_, congrArg Outcome.toExcept hsend, ?_⟩
  refine Except.bind_eq_ok.mpr ⟨_, hrestarts, ?_⟩
  refine Except.bind_eq_ok.mpr ⟨_, senderConversation_syncEnvelope P _ _ _ _ _, ?_⟩
  refine Except.bind_eq_ok.mpr ⟨_, congrArg Outcome.toExcept hprekey, ?_⟩
  exact Except.bind_eq_ok.mpr ⟨_, congrArg Outcome.toExcept hestablish, rfl⟩

variable [Serde (RatchetMessageHeader B)] [LawfulSerde (RatchetMessageHeader B)]
  [LawfulSerde (HybridSignature B)]

/-- Two honest nodes come out of the handshake with equal key material, the
same conversation, opposite roles and each other's identity, however often the
responder restarts in between, and the first envelope of the initiator
opens. -/
theorem handshake_agrees (harrays : P.ArraysRoundTrip) (hdh : P.DhCommutes)
    (hkem : P.KemRoundTrip) (haead : P.AeadRoundTrip) (hsig : P.SignaturesVerify)
    (initiator : NodeStore B) (peer : PeerId) (b : BootDraws B) (disk : Disk B)
    (now : BootDraws B) (hstarts : StartsFrom P b disk now) (between : List (BootDraws B))
    (draws : HandshakeDraws B) :
    ∃ sa sb, handshake P initiator peer disk now between draws = .ok (sa, sb) ∧
      sa.sessionKeys.rootKey = sb.sessionKeys.rootKey ∧
      sa.sessionKeys.sendingChain = sb.sessionKeys.sendingChain ∧
      sa.sessionKeys.receivingChain = sb.sessionKeys.receivingChain ∧
      sa.conversationId = sb.conversationId ∧
      sa.isInitiator = true ∧ sb.isInitiator = false ∧
      sa.peerIdentity = b.identity.publicKey P ∧
      sb.peerIdentity = initiator.identity.publicKey P ∧
      ∀ text time envelope after,
        sa.encrypt P initiator.identity initiator.deviceId text time = .ok envelope after →
          (sb.decrypt P envelope).result = .ok text := by
  obtain ⟨sharedSecret, hok⟩ :=
    handshake_ok harrays hdh hkem hsig initiator peer hstarts between draws
  refine ⟨_, _, hok, rfl, rfl, rfl, rfl, rfl, rfl, rfl, rfl, ?_⟩
  intro text time envelope after hencrypt
  exact ChatPair.first_envelope_opens hdh haead hsig (pairOf P initiator b draws sharedSecret) hencrypt

end Agreement

/-! ## A handshake over symbolic keys -/

namespace Sym

/-- The initiator of the runs over symbolic keys. -/
def initiator : NodeStore Sym :=
  { db := .empty, identity := alice, deviceId := "a1" }

/-- What the responder draws at its first start. -/
def firstBoot : BootDraws Sym :=
  { salt := [50]
    identity := responderKeys.identity
    deviceId := [51, 52]
    prekey := responderKeys.signedPrekey
    now := 7 }

/-- What a later start of the responder would draw for an empty database. -/
def laterBoot : BootDraws Sym :=
  { firstBoot with salt := [53], identity := alice, now := 20 }

def handshakeDraws : HandshakeDraws Sym :=
  { ephemeral := ephemeral
    coins := coins
    responderRatchet := [60]
    initiatorRatchet := [61]
    bundleAt := 8
    prekeyAt := 9
    replyAt := 10 }

/-- A pair of these two nodes with a short secret. -/
def pair : ChatPair Sym := pairOf primitives initiator firstBoot handshakeDraws [9]

end Sym

/-- The responder starts in an empty directory and restarts once before the
prekey message arrives. -/
theorem handshake_agrees_restarted :
    ∃ sa sb, handshake Sym.primitives Sym.initiator [1] Disk.fresh Sym.firstBoot [Sym.laterBoot]
        Sym.handshakeDraws = .ok (sa, sb) ∧
      sa.peerIdentity = Sym.firstBoot.identity.publicKey Sym.primitives ∧
      ∀ text time envelope after,
        sa.encrypt Sym.primitives Sym.alice "a1" text time = .ok envelope after →
          (sb.decrypt Sym.primitives envelope).result = .ok text := by
  obtain ⟨sa, sb, hok, -, -, -, -, -, -, hpeer, -, hopens⟩ :=
    handshake_agrees Sym.arraysRoundTrip Sym.dhCommutes Sym.kemRoundTrip Sym.aeadRoundTrip
      Sym.signaturesVerify Sym.initiator [1] Sym.firstBoot Disk.fresh Sym.firstBoot
      StartsFrom.fresh [Sym.laterBoot] Sym.handshakeDraws
  exact ⟨sa, sb, hok, hpeer, hopens⟩

end Presidium
