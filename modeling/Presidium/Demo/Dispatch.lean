import Presidium.Demo.App
import Presidium.Demo.HandshakeAgreement

/-!
# Which arm an inbound envelope reaches

A sync envelope starts with the marker that its sender chose, so it reaches
the arm of that marker.  A chat envelope starts with whatever byte the AEAD
puts first.  `handle_direct` does not look at the kind of the envelope, so a
ciphertext that starts with a byte below five is taken for a handshake
message.
-/

namespace Presidium

variable {B : Nat → Type}

/-- The marker of an arm.  The chat arm has none. -/
def Arm.marker : Arm → Option UInt8
  | .bundleReq => some MARKER_BUNDLE_REQ
  | .bundle => some MARKER_BUNDLE
  | .prekey => some MARKER_PREKEY
  | .ratchetPub => some MARKER_RATCHET_PUB
  | .groupKey => some MARKER_GROUP_KEY
  | .chat => none

theorem route_marker {arm : Arm} {marker : UInt8} (h : arm.marker = some marker) :
    route (some marker) = arm := by
  cases arm <;> first | cases h; rfl | cases h

/-- The markers are the bytes up to four. -/
theorem route_eq_chat_iff (b : UInt8) : route (some b) = .chat ↔ MARKER_GROUP_KEY < b := by
  by_cases hlt : MARKER_GROUP_KEY < b
  · refine iff_of_true ?_ hlt
    unfold route
    split
    all_goals first | rfl | (next heq => cases heq; exact absurd hlt (by decide))
  · refine iff_of_false ?_ hlt
    have hle : b.toNat ≤ 4 := Nat.le_of_not_lt fun h => hlt (UInt8.lt_iff_toNat_lt.mpr h)
    obtain rfl | rfl | rfl | rfl | rfl : b = 0 ∨ b = 1 ∨ b = 2 ∨ b = 3 ∨ b = 4 := by
      simp only [← UInt8.toNat_inj]
      simp only [UInt8.reduceToNat]
      omega
    all_goals decide

section Envelopes

variable (P : Primitives B) [Serde (HybridSignature B)]

theorem arm_syncEnvelope (identity : IdentityKeyPair B) (deviceId : String) (marker : UInt8)
    (body : Bytes) (now : Int) :
    (syncEnvelope P identity deviceId marker body now).arm = route (some marker) := rfl

theorem arm_eq_chat_iff (envelope : NetworkEnvelope) :
    envelope.arm = .chat ↔
      ∀ b, envelope.encryptedPayload.head? = some b → MARKER_GROUP_KEY < b := by
  unfold NetworkEnvelope.arm
  cases envelope.encryptedPayload.head? with
  | none => exact iff_of_true rfl (by simp)
  | some b =>
    rw [route_eq_chat_iff]
    simp

variable [Serde (RatchetMessageHeader B)]

/-- The payload of a chat envelope is what the AEAD returns for the text. -/
theorem payload_encrypt {s after : ChatSession B} {identity : IdentityKeyPair B}
    {deviceId : String} {plaintext : Bytes} {now : Int} {envelope : NetworkEnvelope}
    (h : s.encrypt P identity deviceId plaintext now = .ok envelope after) :
    ∃ key nonce aad, P.aeadEncrypt key nonce aad plaintext = some envelope.encryptedPayload := by
  obtain ⟨ciphertext, header, r, hratchet, rfl, -⟩ := ChatSession.encrypt_eq_ok h
  obtain ⟨_, _, -, -, hseal, -⟩ := DoubleRatchet.encrypt_eq_ok P hratchet
  exact ⟨_, _, _, hseal⟩

/-- A chat envelope reaches the chat arm exactly when its ciphertext does not
start with a marker byte.  A sync envelope always reaches the arm of its
marker. -/
theorem dispatch_chat_iff :
    (∀ (peer after : ChatSession B) (identity : IdentityKeyPair B) (deviceId : String)
        (plaintext : Bytes) (now : Int) (envelope : NetworkEnvelope),
      peer.encrypt P identity deviceId plaintext now = .ok envelope after →
      (∃ key nonce aad,
        P.aeadEncrypt key nonce aad plaintext = some envelope.encryptedPayload) ∧
      (envelope.arm = .chat ↔
        ∀ b, envelope.encryptedPayload.head? = some b → MARKER_GROUP_KEY < b)) ∧
    ∀ (identity : IdentityKeyPair B) (deviceId : String) (arm : Arm) (marker : UInt8)
        (body : Bytes) (now : Int), arm.marker = some marker →
      (syncEnvelope P identity deviceId marker body now).arm = arm := by
  refine ⟨?_, ?_⟩
  · intro peer after identity deviceId plaintext now envelope hencrypt
    exact ⟨payload_encrypt P hencrypt, arm_eq_chat_iff envelope⟩
  · intro identity deviceId arm marker body now hmarker
    rw [arm_syncEnvelope]
    exact route_marker hmarker

end Envelopes

/-- The bundle arm always fails on a node that is no initiator. -/
theorem onBundle_error (P : Primitives B) [Serde (HybridSignature B)] [Serde (PreKeyBundle B)]
    [Serde (PqxdhPrekeyMessage B)] (body : Bytes) (draws : Draws B) (app : App B)
    (h : app.initiator = none) : ∃ e, App.onBundle P body draws app = .error e app := by
  unfold App.onBundle
  cases hparse : (parseBundle body : Except AppError (PreKeyBundle B)) with
  | error e => exact ⟨e, Outcome.bind_error rfl⟩
  | ok bundle =>
    refine ⟨.message "bundle on responder", ?_⟩
    have hmissing : (App.required "bundle on responder" app.initiator : AppM B _) app =
        .error (.message "bundle on responder") app := by
      rw [h]
      rfl
    refine (Outcome.bind_ok rfl).trans ((Outcome.bind_ok rfl).trans ?_)
    exact Outcome.bind_error hmissing

namespace Sym

/-- The first envelope of the initiator of the fixed pair. -/
def greeting : Outcome AppError (ChatSession Sym) NetworkEnvelope :=
  (pair.start primitives .first).encrypt primitives alice "a1" [104, 105] 30

/-- The responder of the fixed pair with its session. -/
def responderApp : App Sym :=
  { store := { db := .empty, identity := firstBoot.identity, deviceId := "b2" }
    node := { running := true, sent := [] }
    initiator := none
    responder := none
    session := some (pair.start primitives .second)
    group := .new
    peer := none
    lastOutgoing := none }

def draws : Draws Sym :=
  { ephemeral := ephemeral
    coins := coins
    responderRatchet := [60]
    initiatorRatchet := [61]
    groupChain := [62]
    messageNonce := 5
    now := 40 }

end Sym

/-- The greeting of the fixed pair starts with a marker byte, so it misses the
chat arm; a prekey message finds its own. -/
theorem dispatch_greeting :
    (∀ envelope after, Sym.greeting = .ok envelope after → envelope.arm ≠ .chat) ∧
      (syncEnvelope Sym.primitives Sym.alice "a1" MARKER_PREKEY [] 30).arm = .prekey := by
  obtain ⟨hchat, hsync⟩ := dispatch_chat_iff Sym.primitives
  refine ⟨?_, hsync Sym.alice "a1" .prekey MARKER_PREKEY [] 30 rfl⟩
  intro envelope after hgreeting harm
  obtain ⟨-, hiff⟩ := hchat _ after _ _ _ _ envelope hgreeting
  obtain rfl : envelope = _ := (EStateM.Result.ok.inj hgreeting).1.symm
  exact absurd (hiff.mp harm 1 rfl) (by decide)

/-- The session of the responder reads the greeting, but `handle_direct` takes
it for a bundle and stops with an error. -/
theorem greeting_taken_for_bundle :
    ∃ envelope after, Sym.greeting = .ok envelope after ∧ envelope.kind = KIND_DIRECT ∧
      ((Sym.pair.start Sym.primitives .second).decrypt Sym.primitives envelope).result =
        .ok [104, 105] ∧
      envelope.arm = .bundle ∧
      ∃ e app, App.handleDirect Sym.primitives [1] envelope Sym.draws Sym.responderApp =
        .error e app := by
  have hgreeting : Sym.greeting = .ok _ _ := rfl
  refine ⟨_, _, hgreeting, rfl, ?_, rfl, ?_⟩
  · exact Sym.pair.first_envelope_opens Sym.dhCommutes Sym.aeadRoundTrip Sym.signaturesVerify
      hgreeting
  · obtain ⟨e, herror⟩ := onBundle_error Sym.primitives _ Sym.draws
      { Sym.responderApp with peer := some [1] } rfl
    exact ⟨e, _, (Outcome.bind_ok rfl).trans herror⟩

end Presidium
