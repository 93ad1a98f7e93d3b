import Presidium.Demo.HandshakeAgreement

/-!
# Two-way chat

The two sessions of a handshake on a network that loses, delays and reorders:
either side encrypts, and either side decrypts what the other has sent, each
envelope at most once.

The two directions differ.  The responder reads every envelope.  The initiator
reads none: `ChatSession::decrypt` runs `dh_ratchet` only when the header key
differs from the known one, the known key falls back to the sending chain, and
`DoubleRatchet::init` puts the responder's key there from the start.  So no
receiving chain is ever derived on the initiator.  `chats_right_iff` is the
exact condition on a run.
-/

namespace Presidium

variable {B : Nat → Type}

/-- A session with the keys that its node signs with. -/
structure Chatter (B : Nat → Type) where
  session : ChatSession B
  identity : IdentityKeyPair B
  deviceId : String

section Network

variable (P : Primitives B) [Serde (HybridSignature B)] [Serde (RatchetMessageHeader B)]
  [DecidableEq (B X25519_PUBLIC_KEY_SIZE)]

/-- `ChatSession::encrypt` of a text at a time. -/
def Chatter.send (p : Chatter B) (text : Bytes × Int) : Chatter B × Option NetworkEnvelope :=
  let out := p.session.encrypt P p.identity p.deviceId text.1 text.2
  ({ p with session := out.state }, out.result.toOption)

def Chatter.receive (p : Chatter B) (envelope : NetworkEnvelope) :
    Chatter B × Except AppError Bytes :=
  let out := p.session.decrypt P envelope
  ({ p with session := out.state }, out.result)

variable {P} in
theorem Chatter.receive_eq {p : Chatter B} {envelope : NetworkEnvelope}
    {out : Outcome AppError (ChatSession B) Bytes} (h : p.session.decrypt P envelope = out) :
    p.receive P envelope = ({ p with session := out.state }, out.result) := by
  unfold receive
  rw [h]

/-- Two sessions on a network. -/
def chats (start : Side → Chatter B) :
    Duplex (Chatter B) NetworkEnvelope (Bytes × Int) (Except AppError Bytes) where
  start := start
  send := Chatter.send P
  recv := Chatter.receive P
  bound := 2 ^ 64
  limit := MAX_SKIP_MESSAGES

end Network

/-- The two nodes of a handshake with their sessions. -/
def chattersOf (P : Primitives B) (initiator : NodeStore B) (b : BootDraws B)
    (sa sb : ChatSession B) : Side → Chatter B
  | .first => { session := sa, identity := initiator.identity, deviceId := initiator.deviceId }
  | .second => { session := sb, identity := b.identity, deviceId := randomHexDeviceId P b.deviceId }

/-! ## Both sides by their counts -/

namespace ChatPair

variable {P : Primitives B} {c : ChatPair B}

/-- Both sides right after the handshake. -/
def chatters (P : Primitives B) (c : ChatPair B) (s : Side) : Chatter B :=
  { session := c.start P s, identity := c.identity s, deviceId := c.deviceId s }

/-- The ratchet of a side by its counts.  What the initiator has taken makes no
difference to it. -/
def ratchetAt (P : Primitives B) (c : ChatPair B) : Side → Nat → List Nat → DoubleRatchet B
  | .first, n, _ => (c.pairing P).initiatorAt P n Window.empty false
  | .second, n, taken =>
    (c.pairing P).responderAt P n (Window.empty.deliverAll taken) (!taken.isEmpty)

def chatterAt (P : Primitives B) (c : ChatPair B) (s : Side) (n : Nat) (taken : List Nat) :
    Chatter B :=
  { session := c.sessionWith P s (c.ratchetAt P s n taken)
    identity := c.identity s
    deviceId := c.deviceId s }

/-- What a side answers to an envelope of the other. -/
def replyTo : Side → Bytes × Int → Except AppError Bytes
  | .first, _ =>
    .error (.context "ratchet decrypt" (.crypto (.ratchetError "No receiving chain established")))
  | .second, text => .ok text.1

theorem chatters_eq (s : Side) : c.chatters P s = c.chatterAt P s 0 [] := by
  unfold chatters start chatterAt
  rw [(c.pairing P).startOf_eq]
  cases s <;> rfl

variable [Serde (HybridSignature B)] [Serde (RatchetMessageHeader B)]

theorem send_chatterAt (hdh : P.DhCommutes) (s : Side) (n : Nat) (taken : List Nat)
    (text : Bytes × Int) (hturn : s = .first ∨ taken ≠ []) :
    (c.chatterAt P s n taken).send P text =
      (c.chatterAt P s (n + 1) taken, c.envelopeAt P s n text.1 text.2) := by
  have hratchet : ((c.ratchetAt P s n taken).encrypt P text.1).state =
        c.ratchetAt P s (n + 1) taken ∧
      ((c.ratchetAt P s n taken).encrypt P text.1).result.toOption =
        (c.pairing P).messageAt P s n text.1 := by
    cases s with
    | first => exact (c.pairing P).encrypt_ratchetAt hdh .first n _ (Or.inl rfl) text.1
    | second =>
      have hheard : (!taken.isEmpty) = true := by simpa using hturn
      exact (c.pairing P).encrypt_ratchetAt hdh .second n _ (Or.inr hheard) text.1
  obtain ⟨hstate, hresult⟩ :=
    encrypt_sessionWith (P := P) (c := c) s (c.ratchetAt P s n taken) text.1 text.2
  rw [hratchet.1] at hstate
  rw [hratchet.2] at hresult
  show (Chatter.mk _ _ _, _) = (Chatter.mk _ _ _, _)
  rw [← hstate, envelopeAt, ← hresult]
  rfl

variable [LawfulSerde (HybridSignature B)] [LawfulSerde (RatchetMessageHeader B)]
  [DecidableEq (B X25519_PUBLIC_KEY_SIZE)]

/-- The two sides of a pair keep to their counts. -/
def counted (hdh : P.DhCommutes) (haead : P.AeadRoundTrip) (hsig : P.SignaturesVerify) :
    (chats P (c.chatters P)).Counted where
  state := c.chatterAt P
  message s n text := c.envelopeAt P s n text.1 text.2
  reply := replyTo
  start_eq s := chatters_eq s
  send_eq s n taken text hturn _ := send_chatterAt hdh s n taken text hturn
  recv_eq s n taken k text envelope hturn hmsg hfresh hbound hlimit := by
    cases s with
    | first =>
      exact Chatter.receive_eq (p := c.chatterAt P .first n taken)
        (decrypt_initiator hsig n k hmsg)
    | second =>
      have hheard : (!(taken ++ [k]).isEmpty) = true := by simp
      have hafter : c.ratchetAt P .second n (taken ++ [k]) =
          (c.pairing P).responderAt P n (Window.empty.deliverAll (taken ++ [k])) true :=
        congrArg ((c.pairing P).responderAt P n (Window.empty.deliverAll (taken ++ [k]))) hheard
      refine (Chatter.receive_eq (p := c.chatterAt P .second n taken)
        (decrypt_responder hdh haead hsig n (hturn.resolve_left (by decide)) hmsg
          hfresh hbound hlimit)).trans ?_
      rw [← hafter]
      rfl

end ChatPair

/-! ## Runs from a handshake -/

section Runs

variable {P : Primitives B} [DecidableEq (B 32)] [Serde (HybridSignature B)]
  [Serde (PrekeyMaterial B)] [Serde (PreKeyBundle B)] [Serde (PqxdhPrekeyMessage B)]

/-- The sessions of a handshake are those of a pair. -/
theorem chattersOf_eq [LawfulSerde (PrekeyMaterial B)] [LawfulSerde (PreKeyBundle B)]
    [LawfulSerde (PqxdhPrekeyMessage B)] (harrays : P.ArraysRoundTrip) (hdh : P.DhCommutes)
    (hkem : P.KemRoundTrip) (hsig : P.SignaturesVerify) {initiator : NodeStore B} {peer : PeerId}
    {b : BootDraws B} {disk : Disk B} {now : BootDraws B} (hstarts : StartsFrom P b disk now)
    {between : List (BootDraws B)} {draws : HandshakeDraws B} {sa sb : ChatSession B}
    (hok : handshake P initiator peer disk now between draws = .ok (sa, sb)) :
    ∃ c : ChatPair B, chattersOf P initiator b sa sb = c.chatters P := by
  obtain ⟨sharedSecret, hpair⟩ :=
    handshake_ok harrays hdh hkem hsig initiator peer hstarts between draws
  rw [hpair] at hok
  obtain ⟨rfl, rfl⟩ := Prod.mk.inj (Except.ok.inj hok)
  refine ⟨pairOf P initiator b draws sharedSecret, ?_⟩
  funext s
  cases s <;> rfl

variable [Serde (RatchetMessageHeader B)]

/-- In a run of two honest sessions every `decrypt` returns the text that was
encrypted exactly when nothing is ever delivered to the initiator. -/
theorem chats_right_iff [LawfulSerde (PrekeyMaterial B)] [LawfulSerde (PreKeyBundle B)]
    [LawfulSerde (PqxdhPrekeyMessage B)] [LawfulSerde (HybridSignature B)]
    [LawfulSerde (RatchetMessageHeader B)] (harrays : P.ArraysRoundTrip) (hdh : P.DhCommutes)
    (hkem : P.KemRoundTrip) (haead : P.AeadRoundTrip) (hsig : P.SignaturesVerify)
    (initiator : NodeStore B) (peer : PeerId) (b : BootDraws B) (disk : Disk B)
    (now : BootDraws B) (hstarts : StartsFrom P b disk now) (between : List (BootDraws B))
    (draws : HandshakeDraws B) (sa sb : ChatSession B)
    (hok : handshake P initiator peer disk now between draws = .ok (sa, sb))
    (es : List (Duplex.Event (Bytes × Int)))
    (hvalid : (chats P (chattersOf P initiator b sa sb)).Admissible es) :
    (∀ s, ∀ a ∈ ((chats P (chattersOf P initiator b sa sb)).after es s).answers,
        a.2 = .ok a.1.1) ↔
      ∀ k, .deliver .first k ∉ es := by
  obtain ⟨c, hstart⟩ := chattersOf_eq harrays hdh hkem hsig hstarts hok
  rw [hstart] at hvalid ⊢
  have hfollows := (ChatPair.counted (c := c) hdh haead hsig).follows hvalid
  rw [← Duplex.taken_after_eq_nil_iff hvalid, ← (hfollows .first).answers_eq_nil_iff]
  constructor
  · intro hright
    -- an answer of the initiator is an error, so it has given none
    rw [List.eq_nil_iff_forall_not_mem]
    intro a ha
    have herror := (hfollows .first).answers a ha
    rw [hright .first a ha] at herror
    exact absurd herror (by simp [ChatPair.counted, ChatPair.replyTo])
  · intro hnone s a ha
    cases s with
    | first =>
      rw [hnone] at ha
      exact absurd ha List.not_mem_nil
    | second => exact (hfollows .second).answers a ha

end Runs

/-! ## Runs over symbolic keys -/

namespace Sym

/-- The handshake of the runs below. -/
def exchanged : Except AppError (ChatSession Sym × ChatSession Sym) :=
  handshake primitives initiator [1] Disk.fresh firstBoot [] handshakeDraws

/-- The initiator sends twice, and the second envelope overtakes the first. -/
def oneWay : List (Duplex.Event (Bytes × Int)) :=
  [.send .first ([104, 105], 30), .send .first ([104, 111], 31), .deliver .second 1,
    .deliver .second 0]

/-- The responder reads a greeting and replies, and the reply arrives. -/
def replied : List (Duplex.Event (Bytes × Int)) :=
  [.send .first ([104, 105], 30), .deliver .second 0, .send .second ([104, 111], 40),
    .deliver .first 0]

/-- Over symbolic keys every envelope exists, so a run is admissible by its
counts. -/
theorem chats_admissible (c : ChatPair Sym) (es : List (Duplex.Event (Bytes × Int)))
    (h : (Duplex.skeleton (2 ^ 64) MAX_SKIP_MESSAGES).Admissible es) :
    (chats primitives (c.chatters primitives)).Admissible es :=
  (ChatPair.counted dhCommutes aeadRoundTrip signaturesVerify).admissible_of_skeleton
    (fun _ _ _ => rfl) h

/-- The sessions of the fixed handshake are those of a pair. -/
theorem exchanged_ok :
    ∃ c : ChatPair Sym, ∃ sa sb, exchanged = .ok (sa, sb) ∧
      chattersOf primitives initiator firstBoot sa sb = c.chatters primitives := by
  have hstarts : StartsFrom primitives firstBoot Disk.fresh firstBoot := .fresh
  obtain ⟨sharedSecret, hok⟩ := handshake_ok arraysRoundTrip dhCommutes kemRoundTrip
    signaturesVerify initiator [1] hstarts [] handshakeDraws
  obtain ⟨c, hchatters⟩ := chattersOf_eq arraysRoundTrip dhCommutes kemRoundTrip
    signaturesVerify hstarts hok
  exact ⟨c, _, _, hok, hchatters⟩

end Sym

/-- Two envelopes that arrive out of order, both read by the responder. -/
theorem chats_right_oneWay :
    ∃ sa sb, Sym.exchanged = .ok (sa, sb) ∧
      ∀ s, ∀ a ∈ ((chats Sym.primitives
          (chattersOf Sym.primitives Sym.initiator Sym.firstBoot sa sb)).after Sym.oneWay s).answers,
        a.2 = .ok a.1.1 := by
  obtain ⟨c, sa, sb, hok, hchatters⟩ := Sym.exchanged_ok
  have hvalid := Sym.chats_admissible c Sym.oneWay (by decide)
  rw [← hchatters] at hvalid
  have hright := chats_right_iff Sym.arraysRoundTrip Sym.dhCommutes Sym.kemRoundTrip
    Sym.aeadRoundTrip Sym.signaturesVerify Sym.initiator [1] Sym.firstBoot Disk.fresh Sym.firstBoot
    StartsFrom.fresh [] Sym.handshakeDraws sa sb hok Sym.oneWay hvalid
  exact ⟨sa, sb, hok, hright.mpr (by simp [Sym.oneWay])⟩

/-- The responder reads a greeting and replies, and the initiator refuses the
reply. -/
theorem initiator_refuses_reply :
    ∃ sa sb, Sym.exchanged = .ok (sa, sb) ∧
      (chats Sym.primitives
        (chattersOf Sym.primitives Sym.initiator Sym.firstBoot sa sb)).Admissible Sym.replied ∧
      ∃ a ∈ ((chats Sym.primitives (chattersOf Sym.primitives Sym.initiator Sym.firstBoot
          sa sb)).after Sym.replied .first).answers,
        a.2 = .error (.context "ratchet decrypt"
          (.crypto (.ratchetError "No receiving chain established"))) := by
  obtain ⟨c, sa, sb, hok, hchatters⟩ := Sym.exchanged_ok
  have hvalid := Sym.chats_admissible c Sym.replied (by decide)
  have hfollows := (ChatPair.counted (c := c) Sym.dhCommutes Sym.aeadRoundTrip
    Sym.signaturesVerify).follows hvalid .first
  have htaken := Duplex.taken_after hvalid .first
  have hanswers : ((chats Sym.primitives (c.chatters Sym.primitives)).after
      Sym.replied .first).answers ≠ [] := by
    rw [ne_eq, hfollows.answers_eq_nil_iff, htaken]
    decide
  obtain ⟨a, ha⟩ := List.exists_mem_of_ne_nil _ hanswers
  refine ⟨sa, sb, hok, ?_⟩
  rw [hchatters]
  exact ⟨hvalid, a, ha, hfollows.answers a ha⟩

end Presidium
