import Presidium.Demo.EnvelopeBinding
import Presidium.Lib.InOrder
import Presidium.Lib.Machine

/-!
# Group messages over gossip

One publisher, one reader, and a network that drops, repeats and reorders what
was published and adds what it likes.  Message number `n` is sealed under the key
at position `n` of the sender chain, and the reader tries each envelope under the
key at which its own chain stands.  So the reader is a receiver that takes items
in order (`InOrder`): `Broadcast.deliver` is the step of this simulation.

A publication that fails in `publish` has used up its position like any other.
-/

namespace Presidium

variable {B : Nat → Type}

/-! ## Sender chains -/

namespace SenderKeys

/-- The chain key behind `n` messages. -/
def chainAt (P : Primitives B) (key : B CHAIN_KEY_SIZE) : Nat → B CHAIN_KEY_SIZE
  | 0 => key
  | n + 1 => P.hmacSha256 (chainAt P key n) "presidium-sender-advance"

/-- The message key at a position of the chain. -/
def keyAt (P : Primitives B) (key : B CHAIN_KEY_SIZE) (n : Nat) : B MESSAGE_KEY_SIZE :=
  P.hmacSha256 (chainAt P key n) MESSAGE_KEY_INFO

end SenderKeys

/-- A call of `publish`. -/
structure Publication where
  plaintext : Bytes
  now : Int
  running : Bool

/-- A publisher with what it publishes behind one distribution of its key. -/
structure Broadcast (B : Nat → Type) where
  identity : IdentityKeyPair B
  deviceId : String
  chat : GroupChat B
  drawn : B CHAIN_KEY_SIZE
  publications : List Publication

section Runs

variable (P : Primitives B) [Serde (HybridSignature B)] [Serde SenderKeyMessage]

/-- Calls of `publish`: the envelopes that go out, and the chat behind them. -/
def GroupChat.publishAll (identity : IdentityKeyPair B) (deviceId : String) :
    GroupChat B → List Publication → List (Option NetworkEnvelope) × GroupChat B
  | g, [] => ([], g)
  | g, p :: ps =>
    let out := g.publish P p.running identity deviceId p.plaintext p.now
    let rest := publishAll identity deviceId out.state ps
    (out.result.toOption :: rest.1, rest.2)

/-- The reader as a machine; any envelope may arrive. -/
def GroupChat.reader : Machine (GroupChat B) NetworkEnvelope where
  step g envelope := (g.decrypt P envelope).state
  Enabled _ _ := True

/-- The result of a delivery. -/
def GroupChat.opened (g : GroupChat B) (envelope : NetworkEnvelope) :
    List (Except AppError Bytes) :=
  [(g.decrypt P envelope).result]

/-- The results of deliveries. -/
def GroupChat.results (g : GroupChat B) (envelopes : List NetworkEnvelope) :
    List (Except AppError Bytes) :=
  (GroupChat.reader P).trace (GroupChat.opened P) g envelopes

/-- The plaintexts that are accepted. -/
def GroupChat.accepted (g : GroupChat B) (envelopes : List NetworkEnvelope) : List Bytes :=
  (g.results P envelopes).filterMap Except.toOption

/-- A rejected envelope leaves the chat as it is. -/
theorem GroupChat.decrypt_error {g g' : GroupChat B} {envelope : NetworkEnvelope} {e : AppError}
    (h : g.decrypt P envelope = .error e g') : g' = g := by
  rcases g.decrypt_cases P envelope with ⟨_, hrejected⟩ | ⟨_, _, hopened⟩
  · cases hrejected.symm.trans h
    rfl
  · cases hopened.symm.trans h

end Runs

namespace Broadcast

variable (P : Primitives B) (b : Broadcast B)

def distribution : GroupKeyDistribution B := (b.chat.createSender P b.identity b.drawn).1

/-- The publisher behind `create_sender`. -/
def publisher : GroupChat B := (b.chat.createSender P b.identity b.drawn).2

/-- A reader behind `apply_group_key`. -/
def subscribe (g : GroupChat B) : GroupChat B :=
  g.applyGroupKey P (b.distribution P) (b.identity.publicKey P)

/-- The message keys along the chain are distinct, as far as it is used. -/
def DistinctKeys : Prop :=
  ∀ i j, i ≤ b.publications.length → j ≤ b.publications.length →
    SenderKeys.keyAt P b.drawn i = SenderKeys.keyAt P b.drawn j → i = j

variable [Serde (HybridSignature B)] [Serde SenderKeyMessage]

/-- What each publication sent out. -/
def sent : List (Option NetworkEnvelope) :=
  (GroupChat.publishAll P b.identity b.deviceId (b.publisher P) b.publications).1

/-- The publisher behind all publications. -/
def publisherAfter : GroupChat B :=
  (GroupChat.publishAll P b.identity b.deviceId (b.publisher P) b.publications).2

/-- The published envelopes. -/
def published : List NetworkEnvelope := (b.sent P).filterMap id

/-- The published plaintexts. -/
def texts : List Bytes :=
  (b.publications.zip (b.sent P)).filterMap fun x => x.2.map fun _ => x.1.plaintext

/-- The envelope has header and payload of publication number `i`. -/
def Carries (envelope : NetworkEnvelope) (i : Nat) : Prop :=
  ∃ original, (b.sent P)[i]? = some (some original) ∧ envelope.nonce = original.nonce ∧
    envelope.encryptedPayload = original.encryptedPayload

/-- What may arrive.  Signatures are unforgeable, so an envelope that verifies
under the publisher carries what the publisher has signed; cut elsewhere between
header and payload, it holds no ciphertext. -/
def Genuine (envelope : NetworkEnvelope) : Prop :=
  verifyEnvelope P (b.identity.publicKey P) envelope = .ok true →
    (∃ i, b.Carries P envelope i) ∨
      ∀ key nonce, P.aeadDecrypt key nonce b.chat.groupId envelope.encryptedPayload = none

/-! ## The publisher -/

/-- The sender keys behind `n` publications. -/
def keysAt (n : Nat) : SenderKeys B :=
  { SenderKeys.new b.chat.groupId ⟨P.toVec (b.identity.publicKey P).classical⟩ b.drawn with
    chainKey := SenderKeys.chainAt P b.drawn n
    messageIndex := UInt64.ofNat n }

/-- The publisher behind `n` publications. -/
def publisherAt (n : Nat) : GroupChat B := { b.chat with sender := some (b.keysAt P n) }

/-- The header of message number `i`. -/
def headerAt (i : Nat) (ciphertext : Bytes) : SenderKeyMessage :=
  { groupId := b.chat.groupId
    senderIdentity := ⟨P.toVec (b.identity.publicKey P).classical⟩
    messageIndex := UInt64.ofNat i
    ciphertext }

/-- The envelope of publication number `i`, if it goes out. -/
def envelopeAt (i : Nat) (p : Publication) : Option NetworkEnvelope :=
  if p.running then
    (P.aeadEncrypt (SenderKeys.keyAt P b.drawn i) (nonceOf (UInt64.ofNat i)) b.chat.groupId
      p.plaintext).map fun ciphertext =>
        buildRawEnvelope P b.identity b.deviceId KIND_GROUP (asBytes b.chat.conversationId)
          ciphertext (Serde.toVec (b.headerAt P i ciphertext)) p.now
  else none

variable {P} {b}

omit [Serde (HybridSignature B)] [Serde SenderKeyMessage] in
theorem publisherAt_zero : b.publisherAt P 0 = b.publisher P := rfl

omit [Serde SenderKeyMessage] in
theorem ofNat_succ (n : Nat) : UInt64.ofNat n + 1 = UInt64.ofNat (n + 1) := by
  rw [UInt64.ofNat_add]
  rfl

omit [Serde (HybridSignature B)] [Serde SenderKeyMessage] in
theorem encrypt_keysAt (n : Nat) (plaintext aad : Bytes) :
    (b.keysAt P n).encrypt P plaintext aad =
      match P.aeadEncrypt (SenderKeys.keyAt P b.drawn n) (nonceOf (UInt64.ofNat n)) aad
          plaintext with
      | none => .error (.encryptionFailed "Sender key encryption failed") (b.keysAt P (n + 1))
      | some ciphertext => .ok ciphertext (b.keysAt P (n + 1)) := by
  unfold SenderKeys.encrypt keysAt
  simp only [ofNat_succ]
  rfl

/-- A publication moves the chain by one, whether its envelope goes out or
not. -/
theorem publish_publisherAt (n : Nat) (p : Publication) :
    ((b.publisherAt P n).publish P p.running b.identity b.deviceId p.plaintext p.now).state =
        b.publisherAt P (n + 1) ∧
      ((b.publisherAt P n).publish P p.running b.identity b.deviceId p.plaintext
        p.now).result.toOption = b.envelopeAt P n p := by
  have hindex : (b.keysAt P (n + 1)).messageIndex - 1 = UInt64.ofNat n := by
    show UInt64.ofNat (n + 1) - 1 = _
    rw [← ofNat_succ]
    exact UInt64.add_sub_cancel _ _
  unfold GroupChat.publish envelopeAt
  simp only [publisherAt, encrypt_keysAt]
  cases P.aeadEncrypt (SenderKeys.keyAt P b.drawn n) (nonceOf (UInt64.ofNat n)) b.chat.groupId
      p.plaintext with
  | none =>
    refine ⟨rfl, ?_⟩
    cases p.running with
    | false => rfl
    | true => rfl
  | some ciphertext =>
    simp only [hindex]
    cases p.running with
    | false => exact ⟨rfl, rfl⟩
    | true => exact ⟨rfl, rfl⟩

theorem publishAll_publisherAt (n : Nat) (ps : List Publication) :
    GroupChat.publishAll P b.identity b.deviceId (b.publisherAt P n) ps =
      (ps.mapIdx fun i p => b.envelopeAt P (n + i) p, b.publisherAt P (n + ps.length)) := by
  induction ps generalizing n with
  | nil => rfl
  | cons p ps ih =>
    obtain ⟨hstate, hresult⟩ := publish_publisherAt (b := b) (P := P) n p
    unfold GroupChat.publishAll
    simp only [hstate, hresult, ih (n + 1), List.mapIdx_cons, List.length_cons]
    rw [show n + 1 + ps.length = n + (ps.length + 1) by omega]
    simp only [Nat.add_assoc, Nat.add_comm 1, Nat.add_zero]

theorem sent_eq : b.sent P = b.publications.mapIdx fun i p => b.envelopeAt P i p := by
  unfold sent
  rw [← publisherAt_zero, publishAll_publisherAt]
  simp only [Nat.zero_add]

theorem publisherAfter_eq : b.publisherAfter P = b.publisherAt P b.publications.length := by
  unfold publisherAfter
  rw [← publisherAt_zero, publishAll_publisherAt, Nat.zero_add]

theorem sent_getElem? (i : Nat) :
    (b.sent P)[i]? = b.publications[i]?.map fun p => b.envelopeAt P i p := by
  rw [sent_eq, List.getElem?_mapIdx]

/-- The ciphertext and the header behind an envelope that carries a
publication. -/
theorem Carries.sealed {envelope : NetworkEnvelope} {i : Nat} (h : b.Carries P envelope i) :
    ∃ p, b.publications[i]? = some p ∧
      P.aeadEncrypt (SenderKeys.keyAt P b.drawn i) (nonceOf (UInt64.ofNat i)) b.chat.groupId
        p.plaintext = some envelope.encryptedPayload ∧
      envelope.nonce = Serde.toVec (b.headerAt P i envelope.encryptedPayload) := by
  obtain ⟨original, hsent, hnonce, hpayload⟩ := h
  rw [sent_getElem?, Option.map_eq_some_iff] at hsent
  obtain ⟨p, hp, henvelope⟩ := hsent
  refine ⟨p, hp, ?_⟩
  unfold envelopeAt at henvelope
  cases hrunning : p.running with
  | false => simp [hrunning] at henvelope
  | true =>
    rw [if_pos hrunning, Option.map_eq_some_iff] at henvelope
    obtain ⟨ciphertext, hseal, rfl⟩ := henvelope
    rw [hpayload, hnonce]
    exact ⟨hseal, rfl⟩

theorem Carries.lt {envelope : NetworkEnvelope} {i : Nat} (h : b.Carries P envelope i) :
    i < b.publications.length := by
  obtain ⟨p, hp, -, -⟩ := h.sealed
  exact (List.getElem?_eq_some_iff.mp hp).1

/-- An envelope carries one publication. -/
theorem Carries.unique (hideal : P.AeadIdeal) (hdistinct : b.DistinctKeys P)
    {envelope : NetworkEnvelope} {i j : Nat} (hi : b.Carries P envelope i)
    (hj : b.Carries P envelope j) : i = j := by
  obtain ⟨p, -, hsealed, -⟩ := hi.sealed
  obtain ⟨q, -, hsealed', -⟩ := hj.sealed
  have hkey := (hideal.inj _ _ _ _ _ _ _ _ _ hsealed hsealed').1
  exact hdistinct i j hi.lt.le hj.lt.le hkey

/-! ## The reader -/

variable (P) (b) in
/-- The reader waits for publication number `n`. -/
structure ReaderAt (g : GroupChat B) (n : Nat) : Prop where
  peer : g.peerIdentity = some (b.identity.publicKey P)
  group : g.groupId = b.chat.groupId
  receiver : ∃ keys, g.receiver = some keys ∧ keys.chainKey = SenderKeys.chainAt P b.drawn n ∧
    (n < 2 ^ 64 → keys.messageIndex = UInt64.ofNat n)

omit [Serde (HybridSignature B)] [Serde SenderKeyMessage] in
theorem readerAt_subscribe {g : GroupChat B} (hgroup : g.groupId = b.chat.groupId) :
    b.ReaderAt P (b.subscribe P g) 0 :=
  ⟨rfl, hgroup, _, rfl, rfl, fun _ => rfl⟩

omit [Serde (HybridSignature B)] [Serde SenderKeyMessage] in
/-- `advance` moves the reader on. -/
theorem ReaderAt.advance {g : GroupChat B} {n : Nat} (h : b.ReaderAt P g n)
    {keys : SenderKeys B} (hkeys : g.receiver = some keys) :
    b.ReaderAt P { g with receiver := some (keys.advance P) } (n + 1) := by
  obtain ⟨hpeer, hgroup, keys', hkeys', hchain, hindex⟩ := h
  obtain rfl : keys' = keys := Option.some.inj (hkeys'.symm.trans hkeys)
  refine ⟨hpeer, hgroup, _, rfl, ?_, ?_⟩
  · show P.hmacSha256 keys'.chainKey _ = P.hmacSha256 (SenderKeys.chainAt P b.drawn n) _
    rw [hchain]
  · intro hn
    have hnow := hindex (by omega)
    have hsmall : keys'.messageIndex.toNat = n := by
      rw [hnow, UInt64.toNat_ofNat']
      omega
    show (if keys'.messageIndex.toNat + 1 < 2 ^ 64 then _ else _) = _
    rw [hsmall, if_pos hn, hnow, ofNat_succ]

variable [LawfulSerde SenderKeyMessage]

/-- The publication that the reader waits for is opened. -/
theorem ReaderAt.takes (hround : P.AeadRoundTrip) {g : GroupChat B} {n : Nat}
    (h : b.ReaderAt P g n) {envelope : NetworkEnvelope}
    (hverify : verifyEnvelope P (b.identity.publicKey P) envelope = .ok true)
    (hcarries : b.Carries P envelope n) :
    ∃ p g', b.publications[n]? = some p ∧ g.decrypt P envelope = .ok p.plaintext g' ∧
      b.ReaderAt P g' (n + 1) := by
  obtain ⟨p, hp, hseal, hnonce⟩ := hcarries.sealed
  obtain ⟨keys, hkeys, hchain, -⟩ := h.receiver
  refine ⟨p, { g with receiver := some (keys.advance P) }, hp, ?_, h.advance hkeys⟩
  have hopen : keys.decrypt P envelope.encryptedPayload (UInt64.ofNat n) g.groupId =
      .ok p.plaintext := by
    have hkey : keys.messageKey P = SenderKeys.keyAt P b.drawn n := by
      unfold SenderKeys.messageKey SenderKeys.keyAt
      rw [hchain]
    unfold SenderKeys.decrypt
    rw [hkey, h.group, hround _ _ _ _ _ hseal]
  unfold GroupChat.decrypt
  simp only [h.peer, hverify, hnonce, fromSlice_toVec, hkeys]
  rw [show (b.headerAt P n envelope.encryptedPayload).messageIndex = UInt64.ofNat n from rfl, hopen]

omit [LawfulSerde SenderKeyMessage] in
/-- Nothing else is. -/
theorem ReaderAt.refuses (hideal : P.AeadIdeal) (hdistinct : b.DistinctKeys P)
    {g : GroupChat B} {n : Nat} (h : b.ReaderAt P g n) (hn : n ≤ b.publications.length)
    {envelope : NetworkEnvelope} (hgenuine : b.Genuine P envelope)
    (hother : ¬ (verifyEnvelope P (b.identity.publicKey P) envelope = .ok true ∧
      b.Carries P envelope n)) :
    ∃ e, g.decrypt P envelope = .error e g := by
  obtain ⟨keys, hkeys, hchain, -⟩ := h.receiver
  have hkey : keys.messageKey P = SenderKeys.keyAt P b.drawn n := by
    unfold SenderKeys.messageKey SenderKeys.keyAt
    rw [hchain]
  unfold GroupChat.decrypt
  simp only [h.peer]
  cases hverify : verifyEnvelope P (b.identity.publicKey P) envelope with
  | error e => exact ⟨e, rfl⟩
  | ok verified =>
    cases verified with
    | false => exact ⟨_, rfl⟩
    | true =>
      simp only
      cases (Serde.fromSlice envelope.nonce : Option SenderKeyMessage) with
      | none => exact ⟨_, rfl⟩
      | some message =>
        simp only [hkeys]
        have hclosed : P.aeadDecrypt (keys.messageKey P) (nonceOf message.messageIndex) g.groupId
            envelope.encryptedPayload = none := by
          rw [h.group]
          rcases hgenuine hverify with ⟨i, hcarries⟩ | hno
          · -- it was sealed under the key of another position
            rw [Option.eq_none_iff_forall_ne_some]
            intro text hopen
            obtain ⟨p, -, hseal, -⟩ := hcarries.sealed
            have hsame := (hideal.inj _ _ _ _ _ _ _ _ _ hseal (hideal.sealed _ _ _ _ _ hopen)).1
            rw [hkey] at hsame
            obtain rfl : i = n := hdistinct i n hcarries.lt.le hn hsame
            exact hother ⟨hverify, hcarries⟩
          · exact hno _ _
        refine ⟨.crypto .decryptionFailed, ?_⟩
        unfold SenderKeys.decrypt
        rw [hclosed]

variable (P) (b) in
open Classical in
/-- The publication that a genuine envelope brings. -/
noncomputable def position (envelope : NetworkEnvelope) : Option Nat :=
  if h : verifyEnvelope P (b.identity.publicKey P) envelope = .ok true ∧
      ∃ i, b.Carries P envelope i then some h.2.choose
  else none

omit [LawfulSerde SenderKeyMessage] in
theorem position_eq_some_iff (hideal : P.AeadIdeal) (hdistinct : b.DistinctKeys P)
    {envelope : NetworkEnvelope} {n : Nat} :
    b.position P envelope = some n ↔
      verifyEnvelope P (b.identity.publicKey P) envelope = .ok true ∧
        b.Carries P envelope n := by
  unfold position
  by_cases h : verifyEnvelope P (b.identity.publicKey P) envelope = .ok true ∧
      ∃ i, b.Carries P envelope i
  · rw [dif_pos h]
    constructor
    · intro heq
      rw [← Option.some.inj heq]
      exact ⟨h.1, h.2.choose_spec⟩
    · intro hn
      rw [Carries.unique hideal hdistinct h.2.choose_spec hn.2]
  · rw [dif_neg h]
    constructor
    · intro heq
      cases heq
    · intro hn
      exact absurd ⟨hn.1, n, hn.2⟩ h

variable (b) in
/-- The plaintext of publication number `i`. -/
def textAt (i : Nat) : Bytes := (b.publications[i]?.map Publication.plaintext).getD []

/-- The reader is a receiver that takes the publications in order. -/
theorem ReaderAt.run (hround : P.AeadRoundTrip) (hideal : P.AeadIdeal)
    (hdistinct : b.DistinctKeys P) {g : GroupChat B} {n : Nat} (h : b.ReaderAt P g n)
    (hn : n ≤ b.publications.length) {envelopes : List NetworkEnvelope}
    (hgenuine : ∀ e ∈ envelopes, b.Genuine P e) :
    (g.results P envelopes).map Except.toOption =
        (InOrder.outcomes n (envelopes.map (b.position P))).map (Option.map b.textAt) ∧
      b.ReaderAt P ((GroupChat.reader P).run g envelopes)
        (n + (InOrder.accepted n (envelopes.map (b.position P))).length) := by
  induction envelopes generalizing g n with
  | nil => exact ⟨rfl, h⟩
  | cons e rest ih =>
    have hrest : ∀ e' ∈ rest, b.Genuine P e' :=
      fun e' he' => hgenuine e' (List.mem_cons_of_mem _ he')
    have hresults : g.results P (e :: rest) =
        (g.decrypt P e).result :: GroupChat.results P (g.decrypt P e).state rest := rfl
    have hrun : (GroupChat.reader P).run g (e :: rest) =
        (GroupChat.reader P).run (g.decrypt P e).state rest := rfl
    rw [hresults, hrun, List.map_cons, List.map_cons]
    by_cases hposition : b.position P e = some n
    · obtain ⟨hverify, hcarries⟩ := (position_eq_some_iff hideal hdistinct).mp hposition
      obtain ⟨p, g', hp, hdecrypt, hnext⟩ := h.takes hround hverify hcarries
      obtain ⟨hlater, hreader⟩ := ih hnext hcarries.lt hrest
      rw [hposition, InOrder.outcomes_cons_self, InOrder.accepted_cons_self, List.map_cons,
        List.length_cons, hdecrypt]
      have htext : b.textAt n = p.plaintext := by
        unfold textAt
        rw [hp]
        rfl
      refine ⟨?_, ?_⟩
      · rw [← hlater, Option.map_some, htext]
        rfl
      · rw [show n + ((InOrder.accepted (n + 1) (rest.map (b.position P))).length + 1) =
          n + 1 + (InOrder.accepted (n + 1) (rest.map (b.position P))).length by omega]
        exact hreader
    · have hother := fun hboth => hposition ((position_eq_some_iff hideal hdistinct).mpr hboth)
      obtain ⟨err, hdecrypt⟩ :=
        h.refuses hideal hdistinct hn (hgenuine e List.mem_cons_self) hother
      obtain ⟨hlater, hreader⟩ := ih h hn hrest
      rw [InOrder.outcomes_cons_ne hposition, InOrder.accepted_cons_ne hposition, List.map_cons,
        hdecrypt]
      exact ⟨by rw [← hlater]; rfl, hreader⟩

end Broadcast

end Presidium
