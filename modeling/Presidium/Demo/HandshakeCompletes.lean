import Presidium.Demo.NodesAgree

/-!
# The handshake can always be completed

`nodes_agree` says what the two nodes of `Duo` never do.  This file says what
they can still do.  Nothing that the users type and nothing that the loops take
in between spoils the handshake: as long as both loops are running, the network
alone can bring it to its end.

`handshake` is the plan of the network, a connection and four deliveries.  A
`Move` has no draws: what the nodes draw when a move reaches them is not the
network's choice.  Whatever the stage is, a suffix of the plan is left, and
`Completes` says that these moves link the nodes for all draws.
-/

namespace Presidium

variable {B : Nat → Type}

namespace Duo

/-- What the network does: a peer connects, or a message arrives. -/
inductive Move
  | connect (side : Side) (peer : PeerId)
  | deliver (side : Side) (k : Nat)
deriving DecidableEq, Repr

/-- The move with what the node draws when it takes it. -/
def Move.event : Move → Draws B → Event B
  | .connect s peer, draws => .turn s (.event (.peerConnected peer) draws)
  | .deliver s k, draws => .deliver s k draws

/-- The whole handshake: the connection, the bundle request, the bundle, the
prekey message and the ratchet key. -/
def handshake (ids : Side → PeerId) : List Move :=
  [.connect .first (ids .second), .deliver .second 0, .deliver .first 0, .deliver .second 1,
    .deliver .first 1]

/-- Neither loop is over. -/
def Running (d : Duo B) : Prop := ∀ s, (d.loop s).returned = none

/-- The message that is on the way may arrive. -/
theorem At.enabled {P : Primitives B} {da db : BootDraws B} {ids : Side → PeerId} {d : Duo B}
    {s : Side} {p : Progress B} (h : d.At P da db p) (hrunning : d.Running) {k : Nat}
    {envelope : NetworkEnvelope} (hsent : (p.sent s.peer)[k]? = some ⟨ids s, envelope⟩)
    (hnew : k ∉ p.arrived s) (hkind : envelope.kind = KIND_SYNC) (draws : Draws B) :
    Enabled ids d (.deliver s k draws) := by
  refine ⟨hrunning s, h.arrived s ▸ hnew, envelope, h.inbound_eq hsent, fun hdirect => ?_⟩
  exact nomatch hkind.symm.trans hdirect

section Completes

variable (P : Primitives B) [Serde (HybridSignature B)] [Serde (RatchetMessageHeader B)]
  [Serde (PreKeyBundle B)] [Serde (PqxdhPrekeyMessage B)] [Serde (GroupKeyDistribution B)]
  [Serde (SessionKeys B)] [Serde (RatchetSnapshot B)] [Serde SenderKeyMessage]
  [DecidableEq (B X25519_PUBLIC_KEY_SIZE)] (ids : Side → PeerId)

/-- The moves link the nodes, whatever the nodes draw at each of them. -/
def Completes : List Move → Duo B → Prop
  | [], d => ∃ c, d.Linked P c
  | move :: moves, d => ∀ draws : Draws B,
    Enabled ids d (move.event draws) ∧ Completes moves (step P ids d (move.event draws))

variable {P} {ids} {d : Duo B} {s : Side} {da db : BootDraws B}

/-- The moves are a run for every list of draws, one for each of them. -/
theorem Completes.run {moves : List Move} (h : Completes P ids moves d) :
    ∀ draws : List (Draws B), draws.length = moves.length →
      (machine P ids).Valid d (moves.zipWith Move.event draws) ∧
        ∃ c, ((machine P ids).run d (moves.zipWith Move.event draws)).Linked P c := by
  induction moves generalizing d with
  | nil => exact fun _ _ => ⟨trivial, h⟩
  | cons move moves ih =>
    intro draws hlength
    cases draws with
    | nil => exact nomatch hlength
    | cons now later =>
      obtain ⟨henabled, hnext⟩ := h now
      obtain ⟨hvalid, hlinked⟩ := ih hnext later (Nat.succ.inj hlength)
      exact ⟨⟨henabled, hvalid⟩, hlinked⟩

/-- Its receiver goes on, and the other node does not notice. -/
theorem Running.deliver (hrunning : d.Running) {k : Nat} {draws : Draws B}
    {envelope : NetworkEnvelope} (hin : d.inbound ids s k = some envelope)
    (hself : ((step P ids d (.deliver s k draws)).loop s).returned = none) :
    (step P ids d (.deliver s k draws)).Running := by
  intro t
  rcases t.eq_or_eq_peer s with rfl | rfl
  · exact hself
  · rw [loop_deliver_peer hin]
    exact hrunning s.peer

/-- One delivery less is left. -/
theorem At.completes {p : Progress B} {moves : List Move} {k : Nat} {envelope : NetworkEnvelope}
    (h : d.At P da db p) (hrunning : d.Running)
    (hsent : (p.sent s.peer)[k]? = some ⟨ids s, envelope⟩) (hnew : k ∉ p.arrived s)
    (hkind : envelope.kind = KIND_SYNC)
    (hnext : ∀ draws : Draws B,
      ((step P ids d (.deliver s k draws)).loop s).returned = none ∧
        ((step P ids d (.deliver s k draws)).Running →
          Completes P ids moves (step P ids d (.deliver s k draws)))) :
    Completes P ids (.deliver s k :: moves) d := by
  intro draws
  obtain ⟨hself, hrest⟩ := hnext draws
  exact ⟨h.enabled hrunning hsent hnew hkind draws,
    hrest (hrunning.deliver (h.inbound_eq hsent) hself)⟩

end Completes

/-! ## One stage after the other -/

section Stages

variable {P : Primitives B} [Serde (HybridSignature B)] [Serde (RatchetMessageHeader B)]
  [Serde (PreKeyBundle B)] [Serde (PqxdhPrekeyMessage B)] [Serde (GroupKeyDistribution B)]
  [Serde (SessionKeys B)] [Serde (RatchetSnapshot B)] [Serde SenderKeyMessage]
  [DecidableEq (B X25519_PUBLIC_KEY_SIZE)] {ids : Side → PeerId} {d : Duo B} {da db : BootDraws B}

/-- The initiator draws its ratchet key only now, so the state before fits every
such key. -/
theorem At.completes_accepted (harrays : P.ArraysRoundTrip) {t₀ t₁ t₂ t₃ : Int}
    {output : PqxdhOutput B} {message : PqxdhPrekeyMessage B} {key : B X25519_PRIVATE_KEY_SIZE}
    (h : ∀ initiatorKey, d.At P da db
      (.accepted P da db ids t₀ t₁ t₂ t₃ output message key initiatorKey))
    (hrunning : d.Running) : Completes P ids ((handshake ids).drop 4) d := by
  intro draws
  have hsent : ((Progress.accepted P da db ids t₀ t₁ t₂ t₃ output message key
      draws.initiatorRatchet).sent .second)[1]? = some (ratchetOut P db ids key t₃) := rfl
  have hnew : 1 ∉ (Progress.accepted P da db ids t₀ t₁ t₂ t₃ output message key
      draws.initiatorRatchet).arrived .first := by simp [Progress.accepted, Side.of]
  have hat := h draws.initiatorRatchet
  exact ⟨hat.enabled (s := .first) hrunning hsent hnew rfl draws,
    _, hat.linked harrays draws (hrunning .first)⟩

variable [LawfulSerde (PqxdhPrekeyMessage B)]

theorem At.completes_answered (harrays : P.ArraysRoundTrip) {t₀ t₁ t₂ : Int}
    {output : PqxdhOutput B} {message : PqxdhPrekeyMessage B}
    (hagree : pqxdhResponder P (ownKeys P db) message = .ok output)
    (hidentity : message.identityPublic = da.identity.publicKey P)
    (h : d.At P da db (.answered P da db ids t₀ t₁ t₂ output message)) (hrunning : d.Running) :
    Completes P ids ((handshake ids).drop 3) d := by
  have hsent : ((Progress.answered P da db ids t₀ t₁ t₂ output message).sent .first)[1]? =
      some (prekeyOut P da ids message t₂) := rfl
  have hnew : 1 ∉ (Progress.answered P da db ids t₀ t₁ t₂ output message).arrived .second := by
    simp [Progress.answered, Side.of]
  refine h.completes (s := .second) hrunning hsent hnew rfl fun draws => ?_
  have hnext := h.prekey harrays hagree hidentity (hrunning .second) draws
  exact ⟨(hnext draws.initiatorRatchet).2,
    completes_accepted harrays fun initiatorKey => (hnext initiatorKey).1⟩

variable [LawfulSerde (PreKeyBundle B)]

theorem At.completes_offered (harrays : P.ArraysRoundTrip) (hdh : P.DhCommutes)
    (hkem : P.KemRoundTrip) (hsig : P.SignaturesVerify) {t₀ t₁ : Int}
    (h : d.At P da db (.offered P da db ids t₀ t₁)) (hrunning : d.Running) :
    Completes P ids ((handshake ids).drop 2) d := by
  have hsent : ((Progress.offered P da db ids t₀ t₁).sent .second)[0]? =
      some (bundleOut P db ids t₁) := rfl
  have hnew : 0 ∉ (Progress.offered P da db ids t₀ t₁).arrived .first := nofun
  refine h.completes (s := .first) hrunning hsent hnew rfl fun draws => ?_
  obtain ⟨output, message, hagree, hidentity, hnext, hself⟩ :=
    h.bundle hdh hkem hsig (hrunning .first) draws
  exact ⟨hself, hnext.completes_answered harrays hagree hidentity⟩

theorem At.completes_asked (harrays : P.ArraysRoundTrip) (hdh : P.DhCommutes)
    (hkem : P.KemRoundTrip) (hsig : P.SignaturesVerify) {t₀ : Int}
    (h : d.At P da db (.asked P da ids t₀)) (hrunning : d.Running) :
    Completes P ids ((handshake ids).drop 1) d := by
  have hsent : ((Progress.asked P da ids t₀).sent .first)[0]? = some (requestOut P da ids t₀) := rfl
  have hnew : 0 ∉ (Progress.asked P da ids t₀).arrived .second := nofun
  refine h.completes (s := .second) hrunning hsent hnew rfl fun draws => ?_
  obtain ⟨hnext, hself⟩ := h.request (hrunning .second) draws
  exact ⟨hself, hnext.completes_offered harrays hdh hkem hsig⟩

theorem At.completes_idle (harrays : P.ArraysRoundTrip) (hdh : P.DhCommutes)
    (hkem : P.KemRoundTrip) (hsig : P.SignaturesVerify)
    (h : d.At P da db (.idle P da ids)) (hrunning : d.Running) :
    Completes P ids (handshake ids) d := by
  intro draws
  obtain ⟨hnext, hself⟩ := h.connection (hrunning .first) (ids .second) draws
  have hother : (d.take P .first (.event (.peerConnected (ids .second)) draws)).loop .second =
      d.loop .second := take_loop_peer (by decide)
  refine ⟨⟨hrunning .first, trivial⟩,
    hnext.completes_asked harrays hdh hkem hsig (Side.both hself ?_)⟩
  exact (congrArg RunLoop.returned hother).trans (hrunning .second)

/-- Whatever the stage is, the network can finish the handshake. -/
theorem Stage.completes (harrays : P.ArraysRoundTrip) (hdh : P.DhCommutes)
    (hkem : P.KemRoundTrip) (hsig : P.SignaturesVerify) (h : d.Stage P da db ids (Linked P))
    (hrunning : d.Running) : ∃ n, Completes P ids ((handshake ids).drop n) d := by
  cases h with
  | idle h => exact ⟨0, h.completes_idle harrays hdh hkem hsig hrunning⟩
  | asked t₀ h => exact ⟨1, h.completes_asked harrays hdh hkem hsig hrunning⟩
  | offered t₀ t₁ h => exact ⟨2, h.completes_offered harrays hdh hkem hsig hrunning⟩
  | answered t₀ t₁ t₂ output message hagree hidentity h =>
    exact ⟨3, h.completes_answered harrays hagree hidentity hrunning⟩
  | accepted t₀ t₁ t₂ t₃ output message key h =>
    exact ⟨4, At.completes_accepted harrays h hrunning⟩
  | linked secret initiatorKey responderKey h => exact ⟨5, _, h⟩

end Stages

end Duo

section Completion

variable {P : Primitives B} [Serde (HybridSignature B)] [Serde (RatchetMessageHeader B)]
  [Serde (PreKeyBundle B)] [Serde (PqxdhPrekeyMessage B)] [Serde (GroupKeyDistribution B)]
  [Serde (SessionKeys B)] [Serde (RatchetSnapshot B)] [Serde SenderKeyMessage]
  [DecidableEq (B X25519_PUBLIC_KEY_SIZE)] [LawfulSerde (PreKeyBundle B)]
  [LawfulSerde (PqxdhPrekeyMessage B)] {da db : BootDraws B}

end Completion

/-! ## An interrupted handshake over symbolic keys -/

end Presidium
