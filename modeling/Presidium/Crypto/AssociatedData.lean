import Presidium.Crypto.RatchetAgreement
import Presidium.Crypto.Replay

/-!
# The associated data of a session

`DoubleRatchet` carries an `associated_data` field that both constructors
take.  Neither `encrypt` nor `decrypt` reads it: the AEAD gets the header of
the message and nothing else.

So the two ends of a session may have any associated data, and the messages go
through all the same.  `rejected_iff_outside_window` says exactly which ones do
not, over a network that loses, delays, reorders and repeats: those whose number
the receive window does not take.  The window is a function of the numbers that
have arrived so far.  The associated data does not occur in it.

`Hears` is the invariant.  A peer is where the number of its encryptions and
the numbers that have arrived at it say, and every message is the one that the
chain of its sender has for its number.
-/

namespace Presidium

variable {B : Nat → Type}

namespace Pairing

/-- A peer with its counts: how often it has encrypted, and the numbers that
have arrived, those of rejected messages included. -/
def hearerAt (P : Primitives B) (g : Pairing B) (s : Side) (n : Nat) (arrived : List Nat) :
    Peer B :=
  { ratchet := g.ratchetAt P s n (Window.empty.arriveAll MAX_SKIP_MESSAGES arrived)
      (!arrived.isEmpty)
    heard := !arrived.isEmpty }

section Receive

variable {P : Primitives B} {g : Pairing B} [Serde (RatchetMessageHeader B)]

/-- What `decrypt` makes of a message of the peer: it is taken if and only if
the window takes its number. -/
theorem decrypt_window (haead : P.AeadRoundTrip) (hideal : P.AeadIdeal) (s : Side) (n : Nat)
    {w : Window} (hskipped : ∀ k ∈ w.skipped, k < 2 ^ 64) (hnext : w.next < 2 ^ 64)
    (hdistinct : DoubleRatchet.DistinctKeys P [g.chain P s.peer] (2 ^ 64)) {k : Nat}
    (hk : k < 2 ^ 64) {text : Bytes} {msg : Bytes × RatchetMessageHeader B}
    (hmsg : g.messageAt P s.peer k text = some msg) :
    ((g.ratchetAt P s n w true).decrypt P msg.1 msg.2).state =
        g.ratchetAt P s n (w.arrive MAX_SKIP_MESSAGES k) true ∧
      ((∃ e, ((g.ratchetAt P s n w true).decrypt P msg.1 msg.2).result = .error e) ↔
        ¬ w.Takes MAX_SKIP_MESSAGES k) := by
  obtain ⟨ciphertext, hseal, rfl⟩ := Option.map_eq_some_iff.mp hmsg
  have hzero := g.chain_index P s.peer
  have htracks := tracks_ratchetAt (P := P) (g := g) s n w
  by_cases htakes : w.Takes MAX_SKIP_MESSAGES k
  · have hopen : DoubleRatchet.openWith P (messageKeyAt P (g.chain P s.peer) k)
        (g.headerAt P s.peer k) ciphertext = some text := haead _ _ _ _ _ hseal
    rw [DoubleRatchet.decrypt_takes hzero htracks hskipped hnext hk rfl ciphertext htakes, hopen,
      withWindow_ratchetAt]
    exact ⟨rfl, by simp [DoubleRatchet.answer, htakes]⟩
  · have hmem : k ∉ w.skipped := fun hmem => htakes (Or.inl hmem)
    rw [DoubleRatchet.decrypt_arrive hzero htracks hskipped hnext hk rfl ciphertext hmem,
      withWindow_ratchetAt]
    by_cases hreach : w.InReach MAX_SKIP_MESSAGES k
    · -- the number is behind the window, and the key that is tried is not its own
      have hlt : k < w.next := Nat.not_le.mp fun hle => htakes (Or.inr ⟨hle, hreach⟩)
      have hwrong : DoubleRatchet.openWith P
          (messageKeyAt P (g.chain P s.peer) (w.next + (k - w.next)))
          (g.headerAt P s.peer k) ciphertext = none := by
        rw [Option.eq_none_iff_forall_ne_some]
        intro text' hopen
        have hkey := (hideal.inj _ _ _ _ _ _ _ _ _ (hideal.sealed _ _ _ _ _ hopen) hseal).1
        have hsame := (hdistinct 0 0 _ _ _ _ rfl rfl (by omega) (by omega) hkey).2
        omega
      rw [if_pos hreach, hwrong]
      exact ⟨rfl, by simp [DoubleRatchet.answer, htakes]⟩
    · rw [if_neg hreach]
      exact ⟨rfl, by simp [htakes]⟩

/-- The same for `receive`, which runs `dh_ratchet` before the first message. -/
theorem receive_hearerAt (hdh : P.DhCommutes) (haead : P.AeadRoundTrip) (hideal : P.AeadIdeal)
    (s : Side) (n : Nat) {arrived : List Nat} (hturn : s = .first ∨ arrived ≠ [] ∨ n = 0)
    (hroom : DoubleRatchet.reach arrived.length < 2 ^ 64)
    (hdistinct : DoubleRatchet.DistinctKeys P [g.chain P s.peer] (2 ^ 64)) {k : Nat}
    (hk : k < 2 ^ 64) {text : Bytes} {msg : Bytes × RatchetMessageHeader B}
    (hmsg : g.messageAt P s.peer k text = some msg) :
    ((g.hearerAt P s n arrived).receive P msg).1 = g.hearerAt P s n (arrived ++ [k]) ∧
      ((∃ e, ((g.hearerAt P s n arrived).receive P msg).2 = .error e) ↔
        ¬ (Window.empty.arriveAll MAX_SKIP_MESSAGES arrived).Takes MAX_SKIP_MESSAGES k) := by
  have hnext : (Window.empty.arriveAll MAX_SKIP_MESSAGES arrived).next < 2 ^ 64 :=
    (Window.next_arriveAll_le arrived).trans_lt hroom
  have hskipped : ∀ j ∈ (Window.empty.arriveAll MAX_SKIP_MESSAGES arrived).skipped, j < 2 ^ 64 :=
    fun j hj => (Window.skipped_arriveAll_le arrived j hj).trans_lt hnext
  obtain ⟨hstate, hresult⟩ := g.decrypt_window haead hideal s n hskipped hnext hdistinct hk hmsg
  rw [← Window.arriveAll_concat] at hstate
  have hafter : g.hearerAt P s n (arrived ++ [k]) =
      { ratchet := g.ratchetAt P s n (Window.empty.arriveAll MAX_SKIP_MESSAGES (arrived ++ [k]))
          true
        heard := true } := by
    have hnonempty : (arrived ++ [k]).isEmpty = false := by simp
    unfold hearerAt
    rw [hnonempty]
    rfl
  rw [hafter, ← hstate]
  cases arrived with
  | nil =>
    have hkey : msg.2.dhPublicKey = g.ratchetPublic P s.peer := by
      obtain ⟨ciphertext, -, rfl⟩ := Option.map_eq_some_iff.mp hmsg
      rfl
    have hratchet := g.dhRatchet_ratchetAt hdh s (hturn.imp_right (Or.resolve_left · (by simp)))
    have hreceive : (g.hearerAt P s n []).receive P msg =
        (⟨((g.ratchetAt P s n Window.empty true).decrypt P msg.1 msg.2).state, true⟩,
          ((g.ratchetAt P s n Window.empty true).decrypt P msg.1 msg.2).result) := by
      have hstart : g.hearerAt P s n [] =
          { ratchet := g.ratchetAt P s n Window.empty false, heard := false } := rfl
      simp only [hstart, Peer.receive, hkey, hratchet]
      rfl
    rw [hreceive]
    exact ⟨rfl, hresult⟩
  | cons j arrived => exact ⟨rfl, hresult⟩

/-! ## Runs -/

/-- A peer is where its counts say, after at most `events` events. -/
structure Hears (P : Primitives B) (g : Pairing B) [Serde (RatchetMessageHeader B)] (events : Nat)
    (s : Side)
    (p : Duplex.Party (Peer B) (Bytes × RatchetMessageHeader B) Bytes (Except CryptoError Bytes)) :
    Prop where
  state : p.state = g.hearerAt P s p.outbox.length p.taken
  turn : s = .first ∨ p.taken ≠ [] ∨ p.outbox.length = 0
  outbox : ∀ k entry, p.outbox[k]? = some entry → entry.1 = g.messageAt P s k entry.2
  sent_le : p.outbox.length ≤ events
  arrived_le : p.taken.length ≤ events

variable {events : Nat} {s : Side}
  {p : Duplex.Party (Peer B) (Bytes × RatchetMessageHeader B) Bytes (Except CryptoError Bytes)}

theorem Hears.mono (h : Hears P g events s p) : Hears P g (events + 1) s p :=
  ⟨h.state, h.turn, h.outbox, h.sent_le.trans (Nat.le_succ _), h.arrived_le.trans (Nat.le_succ _)⟩

theorem Hears.sendStep (hdh : P.DhCommutes) (h : Hears P g events s p)
    (hturn : s = .first ∨ p.taken ≠ []) (text : Bytes) :
    Hears P g (events + 1) s ((peers P g).sendStep p text) := by
  have hheard : s = .first ∨ (!p.taken.isEmpty) = true := hturn.imp_right fun h => by simpa using h
  obtain ⟨hstate, hresult⟩ := g.encrypt_ratchetAt hdh s p.outbox.length
    (Window.empty.arriveAll MAX_SKIP_MESSAGES p.taken) hheard text
  have hsend : (peers P g).send p.state text =
      (g.hearerAt P s (p.outbox.length + 1) p.taken, g.messageAt P s p.outbox.length text) := by
    rw [h.state]
    show (Peer.mk _ _, _) = _
    unfold hearerAt
    rw [hstate, hresult]
  refine ⟨?_, hturn.imp_right Or.inl, ?_, ?_, h.arrived_le.trans (Nat.le_succ _)⟩
  · simp [Duplex.sendStep, hsend]
  · simp only [Duplex.sendStep, hsend]
    exact Duplex.forall_outbox_concat h.outbox rfl
  · have hle := h.sent_le
    simp [Duplex.sendStep, hle]

theorem Hears.recvStep (hdh : P.DhCommutes) (haead : P.AeadRoundTrip) (hideal : P.AeadIdeal)
    (h : Hears P g events s p) (hroom : DoubleRatchet.reach events < 2 ^ 64)
    (hdistinct : DoubleRatchet.DistinctKeys P [g.chain P s.peer] (2 ^ 64)) {k : Nat}
    (hk : k < 2 ^ 64) {text : Bytes} {msg : Bytes × RatchetMessageHeader B}
    (hmsg : g.messageAt P s.peer k text = some msg) :
    Hears P g (events + 1) s ((peers P g).recvStep p k msg text) := by
  have hroom' : DoubleRatchet.reach p.taken.length < 2 ^ 64 :=
    (Nat.mul_le_mul_left _ h.arrived_le).trans_lt hroom
  obtain ⟨hstate, -⟩ :=
    g.receive_hearerAt hdh haead hideal s p.outbox.length h.turn hroom' hdistinct hk hmsg
  have hle := h.arrived_le
  refine ⟨?_, Or.inr (Or.inl ?_), h.outbox, h.sent_le.trans (Nat.le_succ _), ?_⟩
  · show (p.state.receive P msg).1 = _
    rw [h.state]
    exact hstate
  · simp [Duplex.recvStep]
  · simp [Duplex.recvStep, hle]

/-- A message in an outbox is the one of its number. -/
theorem Hears.message (h : Hears P g events s p) {k : Nat} {text : Bytes}
    {msg : Bytes × RatchetMessageHeader B} (hmessage : p.message k = some (msg, text)) :
    g.messageAt P s k text = some msg ∧ k < events := by
  have hentry := Duplex.Party.message_eq_some hmessage
  have hk : k < p.outbox.length := (List.getElem?_eq_some_iff.mp hentry).1
  exact ⟨(h.outbox k _ hentry).symm, hk.trans_le h.sent_le⟩

variable (hdh : P.DhCommutes) (haead : P.AeadRoundTrip) (hideal : P.AeadIdeal)
  (hdistinct : ∀ s, DoubleRatchet.DistinctKeys P [g.chain P s] (2 ^ 64))
include hdh haead hideal hdistinct

theorem hears_step
    {net : Duplex.Net (Peer B) (Bytes × RatchetMessageHeader B) Bytes (Except CryptoError Bytes)}
    (h : ∀ s, Hears P g events s (net s)) (hroom : DoubleRatchet.reach events < 2 ^ 64)
    {e : Duplex.Event Bytes} (henabled : (peers P g).replaying.Enabled net e) :
    ∀ s, Hears P g (events + 1) s ((peers P g).netStep net e s) := by
  have hupdate : ∀ s p, Hears P g (events + 1) s p →
      ∀ t, Hears P g (events + 1) t (Function.update net s p t) := by
    intro s p hp t
    by_cases hts : t = s
    · subst hts
      rwa [Function.update_self]
    · rw [Function.update_of_ne hts]
      exact (h t).mono
  cases e with
  | send s text => exact hupdate s _ ((h s).sendStep hdh henabled text)
  | deliver s k =>
    cases hmessage : (net s.peer).message k with
    | none =>
      intro t
      simp only [Duplex.netStep, hmessage]
      exact (h t).mono
    | some entry =>
      obtain ⟨hmsg, hk⟩ := (h s.peer).message hmessage
      have hk' : k < 2 ^ 64 := by
        unfold DoubleRatchet.reach MAX_SKIP_MESSAGES at hroom
        omega
      intro t
      simp only [Duplex.netStep, hmessage]
      exact hupdate s _
        ((h s).recvStep hdh haead hideal hroom (hdistinct s.peer) hk' hmsg) t

/-- Every run of the network keeps both peers to their counts.  The induction
is on the run from its end, so that the bound counts the events so far. -/
theorem hears_run {es : List (Duplex.Event Bytes)}
    (hvalid : (peers P g).replaying.Valid (peers P g).initial es)
    (hroom : DoubleRatchet.reach es.length < 2 ^ 64) :
    ∀ s, Hears P g es.length s ((peers P g).replaying.run (peers P g).initial es s) := by
  induction es using List.reverseRecOn with
  | nil =>
    intro s
    refine ⟨?_, Or.inr (Or.inr rfl), ?_, Nat.le_refl 0, Nat.le_refl 0⟩
    · show Peer.mk (g.startOf P s) false = _
      rw [g.startOf_eq P s]
      rfl
    · intro k entry hentry
      cases hentry
  | append_singleton es e ih =>
    obtain ⟨hbefore, henabled, -⟩ := Machine.valid_append.mp hvalid
    have hroom' : DoubleRatchet.reach es.length < 2 ^ 64 := by
      rw [List.length_append, DoubleRatchet.reach_add] at hroom
      omega
    rw [Machine.run_append, List.length_append]
    exact hears_step hdh haead hideal hdistinct (ih hbefore hroom') hroom' henabled

end Receive
end Pairing

section Main

variable {P : Primitives B} [Serde (RatchetMessageHeader B)]

/-- Two sessions from the same root key and ratchet keys, with any associated
data on either side, over a network that loses, delays, reorders and repeats.
A message of one is rejected by the other if and only if the receive window
does not take its number; the associated data is never the reason. -/
theorem rejected_iff_outside_window (hdh : P.DhCommutes) (hround : P.AeadRoundTrip)
    (hideal : P.AeadIdeal) (g : Pairing B)
    (hdistinct : ∀ s, DoubleRatchet.DistinctKeys P [g.chain P s] (2 ^ 64))
    (es : List (Duplex.Event Bytes))
    (hvalid : (peers P g).replaying.Valid (peers P g).initial es)
    (hroom : DoubleRatchet.reach es.length < 2 ^ 64) (s : Side) {k : Nat} {text : Bytes}
    {msg : Bytes × RatchetMessageHeader B}
    (hmessage : ((peers P g).replaying.run (peers P g).initial es s.peer).message k =
      some (msg, text)) :
    (∃ e, (((peers P g).replaying.run (peers P g).initial es s).state.receive P msg).2 =
        .error e) ↔
      ¬ (Window.empty.arriveAll MAX_SKIP_MESSAGES
          ((peers P g).replaying.run (peers P g).initial es s).taken).Takes
        MAX_SKIP_MESSAGES k := by
  have hears := Pairing.hears_run hdh hround hideal hdistinct hvalid hroom
  obtain ⟨hmsg, hk⟩ := (hears s.peer).message hmessage
  have hk' : k < 2 ^ 64 := by
    unfold DoubleRatchet.reach MAX_SKIP_MESSAGES at hroom
    omega
  have hroom' : DoubleRatchet.reach
      ((peers P g).replaying.run (peers P g).initial es s).taken.length < 2 ^ 64 :=
    (Nat.mul_le_mul_left _ (hears s).arrived_le).trans_lt hroom
  rw [(hears s).state]
  exact (g.receive_hearerAt hdh hround hideal s _ (hears s).turn hroom' (hdistinct s.peer) hk'
    hmsg).2

end Main

namespace Sym

/-- Two ends of one session with different associated data. -/
def labelled : Pairing Sym :=
  { pairing with
    associatedData := fun
      | .first => [1]
      | .second => [2] }

/-- What the responder makes of the first message of the initiator after some
calls. -/
def greeted (received : List (RatchetOp Sym)) : Option Bytes :=
  match (labelled.startOf primitives .first).encrypt primitives [7] with
  | .error _ _ => none
  | .ok (ciphertext, header) _ =>
    match ((DoubleRatchet.machine primitives).run (labelled.startOf primitives .second)
        received).decrypt primitives ciphertext header with
    | .ok plaintext _ => some plaintext
    | .error _ _ => none

/-- The second message overtakes the first one. -/
def overtaken : List (Duplex.Event Bytes) :=
  [.send .first [7], .send .first [8], .deliver .second 1]

end Sym

/-- With different associated data on the two sides, the second message of the
initiator is rejected when it comes again, and the first one, which it has
overtaken, is not. -/
theorem rejected_repeated :
    Sym.labelled.associatedData .first ≠ Sym.labelled.associatedData .second ∧
      ∀ msg text k, ((peers Sym.primitives Sym.labelled).replaying.run
          (peers Sym.primitives Sym.labelled).initial Sym.overtaken .first).message k =
        some (msg, text) →
      ((∃ e, (((peers Sym.primitives Sym.labelled).replaying.run
          (peers Sym.primitives Sym.labelled).initial Sym.overtaken
          .second).state.receive Sym.primitives msg).2 = .error e) ↔ k = 1) := by
  refine ⟨by decide, ?_⟩
  intro msg text k hmessage
  rw [rejected_iff_outside_window Sym.dhCommutes Sym.aeadRoundTrip Sym.aeadIdeal Sym.labelled
    (fun s => Sym.distinctKeys_singleton _ _) Sym.overtaken (by decide +kernel) (by decide) .second
    hmessage]
  have hk : k < 2 := (List.getElem?_eq_some_iff.mp (Duplex.Party.message_eq_some hmessage)).1
  have hwindow : Window.empty.arriveAll MAX_SKIP_MESSAGES
      ((peers Sym.primitives Sym.labelled).replaying.run
        (peers Sym.primitives Sym.labelled).initial Sym.overtaken .second).taken = ⟨2, [0]⟩ := by
    decide +kernel
  rw [hwindow]
  simp only [Window.Takes, List.mem_singleton]
  omega

/-- With different associated data on the two sides, the responder takes the
message of the initiator. -/
theorem different_associated_data_accepted :
    Sym.labelled.associatedData .first ≠ Sym.labelled.associatedData .second ∧
      Sym.greeted [.dhRatchet (Sym.labelled.initiatorPublic Sym.primitives)] = some [7] := by
  decide +kernel

end Presidium
