import Presidium.Crypto.RatchetWindow
import Presidium.Crypto.Symbolic
import Presidium.Lib.Duplex

/-!
# Two ratchets agree

`Pairing` is what the two ends of a session start from: one root key and a
ratchet key pair each.  Both ends step the root key with the same DH output
twice.  The first step gives the chain from the initiator to the responder,
the second one the chain back.

The state of either ratchet is a function of how often it has encrypted, of
its receive window and of whether it has run `dh_ratchet`.  `initiatorAt` and
`responderAt` are these functions, and each method of the ratchet moves them
from one argument to the next.

`Peer` is the calling convention of the ratchet tests: `dh_ratchet` once, with
the header key of the first message, just before the first `decrypt`.
`peers` puts two such peers on a network, and `peersCounted` hands the
equations of this file to the simulation of `Presidium.Lib.Duplex`.
-/

namespace Presidium

variable {B : Nat → Type}

/-- What the two ends of a session start from. -/
structure Pairing (B : Nat → Type) where
  rootKey : RootKey B
  initiatorKey : B X25519_PRIVATE_KEY_SIZE
  responderKey : B X25519_PRIVATE_KEY_SIZE
  sessionId : Side → String
  associatedData : Side → Bytes

namespace Pairing

variable (P : Primitives B) (g : Pairing B)

def initiatorPublic : B X25519_PUBLIC_KEY_SIZE := P.x25519Public g.initiatorKey

def responderPublic : B X25519_PUBLIC_KEY_SIZE := P.x25519Public g.responderKey

/-- The DH output of the two ratchet keys. -/
def shared : B X25519_SHARED_SECRET_SIZE := P.diffieHellman g.initiatorKey (g.responderPublic P)

/-- The root key after the first step. -/
def root₁ : RootKey B := (g.rootKey.ratchetStep P (g.shared P)).1

/-- The root key after the second step. -/
def root₂ : RootKey B := ((g.root₁ P).ratchetStep P (g.shared P)).1

/-- The chain on which a side sends. -/
def chain : Side → ChainKey B
  | .first => (g.rootKey.ratchetStep P (g.shared P)).2
  | .second => ((g.root₁ P).ratchetStep P (g.shared P)).2

/-- The ratchet public key of a side. -/
def ratchetPublic : Side → B X25519_PUBLIC_KEY_SIZE
  | .first => g.initiatorPublic P
  | .second => g.responderPublic P

theorem chain_index (s : Side) : (g.chain P s).index = 0 := by
  cases s <;> rfl

/-- The header of message number `n` of a side. -/
def headerAt (s : Side) (n : Nat) : RatchetMessageHeader B :=
  { dhPublicKey := g.ratchetPublic P s
    messageNumber := UInt64.ofNat n
    previousMessageNumber := 0 }

/-- Message number `n` of a side, when the AEAD takes the text. -/
def messageAt [Serde (RatchetMessageHeader B)] (s : Side) (n : Nat) (text : Bytes) :
    Option (Bytes × RatchetMessageHeader B) :=
  (P.aeadEncrypt (messageKeyAt P (g.chain P s) n) (nonceOf (UInt64.ofNat n))
    (Serde.toVec (g.headerAt P s n)) text).map fun ciphertext => (ciphertext, g.headerAt P s n)

/-! ## The two ratchets by their counts -/

/-- The initiator after `n` encryptions, with its receive window; `heard` says
that it has run `dh_ratchet`. -/
def initiatorAt (n : Nat) (w : Window) (heard : Bool) : DoubleRatchet B :=
  { rootKey := if heard then g.root₂ P else g.root₁ P
    sendingChain :=
      { ourRatchetKey := some g.initiatorKey
        theirRatchetPublic := some (g.responderPublic P)
        chainKey := some ((g.chain P .first).advance P n)
        skippedMessageKeys := [] }
    receivingChain :=
      { ourRatchetKey := none
        theirRatchetPublic := some (g.responderPublic P)
        chainKey := if heard then some ((g.chain P .second).advance P w.next) else none
        skippedMessageKeys := w.skipped.map (entryAt P (g.chain P .second)) }
    sessionId := g.sessionId .first
    associatedData := g.associatedData .first }

/-- The responder after `n` encryptions.  Its sending chain exists from the
first one on. -/
def responderAt (n : Nat) (w : Window) (heard : Bool) : DoubleRatchet B :=
  { rootKey := if heard then (if n = 0 then g.root₁ P else g.root₂ P) else g.rootKey
    sendingChain :=
      { ourRatchetKey := some g.responderKey
        theirRatchetPublic := if heard then some (g.initiatorPublic P) else none
        chainKey := if n = 0 then none else some ((g.chain P .second).advance P n)
        skippedMessageKeys := [] }
    receivingChain :=
      { ourRatchetKey := none
        theirRatchetPublic := none
        chainKey := if heard then some ((g.chain P .first).advance P w.next) else none
        skippedMessageKeys := w.skipped.map (entryAt P (g.chain P .first)) }
    sessionId := g.sessionId .second
    associatedData := g.associatedData .second }

def ratchetAt : Side → Nat → Window → Bool → DoubleRatchet B
  | .first => g.initiatorAt P
  | .second => g.responderAt P

/-- The ratchet that a side starts with. -/
def startOf : Side → DoubleRatchet B
  | .first => .init P (g.sessionId .first) g.rootKey g.initiatorKey (g.responderPublic P)
      (g.associatedData .first)
  | .second => .initAsResponder (g.sessionId .second) g.rootKey g.responderKey
      (g.associatedData .second)

theorem startOf_eq (s : Side) : g.startOf P s = g.ratchetAt P s 0 Window.empty false := by
  cases s <;> rfl

variable {P} {g}

theorem shared_eq (hdh : P.DhCommutes) :
    P.diffieHellman g.responderKey (g.initiatorPublic P) = g.shared P :=
  (hdh g.initiatorKey g.responderKey).symm

/-- The header key of the first message brings a side to its receiving chain. -/
theorem dhRatchet_ratchetAt (hdh : P.DhCommutes) (s : Side) {n : Nat}
    (hturn : s = .first ∨ n = 0) :
    (g.ratchetAt P s n Window.empty false).dhRatchet P (g.ratchetPublic P s.peer) =
      .ok () (g.ratchetAt P s n Window.empty true) := by
  have hkey : (g.ratchetAt P s n Window.empty false).NoReceivingKey := by
    cases s <;> rfl
  cases s with
  | first => exact DoubleRatchet.dhRatchet_eq P hkey rfl _
  | second =>
    obtain rfl : n = 0 := hturn.resolve_left (by decide)
    rw [DoubleRatchet.dhRatchet_eq P hkey rfl]
    show EStateM.Result.ok () (DoubleRatchet.ratcheted P _ g.responderKey (g.initiatorPublic P)) = _
    unfold DoubleRatchet.ratcheted
    rw [shared_eq hdh]
    rfl

theorem tracks_ratchetAt (s : Side) (n : Nat) (w : Window) :
    (g.ratchetAt P s n w true).Tracks P (g.chain P s.peer) w := by
  cases s <;> exact ⟨rfl, rfl⟩

theorem withWindow_ratchetAt (s : Side) (n : Nat) (w w' : Window) :
    (g.ratchetAt P s n w true).withWindow P (g.chain P s.peer) w' =
      g.ratchetAt P s n w' true := by
  cases s <;> rfl

variable [Serde (RatchetMessageHeader B)]

/-- A message of the peer that was not taken before opens, and moves the
window. -/
theorem decrypt_ratchetAt (haead : P.AeadRoundTrip) (s : Side) (n : Nat) {taken : List Nat}
    {k : Nat} {text : Bytes} {msg : Bytes × RatchetMessageHeader B}
    (hmsg : g.messageAt P s.peer k text = some msg) (hfresh : k ∉ taken)
    (hbound : ∀ j ∈ taken ++ [k], j + 1 < 2 ^ 64)
    (hlimit : ((Window.empty.deliverAll taken).deliver k).skipped.length ≤ MAX_SKIP_MESSAGES) :
    (g.ratchetAt P s n (Window.empty.deliverAll taken) true).decrypt P msg.1 msg.2 =
      .ok text (g.ratchetAt P s n (Window.empty.deliverAll (taken ++ [k])) true) := by
  obtain ⟨ciphertext, hseal, rfl⟩ := Option.map_eq_some_iff.mp hmsg
  have hk : k + 1 < 2 ^ 64 := hbound k (by simp)
  have hnext : (Window.empty.deliverAll taken).next < 2 ^ 64 :=
    Window.next_lt (by decide) fun j hj => hbound j (List.mem_append_left _ hj)
  have haccounts := Window.accounts_empty.deliverAll taken
  rw [DoubleRatchet.decrypt_tracks (g.chain_index P s.peer) (tracks_ratchetAt s n _) haccounts
    (by simpa using hfresh) (by omega) hnext hlimit rfl ciphertext]
  have hopen : DoubleRatchet.openWith P (messageKeyAt P (g.chain P s.peer) k)
      (g.headerAt P s.peer k) ciphertext = some text := haead _ _ _ _ _ hseal
  rw [hopen, withWindow_ratchetAt, Window.deliverAll_concat]
  rfl

/-- `encrypt` sends the message of the next number, or none when the AEAD
refuses the text. -/
theorem encrypt_ratchetAt (hdh : P.DhCommutes) (s : Side) (n : Nat) (w : Window) {heard : Bool}
    (hturn : s = .first ∨ heard = true) (text : Bytes) :
    ((g.ratchetAt P s n w heard).encrypt P text).state = g.ratchetAt P s (n + 1) w heard ∧
      ((g.ratchetAt P s n w heard).encrypt P text).result.toOption = g.messageAt P s n text := by
  -- on an established chain both parts are read off the equation of `encrypt`
  have hchain : ∀ r : DoubleRatchet B,
      r.sendingChain.chainKey = some ((g.chain P s).advance P n) →
      r.headerFor P (UInt64.ofNat n) = g.headerAt P s n →
      (r.encrypt P text).state = r.sent P ((g.chain P s).advance P n) ∧
        (r.encrypt P text).result.toOption = g.messageAt P s n text := by
    intro r hkey hheader
    rw [DoubleRatchet.encrypt_of_chain P hkey, DoubleRatchet.sealWith,
      advance_index_of_zero P (g.chain_index P s), hheader, messageAt, messageKeyAt]
    cases P.aeadEncrypt _ _ _ text <;> exact ⟨rfl, rfl⟩
  have hsent : ∀ r : DoubleRatchet B,
      r.sent P ((g.chain P s).advance P n) =
        { r with sendingChain :=
          { r.sendingChain with chainKey := some ((g.chain P s).advance P (n + 1)) } } := by
    intro r
    rw [ChainKey.advance_succ]
    rfl
  cases s with
  | first =>
    obtain ⟨hstate, hresult⟩ := hchain (g.initiatorAt P n w heard) rfl rfl
    exact ⟨hstate.trans (hsent _), hresult⟩
  | second =>
    obtain rfl : heard = true := hturn.resolve_left (by decide)
    cases n with
    | zero =>
      show ((g.responderAt P 0 w true).encrypt P text).state = _ ∧
        ((g.responderAt P 0 w true).encrypt P text).result.toOption = _
      rw [DoubleRatchet.encrypt_of_derived P rfl rfl rfl]
      obtain ⟨hstate, hresult⟩ := hchain
        ((g.responderAt P 0 w true).derived P g.responderKey (g.initiatorPublic P))
        (by unfold DoubleRatchet.derived; rw [shared_eq hdh]; rfl) rfl
      refine ⟨?_, hresult⟩
      rw [hstate, hsent]
      unfold DoubleRatchet.derived
      rw [shared_eq hdh]
      rfl
    | succ n =>
      obtain ⟨hstate, hresult⟩ := hchain (g.responderAt P (n + 1) w true) rfl rfl
      exact ⟨hstate.trans (hsent _), hresult⟩

end Pairing

/-! ## Peers on a network -/

/-- A ratchet together with whether it has run `dh_ratchet`. -/
structure Peer (B : Nat → Type) where
  ratchet : DoubleRatchet B
  heard : Bool

section Peers

variable (P : Primitives B) [Serde (RatchetMessageHeader B)]

def Peer.encrypt (p : Peer B) (text : Bytes) :
    Peer B × Option (Bytes × RatchetMessageHeader B) :=
  let out := p.ratchet.encrypt P text
  ({ p with ratchet := out.state }, out.result.toOption)

/-- `dh_ratchet` with the header key before the first `decrypt`, then
`decrypt`. -/
def Peer.receive (p : Peer B) (msg : Bytes × RatchetMessageHeader B) :
    Peer B × Except CryptoError Bytes :=
  if p.heard then
    let out := p.ratchet.decrypt P msg.1 msg.2
    ({ p with ratchet := out.state }, out.result)
  else
    match p.ratchet.dhRatchet P msg.2.dhPublicKey with
    | .error e r => ({ p with ratchet := r }, .error e)
    | .ok _ r =>
      let out := r.decrypt P msg.1 msg.2
      ({ ratchet := out.state, heard := true }, out.result)

/-- The two ratchets of a pairing on a network. -/
def peers (g : Pairing B) :
    Duplex (Peer B) (Bytes × RatchetMessageHeader B) Bytes (Except CryptoError Bytes) where
  start s := { ratchet := g.startOf P s, heard := false }
  send := Peer.encrypt P
  recv := Peer.receive P
  bound := 2 ^ 64
  limit := MAX_SKIP_MESSAGES

variable {P} {g : Pairing B}

/-- A peer with its counts: it has heard once it has taken a message. -/
def Pairing.peerAt (P : Primitives B) (g : Pairing B) (s : Side) (n : Nat) (taken : List Nat) :
    Peer B :=
  { ratchet := g.ratchetAt P s n (Window.empty.deliverAll taken) (!taken.isEmpty)
    heard := !taken.isEmpty }

theorem Pairing.receive_peerAt (hdh : P.DhCommutes) (haead : P.AeadRoundTrip) (s : Side) (n : Nat)
    {taken : List Nat} {k : Nat} {text : Bytes} {msg : Bytes × RatchetMessageHeader B}
    (hturn : s = .first ∨ taken ≠ [] ∨ n = 0) (hmsg : g.messageAt P s.peer k text = some msg)
    (hfresh : k ∉ taken) (hbound : ∀ j ∈ taken ++ [k], j + 1 < 2 ^ 64)
    (hlimit : ((Window.empty.deliverAll taken).deliver k).skipped.length ≤ MAX_SKIP_MESSAGES) :
    (g.peerAt P s n taken).receive P msg = (g.peerAt P s n (taken ++ [k]), .ok text) := by
  have hdecrypt := g.decrypt_ratchetAt haead s n hmsg hfresh hbound hlimit
  cases taken with
  | nil =>
    have hkey : msg.2.dhPublicKey = g.ratchetPublic P s.peer := by
      obtain ⟨ciphertext, -, rfl⟩ := Option.map_eq_some_iff.mp hmsg
      rfl
    have hratchet := g.dhRatchet_ratchetAt hdh s (hturn.imp_right (Or.resolve_left · (by simp)))
    rw [Window.deliverAll_nil] at hdecrypt
    unfold Peer.receive peerAt
    simp only [List.isEmpty_nil, Bool.not_true, Bool.false_eq_true, if_false, hkey,
      Window.deliverAll_nil, hratchet, hdecrypt]
    rfl
  | cons j taken =>
    unfold Peer.receive peerAt
    simp only [List.isEmpty_cons, Bool.not_false, if_true, hdecrypt]
    rfl

/-- The two peers keep to their counts. -/
def peersCounted (hdh : P.DhCommutes) (haead : P.AeadRoundTrip) : (peers P g).Counted where
  state := g.peerAt P
  message := g.messageAt P
  reply _ text := .ok text
  start_eq s := by
    show Peer.mk (g.startOf P s) false = _
    rw [g.startOf_eq P s]
    rfl
  send_eq s n taken text hturn _ := by
    have hheard : s = .first ∨ (!taken.isEmpty) = true :=
      hturn.imp_right fun h => by simpa using h
    obtain ⟨hstate, hresult⟩ :=
      g.encrypt_ratchetAt hdh s n (Window.empty.deliverAll taken) hheard text
    show (Peer.mk _ _, _) = _
    unfold Pairing.peerAt
    rw [hstate, hresult]
  recv_eq s n _ _ _ _ hturn hmsg hfresh hbound hlimit :=
    g.receive_peerAt hdh haead s n hturn hmsg hfresh hbound hlimit

/-- Two ratchets over a network that loses, delays and reorders: every decrypt
returns the text that was encrypted, and once both have run `dh_ratchet` and
the responder has encrypted, both hold the same root key. -/
theorem peers_agree (hdh : P.DhCommutes) (haead : P.AeadRoundTrip)
    (es : List (Duplex.Event Bytes)) (hvalid : (peers P g).Admissible es) :
    (∀ s, ∀ a ∈ ((peers P g).after es s).answers, a.2 = .ok a.1) ∧
      (((peers P g).after es .first).state.heard = true →
        ((peers P g).after es .second).state.heard = true →
        ((peers P g).after es .second).outbox ≠ [] →
        ((peers P g).after es .first).state.ratchet.rootKey =
          ((peers P g).after es .second).state.ratchet.rootKey) := by
  have hfollows := (peersCounted (g := g) hdh haead).follows hvalid
  refine ⟨fun s => (hfollows s).answers, ?_⟩
  set net := (peers P g).after es
  have hfirst : (net .first).state = g.peerAt P .first _ _ := (hfollows .first).state
  have hsecond : (net .second).state = g.peerAt P .second _ _ := (hfollows .second).state
  intro heardFirst heardSecond houtbox
  rw [hfirst] at heardFirst ⊢
  rw [hsecond] at heardSecond ⊢
  have hsent : (net .second).outbox.length ≠ 0 := by simpa using houtbox
  -- both root keys are the second step of the pairing
  have hleft : (g.peerAt P .first (net .first).outbox.length (net .first).taken).ratchet.rootKey =
      g.root₂ P := if_pos heardFirst
  have hright : (g.peerAt P .second (net .second).outbox.length
      (net .second).taken).ratchet.rootKey = g.root₂ P :=
    (if_pos heardSecond).trans (if_neg hsent)
  rw [hleft, hright]

end Peers

/-! ## A run -/

/-- Two ends with fixed keys. -/
def Sym.pairing : Pairing Sym where
  rootKey := ⟨[20]⟩
  initiatorKey := [21]
  responderKey := [22]
  sessionId _ := "presidium-session"
  associatedData _ := []

/-- The second message overtakes the first one, which arrives after the
answer. -/
def overtaking : List (Duplex.Event Bytes) :=
  [.send .first [1], .send .first [2], .deliver .second 1, .send .second [3],
    .deliver .first 0, .deliver .second 0]

theorem peers_agree_overtaking :
    (peers Sym.primitives Sym.pairing).Admissible overtaking ∧
      (∀ s, ∀ a ∈ ((peers Sym.primitives Sym.pairing).after overtaking s).answers,
        a.2 = .ok a.1) ∧
      ((peers Sym.primitives Sym.pairing).after overtaking .first).state.ratchet.rootKey =
        ((peers Sym.primitives Sym.pairing).after overtaking .second).state.ratchet.rootKey := by
  have hvalid : (peers Sym.primitives Sym.pairing).Admissible overtaking := by decide +kernel
  obtain ⟨hanswers, hroot⟩ := peers_agree Sym.dhCommutes Sym.aeadRoundTrip overtaking hvalid
  exact ⟨hvalid, hanswers, hroot (by decide +kernel) (by decide +kernel) (by decide +kernel)⟩

end Presidium
