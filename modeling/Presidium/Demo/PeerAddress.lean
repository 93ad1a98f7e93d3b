import Presidium.Network.Node

/-!
# The peer of a multiaddress

`peer_id_of` of the demo's `main.rs` reads the peer off the address of the
`--peer` option, and `parse_bootstrap_peer` of `discovery.rs` reads it off the
addresses of the configuration.  The former returns the first `/p2p` component
and the latter the last one.  They are the same component in a plain address.
A relayed address names the relay first.
-/

namespace Presidium

open Network

/-- The closure that `peer_id_of` filters with. -/
def Network.Protocol.peerId : Protocol → Option PeerId
  | .p2p id => some id
  | .other _ => none

/-- Extract the peer id from a multiaddr with a `/p2p/` suffix. -/
def peerIdOf (addr : Multiaddr) : Except AppError PeerId :=
  match (addr.filterMap Protocol.peerId).head? with
  | some id => .ok id
  | none => .error (.panic "--peer must carry a /p2p/<peer-id> suffix")

/-- The peer of the first `/p2p` component. -/
def FirstPeer (addr : Multiaddr) (peer : PeerId) : Prop :=
  ∃ before after, addr = before ++ .p2p peer :: after ∧ ∀ other, .p2p other ∉ before

theorem Network.Protocol.peerId_eq_some {component : Protocol} {peer : PeerId} :
    component.peerId = some peer ↔ component = .p2p peer := by
  cases component with
  | p2p id => simp [Protocol.peerId]
  | other text => simp [Protocol.peerId]

theorem Network.Protocol.peerId_eq_none {component : Protocol} :
    component.peerId = none ↔ ∀ peer, component ≠ .p2p peer := by
  cases component with
  | p2p id => simp [Protocol.peerId]
  | other text => simp [Protocol.peerId]

/-- `peer_id_of` returns the first `/p2p` component, wherever it stands. -/
theorem peerIdOf_eq_ok {addr : Multiaddr} {peer : PeerId} :
    peerIdOf addr = .ok peer ↔ FirstPeer addr peer := by
  have hhead : peerIdOf addr = .ok peer ↔ addr.findSome? Protocol.peerId = some peer := by
    unfold peerIdOf
    rw [List.head?_filterMap]
    cases addr.findSome? Protocol.peerId with
    | none => simp
    | some id => simp
  rw [hhead, List.findSome?_eq_some_iff]
  constructor
  · rintro ⟨before, component, after, hsplit, hpeer, hbefore⟩
    rw [Protocol.peerId_eq_some] at hpeer
    refine ⟨before, after, hpeer ▸ hsplit, fun other hmem => ?_⟩
    exact Protocol.peerId_eq_none.mp (hbefore _ hmem) other rfl
  · rintro ⟨before, after, hsplit, hbefore⟩
    refine ⟨before, .p2p peer, after, hsplit, rfl, fun component hmem => ?_⟩
    refine Protocol.peerId_eq_none.mpr fun other hcomponent => ?_
    exact hbefore other (hcomponent ▸ hmem)

theorem FirstPeer.unique {addr : Multiaddr} {peer other : PeerId} (h : FirstPeer addr peer)
    (hother : FirstPeer addr other) : other = peer := by
  have hpeer := peerIdOf_eq_ok.mpr h
  rw [peerIdOf_eq_ok.mpr hother] at hpeer
  exact Except.ok.inj hpeer

theorem FirstPeer.mem {addr : Multiaddr} {peer : PeerId} (h : FirstPeer addr peer) :
    .p2p peer ∈ addr := by
  obtain ⟨before, after, rfl, -⟩ := h
  simp

theorem exists_firstPeer (addr : Multiaddr) :
    (∃ peer, FirstPeer addr peer) ∨ ∀ other, .p2p other ∉ addr := by
  induction addr with
  | nil => exact Or.inr fun other => List.not_mem_nil
  | cons component rest ih =>
    cases component with
    | p2p id => exact Or.inl ⟨id, [], rest, rfl, fun other => List.not_mem_nil⟩
    | other text =>
      rcases ih with ⟨peer, before, after, rfl, hbefore⟩ | hnone
      · refine Or.inl ⟨peer, .other text :: before, after, rfl, fun other => ?_⟩
        simpa using hbefore other
      · exact Or.inr fun other => by simpa using hnone other

/-- The trailing peer is the first one if no peer comes before it. -/
theorem firstPeer_concat (front : Multiaddr) (id peer : PeerId) :
    FirstPeer (front ++ [.p2p id]) peer ↔
      FirstPeer front peer ∨ (∀ other, .p2p other ∉ front) ∧ peer = id := by
  constructor
  · rintro ⟨before, after, hsplit, hbefore⟩
    rcases List.eq_nil_or_concat' after with rfl | ⟨after, last, rfl⟩
    · obtain ⟨rfl, hlast⟩ := List.append_inj' hsplit rfl
      have hpeer : id = peer := by simpa using hlast
      exact Or.inr ⟨hbefore, hpeer.symm⟩
    · rw [← List.cons_append, ← List.append_assoc] at hsplit
      obtain ⟨rfl, -⟩ := List.append_inj' hsplit rfl
      exact Or.inl ⟨before, after, rfl, hbefore⟩
  · rintro (⟨before, after, rfl, hbefore⟩ | ⟨hfront, rfl⟩)
    · exact ⟨before, after ++ [.p2p id], by simp, hbefore⟩
    · exact ⟨front, [], rfl, hfront⟩

/-- `parse_bootstrap_peer` splits a trailing peer id off. -/
theorem parseBootstrapPeer_concat {front : Multiaddr} (hfront : front ≠ []) (id : PeerId) :
    parseBootstrapPeer (front ++ [.p2p id]) = .ok { peer := some id, address := front } := by
  have hpop : popPeer (front ++ [.p2p id]) = (some id, front) := by
    unfold popPeer
    simp only [List.getLast?_concat, List.dropLast_concat]
  have hparts : front.isEmpty = false := by
    cases front with
    | nil => exact absurd rfl hfront
    | cons component rest => rfl
  unfold parseBootstrapPeer
  simp only [hpop, hparts]
  rfl

/-- On an address with a dialable part and a trailing peer id, the two parsers
agree on the trailing id exactly when no other peer comes first. -/
theorem address_parsers_agree_iff {addr : Multiaddr} {id : PeerId}
    (hlast : addr.getLast? = some (.p2p id)) (hfront : addr.dropLast ≠ []) :
    (peerIdOf addr = .ok id ∧
        ∃ parsed, parseBootstrapPeer addr = .ok parsed ∧ parsed.peer = some id ∧
          parsed.address ++ [.p2p id] = addr) ↔
      ∀ other, FirstPeer addr.dropLast other → other = id := by
  have hsplit : addr.dropLast ++ [.p2p id] = addr := List.dropLast_append_getLast? _ hlast
  have hparse := parseBootstrapPeer_concat hfront id
  have hfirst := firstPeer_concat addr.dropLast id id
  rw [hsplit] at hparse hfirst
  rw [peerIdOf_eq_ok, hfirst]
  constructor
  · rintro ⟨hfirst | ⟨hnone, -⟩, -⟩ other hother
    · exact hfirst.unique hother
    · exact absurd hother.mem (hnone other)
  · intro hsame
    refine ⟨?_, _, hparse, rfl, hsplit⟩
    rcases exists_firstPeer addr.dropLast with ⟨peer, hpeer⟩ | hnone
    · exact Or.inl (hsame peer hpeer ▸ hpeer)
    · exact Or.inr ⟨hnone, rfl⟩

/-- The address of the test in `discovery.rs`. -/
def plainAddress : Multiaddr := [.other "/ip4/127.0.0.1", .other "/tcp/4001", .p2p [1]]

theorem address_parsers_agree_plain :
    peerIdOf plainAddress = .ok [1] ∧
      ∃ parsed, parseBootstrapPeer plainAddress = .ok parsed ∧ parsed.peer = some [1] ∧
        parsed.address ++ [.p2p [1]] = plainAddress := by
  have hnone : ∀ other, .p2p other ∉ plainAddress.dropLast := by simp [plainAddress]
  exact (address_parsers_agree_iff rfl (by decide)).mpr
    fun other hother => absurd hother.mem (hnone other)

/-- Peer 2 behind the relay 1. -/
def relayedAddress : Multiaddr :=
  [.other "/ip4/127.0.0.1", .other "/tcp/4001", .p2p [1], .other "/p2p-circuit", .p2p [2]]

/-- `peer_id_of` takes the relay for the peer. -/
theorem address_parsers_disagree_relayed :
    relayedAddress.getLast? = some (.p2p [2]) ∧ relayedAddress.dropLast ≠ [] ∧
      peerIdOf relayedAddress = .ok [1] ∧
      parseBootstrapPeer relayedAddress =
        .ok { peer := some [2], address := relayedAddress.dropLast } := by
  refine ⟨rfl, ?_, rfl, rfl⟩
  decide

end Presidium
