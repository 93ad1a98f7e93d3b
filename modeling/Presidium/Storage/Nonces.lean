import Presidium.Crypto.SendingChain
import Presidium.Crypto.Symbolic
import Presidium.Storage.SessionState

/-!
# Nonces over the life of a ratchet

A ratchet lives longer than the process: between two calls it may be written
to a snapshot and built again from it.  `RatchetUse` is a call or such a
rebuild, and `life` is the machine of both.

`OneChain` says that a life stays on one sending chain and seals every message
on it, and that the message numbers go up as long as the `u64` counter does
not wrap.

* `oneChain_of_some` follows a ratchet that has a sending chain.  Each
  `encrypt` moves it by one position.
* `oneChain_of_none` follows a ratchet that has none yet.  The first `encrypt`
  that gets as far as the AEAD derives the chain, and from there on the life is
  one of the first kind.
* `nonces_never_reused` puts them together for both constructors.
-/

namespace Presidium

variable {B : Nat → Type}

/-- A call of a ratchet method, or the state saved and built again, under the
labels that the caller gives. -/
inductive RatchetUse (B : Nat → Type) where
  | call (op : RatchetOp B)
  | rebuild (sessionId : String) (associatedData : Bytes)

/-- How many of the uses are calls of `encrypt`. -/
def encryptions (uses : List (RatchetUse B)) : Nat :=
  uses.countP fun
    | .call (.encrypt _) => true
    | _ => false

namespace DoubleRatchet

section Definitions

variable (P : Primitives B) [Serde (RatchetMessageHeader B)]

/-- The ratchet after a use.  A snapshot that is refused leaves the ratchet in
memory as it is. -/
def use (r : DoubleRatchet B) : RatchetUse B → DoubleRatchet B
  | .call op => r.apply P op
  | .rebuild sessionId associatedData =>
    match (RatchetSnapshot.fromRatchet r).toRatchet sessionId associatedData with
    | .ok rebuilt => rebuilt
    | .error _ => r

/-- A ratchet over its whole life; every use may occur. -/
def life : Machine (DoubleRatchet B) (RatchetUse B) where
  step := use P
  Enabled _ _ := True

/-- The message that a use seals. -/
def sealsIn (r : DoubleRatchet B) : RatchetUse B → List (SealedMessage B)
  | .call op => seals P r op
  | .rebuild _ _ => []

/-- The messages of a life, in order. -/
def sealedOver (r : DoubleRatchet B) (uses : List (RatchetUse B)) : List (SealedMessage B) :=
  (life P).trace (sealsIn P) r uses

/-- The sending chain, if there is one, is a later position of `c`. -/
def OnChain (c : ChainKey B) (r : DoubleRatchet B) : Prop :=
  ∀ c', r.sendingChain.chainKey = some c' → ∃ n, c' = c.advance P n

/-- So it is in every state of the life. -/
def StaysOnChain (c : ChainKey B) (r : DoubleRatchet B) (uses : List (RatchetUse B)) : Prop :=
  ∀ done rest, uses = done ++ rest → OnChain P c ((life P).run r done)

end Definitions

variable {P : Primitives B} [Serde (RatchetMessageHeader B)]

/-! ## One use -/

/-- The rebuilt ratchet is the old one under new labels. -/
theorem use_rebuild (r : DoubleRatchet B) (sessionId : String) (associatedData : Bytes) :
    r.use P (.rebuild sessionId associatedData) = { r with sessionId, associatedData } := by
  unfold use
  simp only [RatchetSnapshot.toRatchet_fromRatchet]

theorem Keyed.use {r : DoubleRatchet B} (h : r.Keyed) (u : RatchetUse B) : (r.use P u).Keyed := by
  cases u with
  | call op => exact h.apply op
  | rebuild sessionId associatedData =>
    rw [use_rebuild]
    exact ⟨h.noReceivingKey, h.sendingKey⟩

theorem keyed_life {r : DoubleRatchet B} (h : r.Keyed) (uses : List (RatchetUse B)) :
    ((life P).run r uses).Keyed := by
  induction uses generalizing r with
  | nil => exact h
  | cons u uses ih => exact ih (h.use u)

/-- What `apply_sending` says of a call, for a use. -/
theorem use_sending {r : DoubleRatchet B} (hr : r.Keyed) (u : RatchetUse B) :
    (sealsIn P r u = [] ∧ (r.use P u).sendingChain.chainKey = r.sendingChain.chainKey) ∨
      ∃ c, encryptions [u] = 1 ∧ r.nextChain P = some c ∧
        (r.use P u).sendingChain.chainKey = some (c.next P) ∧
        ∀ m ∈ sealsIn P r u, SealedFrom P r c m := by
  cases u with
  | rebuild sessionId associatedData =>
    left
    rw [use_rebuild]
    exact ⟨rfl, rfl⟩
  | call op =>
    rcases apply_sending (P := P) hr op with hquiet | ⟨plaintext, c, rfl, hnext, hafter, hsealed⟩
    · exact Or.inl hquiet
    · exact Or.inr ⟨c, rfl, hnext, hafter, hsealed⟩

omit [Serde (RatchetMessageHeader B)] in
theorem encryptions_cons (u : RatchetUse B) (uses : List (RatchetUse B)) :
    encryptions (u :: uses) = encryptions [u] + encryptions uses := by
  unfold encryptions
  rw [← List.singleton_append, List.countP_append]

theorem sealedOver_cons (r : DoubleRatchet B) (u : RatchetUse B) (uses : List (RatchetUse B)) :
    sealedOver P r (u :: uses) = sealsIn P r u ++ sealedOver P (r.use P u) uses := rfl

theorem sealsIn_pairwise (R : SealedMessage B → SealedMessage B → Prop) (r : DoubleRatchet B)
    (u : RatchetUse B) : (sealsIn P r u).Pairwise R := by
  have hshort : (sealsIn P r u).length ≤ 1 := by
    cases u with
    | call op => exact seals_length_le r op
    | rebuild sessionId associatedData => exact Nat.zero_le 1
  match hlist : sealsIn P r u with
  | [] => exact List.Pairwise.nil
  | [m] => exact List.pairwise_singleton R m
  | m :: m' :: rest =>
    rw [hlist, List.length_cons, List.length_cons] at hshort
    omega

/-! ## Messages of one chain -/

/-- Messages sealed at going-up positions of the chain `c`, from `n` on. -/
structure Ascending (P : Primitives B) [Serde (RatchetMessageHeader B)] (c : ChainKey B) (n : Nat)
    (messages : List (SealedMessage B)) : Prop where
  increasing : messages.Pairwise fun m m' => m.number < m'.number
  above : ∀ m ∈ messages, n ≤ m.number
  under : ∀ m ∈ messages, m.Under P c

theorem Ascending.nil (c : ChainKey B) (n : Nat) : Ascending P c n [] :=
  ⟨List.Pairwise.nil, by simp, by simp⟩

/-- Where a message sealed at position `n` belongs. -/
theorem SealedFrom.place {r : DoubleRatchet B} {c : ChainKey B} (hzero : c.index = 0) {n : Nat}
    (hn : n < 2 ^ 64) {m : SealedMessage B} (h : SealedFrom P r (c.advance P n) m) :
    m.number = n ∧ m.Under P c := by
  have hnumber : m.number = n := by
    have hindex := c.advance_index_toNat P n (by rw [hzero]; simpa using hn)
    unfold SealedMessage.number
    rw [h.number, hindex, hzero]
    simp
  refine ⟨hnumber, ?_⟩
  unfold SealedMessage.Under
  rw [hnumber]
  exact h.ciphertext

/-- A use that seals at position `n`, before messages from `n + 1` on. -/
theorem Ascending.append {r : DoubleRatchet B} {u : RatchetUse B} {c : ChainKey B}
    (hzero : c.index = 0) {n : Nat} (hn : n < 2 ^ 64)
    (hnow : ∀ m ∈ sealsIn P r u, SealedFrom P r (c.advance P n) m)
    {later : List (SealedMessage B)} (hlater : Ascending P c (n + 1) later) :
    Ascending P c n (sealsIn P r u ++ later) := by
  have hplace : ∀ m ∈ sealsIn P r u, m.number = n ∧ m.Under P c :=
    fun m hm => (hnow m hm).place hzero hn
  refine ⟨?_, ?_, ?_⟩
  · rw [List.pairwise_append]
    refine ⟨sealsIn_pairwise _ r u, hlater.increasing, ?_⟩
    intro m hm m' hm'
    have hfirst := (hplace m hm).1
    have hsecond := hlater.above m' hm'
    omega
  · intro m hm
    rcases List.mem_append.mp hm with hm | hm
    · exact (hplace m hm).1.ge
    · have habove := hlater.above m hm
      omega
  · intro m hm
    rcases List.mem_append.mp hm with hm | hm
    · exact (hplace m hm).2
    · exact hlater.under m hm

/-! ## Whole lives -/

/-- The life stays on the chain `c`, from its position `n` on. -/
structure OneChain (P : Primitives B) [Serde (RatchetMessageHeader B)] (c : ChainKey B) (n : Nat)
    (r : DoubleRatchet B) (uses : List (RatchetUse B)) : Prop where
  stays : StaysOnChain P c r uses
  on : ∀ m ∈ sealedOver P r uses, m.On P c
  ascending : n + encryptions uses ≤ 2 ^ 64 → Ascending P c n (sealedOver P r uses)

omit [Serde (RatchetMessageHeader B)] in
theorem OnChain.of_none {c : ChainKey B} {r : DoubleRatchet B}
    (h : r.sendingChain.chainKey = none) : OnChain P c r := by
  intro c' hc'
  rw [h] at hc'
  cases hc'

omit [Serde (RatchetMessageHeader B)] in
theorem OnChain.of_some {c : ChainKey B} {r : DoubleRatchet B} {n : Nat}
    (h : r.sendingChain.chainKey = some (c.advance P n)) : OnChain P c r :=
  fun _ hc' => ⟨n, Option.some.inj (hc'.symm.trans h)⟩

theorem StaysOnChain.cons {c : ChainKey B} {r : DoubleRatchet B} {u : RatchetUse B}
    {uses : List (RatchetUse B)} (h : OnChain P c r) (hrest : StaysOnChain P c (r.use P u) uses) :
    StaysOnChain P c r (u :: uses) := by
  intro done rest hsplit
  cases done with
  | nil => exact h
  | cons v done =>
    obtain ⟨rfl, htail⟩ := List.cons.inj hsplit
    exact hrest done rest htail

theorem OneChain.nil {c : ChainKey B} {r : DoubleRatchet B} (n : Nat) (h : OnChain P c r) :
    OneChain P c n r [] := by
  refine ⟨?_, ?_, fun _ => .nil c n⟩
  · intro done rest hsplit
    obtain ⟨rfl, -⟩ := List.append_eq_nil_iff.mp hsplit.symm
    exact h
  · intro m hm
    exact absurd hm List.not_mem_nil

/-- A use that seals nothing. -/
theorem OneChain.quiet {c : ChainKey B} {n : Nat} {r : DoubleRatchet B} {u : RatchetUse B}
    {uses : List (RatchetUse B)} (h : OnChain P c r) (hquiet : sealsIn P r u = [])
    (hrest : OneChain P c n (r.use P u) uses) : OneChain P c n r (u :: uses) := by
  have hsealed : sealedOver P r (u :: uses) = sealedOver P (r.use P u) uses := by
    rw [sealedOver_cons, hquiet, List.nil_append]
  refine ⟨hrest.stays.cons h, ?_, ?_⟩
  · rw [hsealed]
    exact hrest.on
  · intro hfew
    rw [encryptions_cons] at hfew
    rw [hsealed]
    exact hrest.ascending (by omega)

/-- A use that seals at position `n`. -/
theorem OneChain.seal {c : ChainKey B} (hzero : c.index = 0) {n : Nat} {r : DoubleRatchet B}
    {u : RatchetUse B} {uses : List (RatchetUse B)} (h : OnChain P c r)
    (hone : encryptions [u] = 1)
    (hnow : ∀ m ∈ sealsIn P r u, SealedFrom P r (c.advance P n) m)
    (hrest : OneChain P c (n + 1) (r.use P u) uses) : OneChain P c n r (u :: uses) := by
  refine ⟨hrest.stays.cons h, ?_, ?_⟩
  · intro m hm
    rcases List.mem_append.mp hm with hm | hm
    · exact ⟨n, (hnow m hm).ciphertext⟩
    · exact hrest.on m hm
  · intro hfew
    rw [encryptions_cons, hone] at hfew
    exact (hrest.ascending (by omega)).append hzero (by omega) hnow

/-- From position `n` of a chain on, a life is on that chain. -/
theorem oneChain_of_some {c : ChainKey B} (hzero : c.index = 0) (uses : List (RatchetUse B)) :
    ∀ {r : DoubleRatchet B} {n : Nat}, r.Keyed →
      r.sendingChain.chainKey = some (c.advance P n) → OneChain P c n r uses := by
  induction uses with
  | nil =>
    intro r n _ hchain
    exact .nil n (.of_some hchain)
  | cons u uses ih =>
    intro r n hr hchain
    rcases use_sending (P := P) hr u with ⟨hquiet, hsame⟩ | ⟨c', hone, hnext, hafter, hsealed⟩
    · exact (ih (hr.use u) (hsame.trans hchain)).quiet (.of_some hchain) hquiet
    · obtain rfl := Option.some.inj ((nextChain_of_chain hchain).symm.trans hnext)
      rw [← ChainKey.advance_succ] at hafter
      exact (ih (hr.use u) hafter).seal hzero (.of_some hchain) hone hsealed

/-- A life that starts without a sending chain never gets one, or derives one
and then is on it.  The chain is the one that `encrypt` makes at that moment. -/
theorem oneChain_of_none (uses : List (RatchetUse B)) :
    ∀ {r : DoubleRatchet B}, r.Keyed → r.sendingChain.chainKey = none →
      (sealedOver P r uses = [] ∧ ∀ c, OneChain P c 0 r uses) ∨
        ∃ before after c, uses = before ++ after ∧
          ((life P).run r before).sendingChain.chainKey = none ∧
          ((life P).run r before).nextChain P = some c ∧ c.index = 0 ∧
          OneChain P c 0 r uses := by
  induction uses with
  | nil =>
    intro r _ hnone
    exact Or.inl ⟨rfl, fun _ => .nil 0 (.of_none hnone)⟩
  | cons u uses ih =>
    intro r hr hnone
    rcases use_sending (P := P) hr u with ⟨hquiet, hsame⟩ | ⟨c, hone, hnext, hafter, hsealed⟩
    · rcases ih (hr.use u) (hsame.trans hnone) with
        ⟨hnever, hchain⟩ | ⟨before, after, c, rfl, hstill, hderived, hzero, hchain⟩
      · refine Or.inl ⟨?_, fun c => (hchain c).quiet (.of_none hnone) hquiet⟩
        rw [sealedOver_cons, hquiet, hnever, List.nil_append]
      · exact Or.inr ⟨u :: before, after, c, rfl, hstill, hderived, hzero,
          hchain.quiet (.of_none hnone) hquiet⟩
    · -- this use derives the chain, and the rest of the life is on it
      right
      obtain ⟨hzero, -⟩ := nextChain_of_none hnone hnext
      have hafter : (r.use P u).sendingChain.chainKey = some (c.advance P 1) := hafter
      have hrest := oneChain_of_some hzero uses (hr.use u) hafter
      exact ⟨[], u :: uses, c, rfl, hnone, hnext, hzero,
        hrest.seal hzero (.of_none hnone) hone hsealed⟩

/-- Both constructors: one chain for the whole life. -/
theorem Starts.oneChain {start : DoubleRatchet B} (hstart : Starts P start)
    (uses : List (RatchetUse B)) : ∃ c, c.index = 0 ∧ OneChain P c 0 start uses := by
  have hkeyed := hstart.keyed
  cases hstart with
  | initiator sessionId rootKey ourRatchetKey peerRatchetPublic associatedData =>
    exact ⟨(rootKey.ratchetStep P (P.diffieHellman ourRatchetKey peerRatchetPublic)).2, rfl,
      oneChain_of_some rfl uses hkeyed rfl⟩
  | responder sessionId rootKey ourRatchetKey associatedData =>
    rcases oneChain_of_none (P := P) uses hkeyed rfl with
      ⟨-, hchain⟩ | ⟨before, after, c, -, -, -, hzero, hchain⟩
    · exact ⟨⟨P.zeros CHAIN_KEY_SIZE, 0⟩, rfl, hchain _⟩
    · exact ⟨c, hzero, hchain⟩

end DoubleRatchet

open DoubleRatchet

/-- Over the whole life of a ratchet, with any calls and any rebuilds, the
message numbers go up, all messages are sealed on one sending chain, each at
the position of its number, and no nonce comes twice. -/
theorem nonces_never_reused {P : Primitives B} [Serde (RatchetMessageHeader B)]
    {start : DoubleRatchet B} (hstart : Starts P start) (uses : List (RatchetUse B))
    (hfew : encryptions uses < 2 ^ 64) :
    (sealedOver P start uses).Pairwise
        (fun m m' => m.header.messageNumber < m'.header.messageNumber) ∧
      (∃ c, c.index = 0 ∧ StaysOnChain P c start uses ∧
        ∀ m ∈ sealedOver P start uses, m.Under P c) ∧
      ((sealedOver P start uses).map fun m => nonceOf m.header.messageNumber).Nodup := by
  obtain ⟨c, hzero, hchain⟩ := hstart.oneChain uses
  have hsealed := hchain.ascending (by omega)
  have hincreasing : (sealedOver P start uses).Pairwise
      (fun m m' => m.header.messageNumber < m'.header.messageNumber) :=
    hsealed.increasing.imp fun h => UInt64.lt_iff_toNat_lt.mpr h
  refine ⟨hincreasing, ⟨c, hzero, hchain.stays, hsealed.under⟩, ?_⟩
  rw [List.Nodup, List.pairwise_map]
  refine hincreasing.imp ?_
  intro m m' hlt hnonce
  rw [nonceOf_inj hnonce] at hlt
  exact UInt64.lt_irrefl _ hlt

namespace Sym

/-- An initiator with the key `21` toward the peer key of `22`. -/
def talker : DoubleRatchet Sym :=
  .init primitives "presidium-session" ⟨[20]⟩ [21] (primitives.x25519Public [22]) []

/-- Two messages, with a restart and a new peer key in between. -/
def interruptedLife : List (RatchetUse Sym) :=
  [.call (.encrypt [1]), .rebuild "presidium-session" [],
    .call (.dhRatchet (primitives.x25519Public [23])), .call (.encrypt [2])]

end Sym

/-- Both messages are there, under different nonces. -/
theorem nonces_interrupted :
    (sealedOver Sym.primitives Sym.talker Sym.interruptedLife).map (·.number) = [0, 1] ∧
      ((sealedOver Sym.primitives Sym.talker Sym.interruptedLife).map
        fun m => nonceOf m.header.messageNumber).Nodup := by
  refine ⟨by decide +kernel, ?_⟩
  exact (nonces_never_reused (.initiator _ _ _ _ _) Sym.interruptedLife (by decide)).2.2

end Presidium
