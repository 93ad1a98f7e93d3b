import Presidium.Crypto.Secrecy
import Presidium.Storage.Nonces

/-!
# What a DH ratchet step renews

The head of `ratchet.rs` promises post-compromise security: after a
`dh_ratchet` call with a new peer key, a party sends under a new key pair and
on a chain of the new root key, so what has leaked before is of no use any
more.  `Renewed` states that of one call, with the life before it and after it.

* `dhPublicKey_sealedOver`: the headers of a whole life carry one and the same
  ratchet key.  The module has no place that draws a new pair.
* A sending chain that exists stays for good (`oneChain_of_some`), and whoever
  has one of its chain keys has all the message keys after it.
* Without a sending chain, the first `encrypt` after the call opens one from
  the root key of the call (`sendingChain_opened`), and to someone without the
  root key what is made from it is out of reach (`MadeFrom.not_derivable`).

So a call renews the sending side only of a party that has no sending chain
yet, which is a responder before its first message.
-/

namespace Presidium

variable {B : Nat → Type}

/-- Ratcheting with some peer keys and then with some more. -/
theorem RootKey.after_append (P : Primitives B) (root : RootKey B)
    (ourKey : B X25519_PRIVATE_KEY_SIZE) (later earlier : List (B X25519_PUBLIC_KEY_SIZE)) :
    root.after P ourKey (later ++ earlier) = (root.after P ourKey earlier).after P ourKey later := by
  induction later with
  | nil => rfl
  | cons peer later ih =>
    show ((root.after P ourKey (later ++ earlier)).ratchetStep P _).1 = _
    rw [ih]
    rfl

namespace DoubleRatchet

section Definitions

variable (P : Primitives B) [Serde (RatchetMessageHeader B)]

/-- The peer keys that a use hands in. -/
def peerKeyOf : RatchetUse B → List (B X25519_PUBLIC_KEY_SIZE)
  | .call (.dhRatchet peerRatchetPublic) => [peerRatchetPublic]
  | _ => []

/-- The peer keys that a ratchet was given: by its constructor and by the
`dh_ratchet` calls of its life. -/
def peerKeys (start : DoubleRatchet B) (uses : List (RatchetUse B)) :
    List (B X25519_PUBLIC_KEY_SIZE) :=
  start.sendingChain.theirRatchetPublic.toList ++ uses.flatMap peerKeyOf

/-- The peer keys that some uses hand in, the latest first. -/
def handedIn (uses : List (RatchetUse B)) : List (B X25519_PUBLIC_KEY_SIZE) :=
  (uses.flatMap peerKeyOf).reverse

/-- The ratchet secret and the chain keys of a ratchet. -/
def secrets (r : DoubleRatchet B) : List (Blob B) :=
  r.sendingChain.ourRatchetKey.toList.map (⟨_, ·⟩) ++
    r.sendingChain.chainKey.toList.map (fun c => ⟨_, c.key⟩) ++
    r.receivingChain.chainKey.toList.map (fun c => ⟨_, c.key⟩)

/-- The ratchet after the life `before` and a `dh_ratchet` call. -/
def ratchetedAfter (start : DoubleRatchet B) (before : List (RatchetUse B))
    (peerRatchetPublic : B X25519_PUBLIC_KEY_SIZE) : DoubleRatchet B :=
  (life P).run start (before ++ [.call (.dhRatchet peerRatchetPublic)])

/-- The `dh_ratchet` call between two parts of a life has renewed the sending
side: the later headers carry another ratchet key, the later messages are
sealed on a chain that comes from the root key of the call, and nobody opens
them with the secrets of before and whatever else was seen. -/
structure Renewed (seen : List (Blob B)) (start : DoubleRatchet B) (before : List (RatchetUse B))
    (peerRatchetPublic : B X25519_PUBLIC_KEY_SIZE) (after : List (RatchetUse B)) : Prop where
  key : ∀ m ∈ sealedOver P start before,
    ∀ m' ∈ sealedOver P (ratchetedAfter P start before peerRatchetPublic) after,
      m'.header.dhPublicKey ≠ m.header.dhPublicKey
  /-- The chain is opened with the peer key of the call, or with the last one
  that was handed in between the call and the first `encrypt`. -/
  chain : ∃ done rest ourKey, after = done ++ rest ∧
    ((life P).run start before).sendingChain.ourRatchetKey = some ourKey ∧
    ∀ m' ∈ sealedOver P (ratchetedAfter P start before peerRatchetPublic) after,
      m'.On P ((((life P).run start before).rootKey.ratchetStep P
        (P.diffieHellman ourKey peerRatchetPublic)).1.opened P ourKey (handedIn done)
          ((handedIn done).headD peerRatchetPublic))
  healed : ∀ m' ∈ sealedOver P (ratchetedAfter P start before peerRatchetPublic) after,
    ∀ key, P.aeadEncrypt key (nonceOf m'.header.messageNumber) (Serde.toVec m'.header)
        m'.plaintext = some m'.ciphertext →
      ¬ Derivable P (((life P).run start before).secrets ++ seen) key

end Definitions

variable {P : Primitives B} [Serde (RatchetMessageHeader B)]

/-! ## The ratchet key of a life -/

theorem use_ourRatchetKey {r : DoubleRatchet B} (hr : r.Keyed) (u : RatchetUse B) :
    (r.use P u).sendingChain.ourRatchetKey = r.sendingChain.ourRatchetKey := by
  cases u with
  | call op => exact apply_ourRatchetKey hr op
  | rebuild sessionId associatedData => rw [use_rebuild]

theorem run_ourRatchetKey (uses : List (RatchetUse B)) :
    ∀ {r : DoubleRatchet B}, r.Keyed →
      ((life P).run r uses).sendingChain.ourRatchetKey = r.sendingChain.ourRatchetKey := by
  induction uses with
  | nil => exact fun _ => rfl
  | cons u uses ih => exact fun hr => (ih (hr.use u)).trans (use_ourRatchetKey hr u)

/-- Every message of a life names the ratchet key that its ratchet started
with. -/
theorem dhPublicKey_sealedOver (uses : List (RatchetUse B)) :
    ∀ {r : DoubleRatchet B}, r.Keyed → ∀ m ∈ sealedOver P r uses,
      m.header.dhPublicKey = (r.headerFor P 0).dhPublicKey := by
  induction uses with
  | nil =>
    intro r _ m hm
    exact absurd hm List.not_mem_nil
  | cons u uses ih =>
    intro r hr m hm
    rw [sealedOver_cons] at hm
    rcases List.mem_append.mp hm with hnow | hlater
    · rcases use_sending (P := P) hr u with ⟨hquiet, -⟩ | ⟨c, -, -, -, hsealed⟩
      · rw [hquiet] at hnow
        exact absurd hnow List.not_mem_nil
      · exact (hsealed m hnow).ratchetKey
    · rw [ih (hr.use u) m hlater]
      unfold headerFor
      rw [use_ourRatchetKey hr u]

/-- With a message before the call and one after it, the key was not renewed. -/
theorem not_renewed {seen : List (Blob B)} {start : DoubleRatchet B} (hstart : start.Keyed)
    {before after : List (RatchetUse B)} {peerRatchetPublic : B X25519_PUBLIC_KEY_SIZE}
    (hbefore : 0 < (sealedOver P start before).length)
    (hafter : 0 < (sealedOver P (ratchetedAfter P start before peerRatchetPublic) after).length) :
    ¬ Renewed P seen start before peerRatchetPublic after := by
  intro hrenewed
  obtain ⟨m, hm⟩ := List.exists_mem_of_length_pos hbefore
  obtain ⟨m', hm'⟩ := List.exists_mem_of_length_pos hafter
  -- both are messages of the whole life
  have hwhole : m' ∈ sealedOver P start
      ((before ++ [.call (.dhRatchet peerRatchetPublic)]) ++ after) := by
    unfold sealedOver
    rw [Machine.trace_append]
    exact List.mem_append_right _ hm'
  apply hrenewed.key m hm m' hm'
  rw [dhPublicKey_sealedOver _ hstart m hm, dhPublicKey_sealedOver _ hstart m' hwhole]

/-! ## Before there is a sending chain -/

/-- A life that ends without a sending chain has sealed nothing. -/
theorem sealedOver_eq_nil (uses : List (RatchetUse B)) :
    ∀ {r : DoubleRatchet B}, r.Keyed →
      ((life P).run r uses).sendingChain.chainKey = none →
      r.sendingChain.chainKey = none ∧ sealedOver P r uses = [] := by
  induction uses with
  | nil =>
    intro r _ hnone
    exact ⟨hnone, rfl⟩
  | cons u uses ih =>
    intro r hr hnone
    obtain ⟨hnext, hlater⟩ := ih (hr.use u) hnone
    rcases use_sending (P := P) hr u with ⟨hquiet, hsame⟩ | ⟨c, -, -, hafter, -⟩
    · rw [sealedOver_cons, hquiet, hlater]
      exact ⟨hsame.symm.trans hnext, rfl⟩
    · rw [hafter] at hnext
      cases hnext

/-- A use that leaves no sending chain steps the root key with the peer key
that it hands in, and with nothing else. -/
theorem use_still {r : DoubleRatchet B} (hr : r.Keyed) {ourKey : B X25519_PRIVATE_KEY_SIZE}
    (hour : r.sendingChain.ourRatchetKey = some ourKey) {u : RatchetUse B}
    (hnone : (r.use P u).sendingChain.chainKey = none) :
    (r.use P u).rootKey = r.rootKey.after P ourKey (handedIn [u]) ∧
      (r.use P u).sendingChain.theirRatchetPublic =
        (handedIn [u]).head?.or r.sendingChain.theirRatchetPublic := by
  cases u with
  | rebuild sessionId associatedData =>
    rw [use_rebuild]
    exact ⟨rfl, rfl⟩
  | call op =>
    cases op with
    | encrypt plaintext =>
      have hchain := encrypt_chainKey (P := P) r plaintext
      cases hnext : r.nextChain P with
      | none =>
        have hstate : r.use P (.call (.encrypt plaintext)) = r := encrypt_state_of_none hnext plaintext
        rw [hstate]
        exact ⟨rfl, rfl⟩
      | some c =>
        rw [hnext] at hchain
        have hnone : (r.encrypt P plaintext).state.sendingChain.chainKey = none := hnone
        rw [hnone] at hchain
        cases hchain
    | decrypt ciphertext header =>
      show (r.decrypt P ciphertext header).state.rootKey = _ ∧
        (r.decrypt P ciphertext header).state.sendingChain.theirRatchetPublic = _
      rcases decrypt_state (P := P) r ciphertext header with hsame | ⟨chain, skipped, hmoved⟩
      · rw [hsame]
        exact ⟨rfl, rfl⟩
      · rw [hmoved]
        exact ⟨rfl, rfl⟩
    | dhRatchet peerRatchetPublic =>
      have hstate : r.use P (.call (.dhRatchet peerRatchetPublic)) =
          r.ratcheted P ourKey peerRatchetPublic :=
        congrArg Outcome.state (dhRatchet_eq P hr.noReceivingKey hour peerRatchetPublic)
      rw [hstate]
      exact ⟨rfl, rfl⟩

omit [Serde (RatchetMessageHeader B)] in
theorem handedIn_cons (u : RatchetUse B) (uses : List (RatchetUse B)) :
    handedIn (u :: uses) = handedIn uses ++ handedIn [u] := by
  simp [handedIn]

theorem run_still (uses : List (RatchetUse B)) :
    ∀ {r : DoubleRatchet B} {ourKey : B X25519_PRIVATE_KEY_SIZE}, r.Keyed →
      r.sendingChain.ourRatchetKey = some ourKey →
      ((life P).run r uses).sendingChain.chainKey = none →
      ((life P).run r uses).rootKey = r.rootKey.after P ourKey (handedIn uses) ∧
        ((life P).run r uses).sendingChain.theirRatchetPublic =
          (handedIn uses).head?.or r.sendingChain.theirRatchetPublic := by
  induction uses with
  | nil =>
    intro r ourKey _ _ _
    exact ⟨rfl, rfl⟩
  | cons u uses ih =>
    intro r ourKey hr hour hnone
    obtain ⟨hfirst, -⟩ := sealedOver_eq_nil uses (hr.use u) hnone
    obtain ⟨hroot, htheir⟩ := use_still hr hour hfirst
    obtain ⟨hroots, htheirs⟩ := ih (hr.use u) ((use_ourRatchetKey hr u).trans hour) hnone
    rw [handedIn_cons, RootKey.after_append, List.head?_append, Option.or_assoc]
    rw [hroot] at hroots
    rw [htheir] at htheirs
    exact ⟨hroots, htheirs⟩

/-- The chain that the first `encrypt` opens, after some uses of a ratchet that
knows a peer key. -/
theorem sendingChain_opened {r : DoubleRatchet B} (hr : r.Keyed)
    {ourKey : B X25519_PRIVATE_KEY_SIZE} (hour : r.sendingChain.ourRatchetKey = some ourKey)
    {peer : B X25519_PUBLIC_KEY_SIZE} (hpeer : r.sendingChain.theirRatchetPublic = some peer)
    {uses : List (RatchetUse B)} (hnone : ((life P).run r uses).sendingChain.chainKey = none)
    {c : ChainKey B} (hnext : ((life P).run r uses).nextChain P = some c) :
    c = r.rootKey.opened P ourKey (handedIn uses) ((handedIn uses).headD peer) := by
  obtain ⟨-, our, their, hour', htheir, rfl⟩ := nextChain_of_none hnone hnext
  obtain ⟨hroot, hpeers⟩ := run_still uses hr hour hnone
  rw [run_ourRatchetKey uses hr, hour] at hour'
  obtain rfl := Option.some.inj hour'
  rw [hpeers, hpeer] at htheir
  have hhead : their = (handedIn uses).headD peer := by
    rw [List.headD_eq_head?_getD]
    cases hlist : (handedIn uses).head? with
    | none => simpa [hlist] using htheir.symm
    | some last => simpa [hlist] using htheir.symm
  rw [hroot, hhead]
  rfl

/-- With a sending chain, every later message is sealed on what is left of it. -/
theorem on_of_chain (uses : List (RatchetUse B)) :
    ∀ {r : DoubleRatchet B} {c : ChainKey B}, r.Keyed → r.sendingChain.chainKey = some c →
      ∀ m ∈ sealedOver P r uses, m.On P c := by
  induction uses with
  | nil =>
    intro r c _ _ m hm
    exact absurd hm List.not_mem_nil
  | cons u uses ih =>
    intro r c hr hchain m hm
    rw [sealedOver_cons] at hm
    rcases use_sending (P := P) hr u with ⟨hquiet, hsame⟩ | ⟨c', -, hnext, hafter, hsealed⟩
    · rw [hquiet] at hm
      exact ih (hr.use u) (hsame.trans hchain) m hm
    · obtain rfl := Option.some.inj ((nextChain_of_chain hchain).symm.trans hnext)
      rcases List.mem_append.mp hm with hnow | hlater
      · exact ⟨0, (hsealed m hnow).ciphertext⟩
      · obtain ⟨n, hkey⟩ := ih (hr.use u) hafter m hlater
        refine ⟨1 + n, ?_⟩
        rw [← messageKeyAt_advance]
        exact hkey

/-! ## The call -/

/-- Where a ratchet without a sending chain seals: on the chain that its root key
gives with the peer keys handed in before the first `encrypt`. -/
theorem sealed_on_root {r : DoubleRatchet B} (hr : r.Keyed)
    (hnone : r.sendingChain.chainKey = none) {ourKey : B X25519_PRIVATE_KEY_SIZE}
    (hour : r.sendingChain.ourRatchetKey = some ourKey) {peer : B X25519_PUBLIC_KEY_SIZE}
    (hpeer : r.sendingChain.theirRatchetPublic = some peer) (uses : List (RatchetUse B)) :
    ∃ done rest, uses = done ++ rest ∧
      ∀ m ∈ sealedOver P r uses,
        m.On P (r.rootKey.opened P ourKey (handedIn done) ((handedIn done).headD peer)) := by
  rcases oneChain_of_none uses hr hnone with
    ⟨hnever, -⟩ | ⟨done, rest, c, hsplit, hbefore, hnext, -, hchain⟩
  · refine ⟨[], uses, rfl, fun m hm => ?_⟩
    rw [hnever] at hm
    exact absurd hm List.not_mem_nil
  · refine ⟨done, rest, hsplit, fun m hm => ?_⟩
    rw [← sendingChain_opened hr hour hpeer hbefore hnext]
    exact hchain.on m hm

section Call

variable {start : DoubleRatchet B} (hstart : Starts P start) (before : List (RatchetUse B))
  (peerRatchetPublic : B X25519_PUBLIC_KEY_SIZE)
include hstart

theorem ratchetedAfter_eq {ourKey : B X25519_PRIVATE_KEY_SIZE}
    (hour : ((life P).run start before).sendingChain.ourRatchetKey = some ourKey) :
    ratchetedAfter P start before peerRatchetPublic =
      ((life P).run start before).ratcheted P ourKey peerRatchetPublic := by
  have hcall : ratchetedAfter P start before peerRatchetPublic =
      (((life P).run start before).dhRatchet P peerRatchetPublic).state :=
    Machine.run_append start before _
  rw [hcall, dhRatchet_eq P (keyed_life hstart.keyed before).noReceivingKey hour]
  rfl

/-- A sending chain from before the call goes on after it, and its chain key
gives every key after it. -/
theorem derivable_of_chain {c : ChainKey B}
    (hchain : ((life P).run start before).sendingChain.chainKey = some c)
    {after : List (RatchetUse B)} {m : SealedMessage B}
    (hm : m ∈ sealedOver P (ratchetedAfter P start before peerRatchetPublic) after)
    (seen : List (Blob B)) :
    ∃ key, P.aeadEncrypt key (nonceOf m.header.messageNumber) (Serde.toVec m.header) m.plaintext =
        some m.ciphertext ∧
      Derivable P (((life P).run start before).secrets ++ seen) key := by
  obtain ⟨ourKey, hour⟩ := (keyed_life (P := P) hstart.keyed before).sendingKey
  have hcall := ratchetedAfter_eq hstart before peerRatchetPublic hour
  have hkept : (ratchetedAfter P start before peerRatchetPublic).sendingChain.chainKey = some c := by
    rw [hcall]
    exact hchain
  obtain ⟨n, hkey⟩ := on_of_chain after (keyed_life hstart.keyed _) hkept m hm
  refine ⟨messageKeyAt P c n, hkey, Derivable.messageKeyAt (.of_mem ?_) n⟩
  unfold secrets
  rw [hchain]
  simp

/-- A call that comes before there is a sending chain. -/
theorem renewed_of_none (hway : P.OneWay) (hideal : P.AeadIdeal) {seen : List (Blob B)}
    (hroot : ¬ Derivable P (((life P).run start before).secrets ++ seen)
      ((life P).run start before).rootKey.key)
    (hseen : ∀ x ∈ ((life P).run start before).secrets ++ seen,
      ¬ MadeFrom P ((life P).run start before).rootKey.key x)
    (hnone : ((life P).run start before).sendingChain.chainKey = none)
    (after : List (RatchetUse B)) : Renewed P seen start before peerRatchetPublic after := by
  obtain ⟨ourKey, hour⟩ := (keyed_life (P := P) hstart.keyed before).sendingKey
  have hcall := ratchetedAfter_eq hstart before peerRatchetPublic hour
  have hkeyed : (ratchetedAfter P start before peerRatchetPublic).Keyed :=
    keyed_life hstart.keyed _
  set r := ratchetedAfter P start before peerRatchetPublic
  have hstill : r.sendingChain.chainKey = none := by
    rw [hcall]
    exact hnone
  have hour' : r.sendingChain.ourRatchetKey = some ourKey := by
    rw [hcall]
    exact hour
  have hpeer : r.sendingChain.theirRatchetPublic = some peerRatchetPublic := by
    rw [hcall]
    rfl
  have hnewRoot : r.rootKey = (((life P).run start before).rootKey.ratchetStep P
      (P.diffieHellman ourKey peerRatchetPublic)).1 := by
    rw [hcall]
    rfl
  obtain ⟨done, rest, hsplit, hon⟩ := sealed_on_root hkeyed hstill hour' hpeer after
  rw [hnewRoot] at hon
  refine ⟨?_, ⟨done, rest, ourKey, hsplit, hour, hon⟩, ?_⟩
  · intro m hm
    rw [(sealedOver_eq_nil before hstart.keyed hnone).2] at hm
    exact absurd hm List.not_mem_nil
  · intro m' hm' key hkey
    obtain ⟨n, hsealed⟩ := hon m' hm'
    obtain rfl := (hideal.inj _ _ _ _ _ _ _ _ _ hkey hsealed).1
    have hnew : MadeFrom P ((life P).run start before).rootKey.key
        ⟨_, (((life P).run start before).rootKey.ratchetStep P
          (P.diffieHellman ourKey peerRatchetPublic)).1.key⟩ := MadeFrom.root.hkdf _ _ _
    exact (RootKey.madeFrom_messageKeyAt hnew ourKey (handedIn done) _ n).not_derivable hway hroot
      hseen

end Call

end DoubleRatchet

open DoubleRatchet

section Main

variable {P : Primitives B} [Serde (RatchetMessageHeader B)]

/-- In every life, a `dh_ratchet` call renews the sending side if and only if
there is no sending chain yet when it comes, or nothing is sealed after it.
The root key of before has not leaked, nor anything that is made from it. -/
theorem dhRatchet_renews_iff (hway : P.OneWay) (hideal : P.AeadIdeal) {start : DoubleRatchet B}
    (hstart : Starts P start) (before : List (RatchetUse B))
    (peerRatchetPublic : B X25519_PUBLIC_KEY_SIZE) (after : List (RatchetUse B))
    (seen : List (Blob B))
    (hroot : ¬ Derivable P (((life P).run start before).secrets ++ seen)
      ((life P).run start before).rootKey.key)
    (hseen : ∀ x ∈ ((life P).run start before).secrets ++ seen,
      ¬ MadeFrom P ((life P).run start before).rootKey.key x) :
    Renewed P seen start before peerRatchetPublic after ↔
      ((life P).run start before).sendingChain.chainKey = none ∨
        sealedOver P (ratchetedAfter P start before peerRatchetPublic) after = [] := by
  constructor
  · intro hrenewed
    cases hchain : ((life P).run start before).sendingChain.chainKey with
    | none => exact Or.inl rfl
    | some c =>
      right
      apply List.eq_nil_iff_forall_not_mem.mpr
      intro m hm
      obtain ⟨key, hkey, hderived⟩ :=
        derivable_of_chain hstart before peerRatchetPublic hchain hm seen
      exact hrenewed.healed m hm key hkey hderived
  · rintro (hnone | hnever)
    · exact renewed_of_none hstart before peerRatchetPublic hway hideal hroot hseen hnone after
    · obtain ⟨ourKey, hour⟩ := (keyed_life (P := P) hstart.keyed before).sendingKey
      have hvacuous : ∀ m' ∈ sealedOver P (ratchetedAfter P start before peerRatchetPublic) after,
          False := by
        rw [hnever]
        exact fun _ hm' => absurd hm' List.not_mem_nil
      exact ⟨fun _ _ m' hm' => (hvacuous m' hm').elim,
        ⟨[], after, ourKey, rfl, hour, fun m' hm' => (hvacuous m' hm').elim⟩,
        fun m' hm' => (hvacuous m' hm').elim⟩

end Main

namespace Sym

/-- A responder that has not heard anything yet. -/
def listener : DoubleRatchet Sym := .initAsResponder "presidium-session" ⟨[20]⟩ [22] []

/-- The two public keys. -/
def publicKeys : List (Blob Sym) :=
  [⟨X25519_PUBLIC_KEY_SIZE, primitives.x25519Public [21]⟩,
    ⟨X25519_PUBLIC_KEY_SIZE, primitives.x25519Public [22]⟩]

/-- The root key has no tag, so no computation gives it. -/
theorem listener_root_secret :
    ¬ Derivable primitives (listener.secrets ++ publicKeys) listener.rootKey.key := by
  intro hderived
  rcases Deduction.Derives.iff_known_or_rule.mp hderived with hmem | ⟨premises, hrule, -⟩
  · revert hmem
    decide
  · have htag : listener.rootKey.key = 20 :: ([] : Bytes) := rfl
    exact not_attack htag (by decide) hrule

/-- Ratchet secrets and public keys are not made from it. -/
theorem listener_nothing_made :
    ∀ x ∈ listener.secrets ++ publicKeys, ¬ MadeFrom primitives listener.rootKey.key x := by
  have hheads : ∀ x ∈ listener.secrets ++ publicKeys,
      x.2.head? ≠ some 20 ∧ x.2.head? ≠ some 2 ∧ x.2.head? ≠ some 1 := by
    decide
  intro x hx hmade
  obtain ⟨hroot, hhkdf, hhmac⟩ := hheads x hx
  cases hmade with
  | root => exact hroot rfl
  | hkdf h ikm info n => exact hhkdf rfl
  | hmacSha256 h info => exact hhmac rfl

end Sym

/-- A responder gets the first peer key and then answers on a chain of the new
root key, which its ratchet secret does not open. -/
theorem dhRatchet_renews_responder :
    (sealedOver Sym.primitives (ratchetedAfter Sym.primitives Sym.listener []
        (Sym.primitives.x25519Public [21])) [.call (.encrypt [1])]).length = 1 ∧
      Renewed Sym.primitives Sym.publicKeys Sym.listener [] (Sym.primitives.x25519Public [21])
        [.call (.encrypt [1])] := by
  refine ⟨by decide +kernel, ?_⟩
  exact (dhRatchet_renews_iff Sym.isOneWay Sym.aeadIdeal (.responder _ _ _ _) [] _ _
    Sym.publicKeys Sym.listener_root_secret Sym.listener_nothing_made).mpr (Or.inl rfl)

/-- An initiator sends, gets a fresh peer key and sends again under the ratchet
key of before. -/
theorem fresh_peer_key_renews_nothing :
    Starts Sym.primitives Sym.talker ∧
      Sym.primitives.x25519Public [23] ∉ peerKeys Sym.talker [.call (.encrypt [1])] ∧
      ¬ Renewed Sym.primitives [] Sym.talker [.call (.encrypt [1])]
        (Sym.primitives.x25519Public [23]) [.call (.encrypt [2])] := by
  have hstart : Starts Sym.primitives Sym.talker := .initiator _ _ _ _ _
  refine ⟨hstart, by decide, ?_⟩
  exact not_renewed hstart.keyed (by decide +kernel) (by decide +kernel)

end Presidium
