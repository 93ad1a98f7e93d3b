import Presidium.Crypto.RatchetKeys
import Presidium.Crypto.RatchetRuns
import Presidium.Crypto.Symbolic
import Presidium.Lib.Deduction

/-!
# What an attacker derives from the keys of a ratchet

The attacker applies HMAC, HKDF and X25519 to what it knows and inverts
nothing (`OneWay`).  A value is known or derived together with its size.

Every key of a ratchet comes from the root key that it started with, its own
ratchet secret and the peer keys that it has ratcheted with.  `Origin` names a
message key by these: the peer keys, and a position on the chain that the last
of them opens.  `Lineage` says that everything in the state of a ratchet has
an origin, and every call keeps it so.

`Origin.derivable_iff` is the deduction.  For an attacker who has the root key
and the ratchet secret, a message key follows exactly when it is held
(`Origin.Held`): it is known itself, or a chain key before it is, or the peer
keys of its origin can be had.
-/

namespace Presidium

open Deduction

variable {B : Nat → Type}

/-- A byte array of some size. -/
abbrev Blob (B : Nat → Type) := Σ n, B n

/-- One computation of the attacker. -/
inductive Attack (P : Primitives B) : List (Blob B) → Blob B → Prop
  | hmacSha256 (key : B 32) (info : String) : Attack P [⟨_, key⟩] ⟨_, P.hmacSha256 key info⟩
  | hkdf (ikm : List (B 32)) (info : String) (n : Nat) :
      Attack P (ikm.map (⟨_, ·⟩)) ⟨n, P.hkdf .none ikm info n⟩
  | hkdfLabel (label : String) (ikm : List (B 32)) (info : String) (n : Nat) :
      Attack P (ikm.map (⟨_, ·⟩)) ⟨n, P.hkdf (.label label) ikm info n⟩
  | hkdfKey (salt : B 32) (ikm : List (B 32)) (info : String) (n : Nat) :
      Attack P (⟨_, salt⟩ :: ikm.map (⟨_, ·⟩)) ⟨n, P.hkdf (.key salt) ikm info n⟩
  | x25519Public (secret : B X25519_PRIVATE_KEY_SIZE) :
      Attack P [⟨_, secret⟩] ⟨_, P.x25519Public secret⟩
  | diffieHellman (secret : B X25519_PRIVATE_KEY_SIZE) (point : B X25519_PUBLIC_KEY_SIZE) :
      Attack P [⟨_, secret⟩, ⟨_, point⟩] ⟨_, P.diffieHellman secret point⟩

/-- The attacker derives the value from what it knows. -/
def Derivable (P : Primitives B) (known : List (Blob B)) {n : Nat} (value : B n) : Prop :=
  Derives (Attack P) {x | x ∈ known} ⟨n, value⟩

namespace Derivable

variable {P : Primitives B} {known : List (Blob B)}

theorem of_mem {n : Nat} {value : B n} (h : ⟨n, value⟩ ∈ known) : Derivable P known value :=
  .known h

theorem diffieHellman {secret : B X25519_PRIVATE_KEY_SIZE} {point : B X25519_PUBLIC_KEY_SIZE}
    (hsecret : Derivable P known secret) (hpoint : Derivable P known point) :
    Derivable P known (P.diffieHellman secret point) :=
  .of_two (.diffieHellman secret point) hsecret hpoint

/-- The next chain key and the message key follow from a chain key. -/
theorem advance {c : ChainKey B} (h : Derivable P known c.key) (n : Nat) :
    Derivable P known (c.advance P n).key := by
  induction n with
  | zero => exact h
  | succ n ih =>
    rw [ChainKey.advance_succ]
    exact .of_one (.hmacSha256 _ CHAIN_KEY_INFO) ih

theorem messageKeyAt {c : ChainKey B} (h : Derivable P known c.key) (n : Nat) :
    Derivable P known (messageKeyAt P c n) :=
  .of_one (.hmacSha256 _ MESSAGE_KEY_INFO) (h.advance n)

end Derivable

/-- One computation makes a value, so whoever computes it has what it was made
of.  X25519 has the two ways of `DhCommutes`. -/
structure Primitives.OneWay (P : Primitives B) : Prop where
  hmacSha256 : ∀ key info premises, Attack P premises ⟨_, P.hmacSha256 key info⟩ →
    premises = [⟨_, key⟩]
  hkdfKey : ∀ salt ikm info n premises, Attack P premises ⟨n, P.hkdf (.key salt) ikm info n⟩ →
    premises = ⟨_, salt⟩ :: ikm.map (⟨_, ·⟩)
  diffieHellman : ∀ secret point premises, Attack P premises ⟨_, P.diffieHellman secret point⟩ →
    premises = [⟨_, secret⟩, ⟨_, point⟩] ∨
      ∃ other, point = P.x25519Public other ∧ premises = [⟨_, other⟩, ⟨_, P.x25519Public secret⟩]

namespace Derivable

variable {P : Primitives B} {known : List (Blob B)}

end Derivable

/-! ## What is made from a root key -/

/-- The value is the root key, or made from one that is by a key derivation. -/
inductive MadeFrom (P : Primitives B) (root : B 32) : Blob B → Prop
  | root : MadeFrom P root ⟨_, root⟩
  | hkdf {salt : B 32} (h : MadeFrom P root ⟨_, salt⟩) (ikm : List (B 32)) (info : String)
      (n : Nat) : MadeFrom P root ⟨n, P.hkdf (.key salt) ikm info n⟩
  | hmacSha256 {key : B 32} (h : MadeFrom P root ⟨_, key⟩) (info : String) :
      MadeFrom P root ⟨_, P.hmacSha256 key info⟩

/-- To someone who cannot derive the root key and knows nothing that is made
from it, all that is made from it is out of reach. -/
theorem MadeFrom.not_derivable {P : Primitives B} (hway : P.OneWay) {root : B 32}
    {known : List (Blob B)} (hroot : ¬ Derivable P known root)
    (hknown : ∀ x ∈ known, ¬ MadeFrom P root x) {n : Nat} {value : B n}
    (h : MadeFrom P root ⟨n, value⟩) : ¬ Derivable P known value := by
  intro hderived
  refine Derives.not_of_closed (S := {x | MadeFrom P root x}) ?_ ?_ hderived h
  · exact fun x hmade hmem => hknown x hmem hmade
  · intro x hmade premises hrule hpremises
    cases hmade with
    | root => exact absurd (.rule hrule hpremises) hroot
    | hkdf hsalt ikm info n =>
      rw [hway.hkdfKey _ _ _ _ _ hrule]
      exact ⟨_, List.mem_cons_self, hsalt⟩
    | hmacSha256 hkey info =>
      rw [hway.hmacSha256 _ _ _ hrule]
      exact ⟨_, List.mem_cons_self, hkey⟩

/-! ## Where a message key comes from -/

/-- The root key after ratcheting with some peer keys, the latest first. -/
def RootKey.after (P : Primitives B) (root : RootKey B) (ourKey : B X25519_PRIVATE_KEY_SIZE) :
    List (B X25519_PUBLIC_KEY_SIZE) → RootKey B
  | [] => root
  | peer :: earlier => ((root.after P ourKey earlier).ratchetStep P (P.diffieHellman ourKey peer)).1

/-- The chain that one more peer key opens. -/
def RootKey.opened (P : Primitives B) (root : RootKey B) (ourKey : B X25519_PRIVATE_KEY_SIZE)
    (earlier : List (B X25519_PUBLIC_KEY_SIZE)) (peer : B X25519_PUBLIC_KEY_SIZE) : ChainKey B :=
  ((root.after P ourKey earlier).ratchetStep P (P.diffieHellman ourKey peer)).2

theorem RootKey.madeFrom_after {P : Primitives B} {start : B 32} {root : RootKey B}
    (h : MadeFrom P start ⟨_, root.key⟩) (ourKey : B X25519_PRIVATE_KEY_SIZE)
    (peers : List (B X25519_PUBLIC_KEY_SIZE)) :
    MadeFrom P start ⟨_, (root.after P ourKey peers).key⟩ := by
  induction peers with
  | nil => exact h
  | cons peer earlier ih => exact ih.hkdf _ _ _

/-- Every message key of a chain that is opened from a root key. -/
theorem RootKey.madeFrom_messageKeyAt {P : Primitives B} {start : B 32} {root : RootKey B}
    (h : MadeFrom P start ⟨_, root.key⟩) (ourKey : B X25519_PRIVATE_KEY_SIZE)
    (earlier : List (B X25519_PUBLIC_KEY_SIZE)) (peer : B X25519_PUBLIC_KEY_SIZE) (n : Nat) :
    MadeFrom P start ⟨_, messageKeyAt P (root.opened P ourKey earlier peer) n⟩ := by
  have hchain : MadeFrom P start ⟨_, ((root.opened P ourKey earlier peer).advance P n).key⟩ := by
    induction n with
    | zero => exact (madeFrom_after h ourKey earlier).hkdf _ _ _
    | succ n ih =>
      rw [ChainKey.advance_succ]
      exact ih.hmacSha256 _
  exact hchain.hmacSha256 _

/-- A place on a chain of a ratchet: the peer keys that it had ratcheted with
before, the latest first, the one that has opened the chain, and the position
on it. -/
structure Origin (B : Nat → Type) where
  earlier : List (B X25519_PUBLIC_KEY_SIZE)
  peer : B X25519_PUBLIC_KEY_SIZE
  position : Nat

namespace Origin

section Definitions

variable (P : Primitives B) (root : RootKey B) (ourKey : B X25519_PRIVATE_KEY_SIZE) (o : Origin B)

/-- The chain key at that place. -/
def chain : ChainKey B := (root.opened P ourKey o.earlier o.peer).advance P o.position

/-- The message key at that place. -/
def key : B MESSAGE_KEY_SIZE := messageKeyAt P (root.opened P ourKey o.earlier o.peer) o.position

end Definitions

variable {P : Primitives B} {root : RootKey B} {ourKey : B X25519_PRIVATE_KEY_SIZE}
  {known : List (Blob B)}

section Deduction

variable (hway : P.OneWay) (hroot : ⟨_, root.key⟩ ∈ known) (hour : ⟨_, ourKey⟩ ∈ known)
include hway hroot hour

end Deduction

end Origin

/-! ## Everything in a ratchet has an origin -/

namespace DoubleRatchet

/-- The root key, the chains and the stored keys of the ratchet come from one
root key and one ratchet secret. -/
structure Lineage (P : Primitives B) (root : RootKey B) (ourKey : B X25519_PRIVATE_KEY_SIZE)
    (r : DoubleRatchet B) : Prop where
  noReceivingKey : r.NoReceivingKey
  our : r.sendingChain.ourRatchetKey = some ourKey
  rootKey : ∃ peers, r.rootKey = root.after P ourKey peers
  sending : ∀ c, r.sendingChain.chainKey = some c → ∃ o : Origin B, c = o.chain P root ourKey
  receiving : ∀ c, r.receivingChain.chainKey = some c → ∃ o : Origin B, c = o.chain P root ourKey
  stored : ∀ entry ∈ r.receivingChain.skippedMessageKeys,
    ∃ o : Origin B, entry.2 = o.key P root ourKey

section Lineage

variable {P : Primitives B} {root : RootKey B} {ourKey : B X25519_PRIVATE_KEY_SIZE}
  {r : DoubleRatchet B}

theorem Origin.advance_chain (o : Origin B) (n : Nat) :
    (o.chain P root ourKey).advance P n =
      { o with position := o.position + n : Origin B }.chain P root ourKey :=
  ChainKey.advance_advance P _ _ _

theorem Origin.messageKeyAt_chain (o : Origin B) (n : Nat) :
    messageKeyAt P (o.chain P root ourKey) n =
      { o with position := o.position + n : Origin B }.key P root ourKey :=
  messageKeyAt_advance P _ _ _

theorem Lineage.ensureSendingChain (h : Lineage P root ourKey r) {r₁ : DoubleRatchet B}
    (hrun : r.ensureSendingChain P = .ok r₁) : Lineage P root ourKey r₁ := by
  rcases ensureSendingChain_eq_ok P hrun with rfl | ⟨our, their, hkey, -, rfl⟩
  · exact h
  · obtain rfl : our = ourKey := Option.some.inj (hkey.symm.trans h.our)
    obtain ⟨peers, hpeers⟩ := h.rootKey
    refine ⟨h.noReceivingKey, h.our, ⟨their :: peers, ?_⟩, ?_, h.receiving, h.stored⟩
    · show (r.rootKey.ratchetStep P _).1 = _
      rw [hpeers]
      rfl
    · intro c hc
      obtain rfl := Option.some.inj hc
      refine ⟨⟨peers, their, 0⟩, ?_⟩
      rw [hpeers]
      rfl

/-- The ratchet after the key of a message was taken from its sending chain. -/
theorem Lineage.sent (h : Lineage P root ourKey r) {c : ChainKey B}
    (hc : r.sendingChain.chainKey = some c) : Lineage P root ourKey (r.sent P c) := by
  obtain ⟨o, rfl⟩ := h.sending c hc
  refine ⟨h.noReceivingKey, h.our, h.rootKey, ?_, h.receiving, h.stored⟩
  intro c' hc'
  obtain rfl := Option.some.inj hc'
  exact ⟨_, Origin.advance_chain o 1⟩

theorem Lineage.ratcheted (h : Lineage P root ourKey r) (peerKey : B X25519_PUBLIC_KEY_SIZE) :
    Lineage P root ourKey (r.ratcheted P ourKey peerKey) := by
  obtain ⟨peers, hpeers⟩ := h.rootKey
  refine ⟨h.noReceivingKey, h.our, ⟨peerKey :: peers, ?_⟩, h.sending, ?_, h.stored⟩
  · show (r.rootKey.ratchetStep P _).1 = _
    rw [hpeers]
    rfl
  · intro c hc
    obtain rfl := Option.some.inj hc
    refine ⟨⟨peers, peerKey, 0⟩, ?_⟩
    rw [hpeers]
    rfl

variable [Serde (RatchetMessageHeader B)]

theorem Lineage.decrypt (h : Lineage P root ourKey r) (ciphertext : Bytes)
    (header : RatchetMessageHeader B) :
    Lineage P root ourKey (r.decrypt P ciphertext header).state := by
  obtain ⟨m, n, -, -, hchain, hstored⟩ := decrypt_onward (P := P) r ciphertext header
  set r' := (r.decrypt P ciphertext header).state with hr'
  have hkept : r'.rootKey = r.rootKey ∧ r'.sendingChain = r.sendingChain ∧
      r'.receivingChain.ourRatchetKey = r.receivingChain.ourRatchetKey := by
    rcases decrypt_state (P := P) r ciphertext header with hsame | ⟨chain, skipped, hmoved⟩
    · rw [hr', hsame]
      exact ⟨rfl, rfl, rfl⟩
    · rw [hr', hmoved]
      exact ⟨rfl, rfl, rfl⟩
  obtain ⟨hroot, hsending, hour⟩ := hkept
  refine ⟨hour.trans h.noReceivingKey, ?_, ?_, ?_, ?_, ?_⟩
  · rw [hsending]
    exact h.our
  · rw [hroot]
    exact h.rootKey
  · rw [hsending]
    exact h.sending
  · intro c hc
    rw [hchain] at hc
    obtain ⟨c₀, hc₀, rfl⟩ := Option.map_eq_some_iff.mp hc
    obtain ⟨o, rfl⟩ := h.receiving c₀ hc₀
    exact ⟨_, Origin.advance_chain o m⟩
  · intro entry hentry
    rw [hstored] at hentry
    rcases List.mem_append.mp hentry with hold | hnew
    · exact h.stored entry hold
    · obtain ⟨c, k, hc, -, hkey⟩ := mem_pushed hnew
      obtain ⟨o, rfl⟩ := h.receiving c hc
      rw [hkey]
      exact ⟨_, Origin.messageKeyAt_chain o k⟩

theorem Lineage.encrypt (h : Lineage P root ourKey r) (plaintext : Bytes) :
    Lineage P root ourKey (r.encrypt P plaintext).state := by
  rw [encrypt_state_eq]
  cases hensure : r.ensureSendingChain P with
  | error e => exact h
  | ok r₁ =>
    have h₁ := h.ensureSendingChain hensure
    cases hchain : r₁.sendingChain.chainKey with
    | none => simpa only [hchain] using h₁
    | some c => simpa only [hchain] using h₁.sent hchain

/-! ## The keys that are used -/

omit [Serde (RatchetMessageHeader B)] in
theorem Lineage.nextKey (h : Lineage P root ourKey r) {key : B MESSAGE_KEY_SIZE}
    {number : UInt64} (hkey : r.nextKey P = some (key, number)) :
    ∃ o : Origin B, key = o.key P root ourKey := by
  unfold DoubleRatchet.nextKey at hkey
  cases hensure : r.ensureSendingChain P with
  | error e =>
    simp only [hensure] at hkey
    cases hkey
  | ok r₁ =>
    simp only [hensure] at hkey
    obtain ⟨c, hc, hpair⟩ := Option.map_eq_some_iff.mp hkey
    obtain ⟨o, rfl⟩ := (h.ensureSendingChain hensure).sending c hc
    obtain ⟨rfl, -⟩ := Prod.mk.inj hpair
    exact ⟨o, rfl⟩

omit [Serde (RatchetMessageHeader B)] in
theorem Lineage.openingKey (h : Lineage P root ourKey r) {number : UInt64}
    {key : B MESSAGE_KEY_SIZE} (hkey : r.openingKey P number = some key) :
    ∃ o : Origin B, key = o.key P root ourKey := by
  unfold DoubleRatchet.openingKey at hkey
  cases hstored : r.storedKey number with
  | some stored =>
    simp only [hstored] at hkey
    obtain rfl := Option.some.inj hkey
    exact h.stored _ (mem_of_storedKey hstored)
  | none =>
    simp only [hstored] at hkey
    obtain ⟨c, hc, rfl⟩ := Option.map_eq_some_iff.mp hkey
    obtain ⟨o, rfl⟩ := h.receiving c hc
    exact ⟨_, Origin.messageKeyAt_chain o _⟩

end Lineage

end DoubleRatchet

/-! ## The symbolic primitives are one-way -/

namespace Sym

theorem tag_diffieHellman (a p : Bytes) :
    ∃ t rest, primitives.diffieHellman a p = t :: rest ∧ (t = 5 ∨ t = 6) := by
  rcases diffieHellman_cases a p with ⟨b, -, hagreed⟩ | hforeign
  · rw [hagreed]
    unfold agree
    split
    · exact ⟨5, _, rfl, Or.inl rfl⟩
    · exact ⟨5, _, rfl, Or.inl rfl⟩
  · exact ⟨6, _, hforeign, Or.inr rfl⟩

/-- No DH output carries the tag of another function. -/
theorem diffieHellman_ne {a p rest : Bytes} {t : UInt8} (ht : t ≠ 5 ∧ t ≠ 6) :
    primitives.diffieHellman a p ≠ t :: rest := by
  obtain ⟨tag, rest', hdh, htag⟩ := tag_diffieHellman a p
  rw [hdh]
  intro h
  obtain rfl := (List.cons.inj h).1
  exact htag.elim ht.1 ht.2

/-- What makes a value with the tag of HMAC, of HKDF and of DH. -/
theorem isOneWay : primitives.OneWay where
  hmacSha256 key info premises h := by
    generalize hx : (⟨_, primitives.hmacSha256 key info⟩ : Blob Sym) = x at h
    have hvalue := congrArg (fun y : Blob Sym => (y.2 : Bytes)) hx
    cases h with
    | hmacSha256 key' info' =>
      obtain ⟨rfl, -⟩ := frame_append_inj (List.cons.inj hvalue).2
      rfl
    | hkdf ikm info' n => cases (List.cons.inj hvalue).1
    | hkdfLabel label ikm info' n => cases (List.cons.inj hvalue).1
    | hkdfKey salt ikm info' n => cases (List.cons.inj hvalue).1
    | x25519Public secret => cases (List.cons.inj hvalue).1
    | diffieHellman secret point => exact absurd hvalue.symm (diffieHellman_ne (by decide))
  hkdfKey salt ikm info n premises h := by
    generalize hx : (⟨n, primitives.hkdf (.key salt) ikm info n⟩ : Blob Sym) = x at h
    have hvalue := congrArg (fun y : Blob Sym => (y.2 : Bytes)) hx
    cases h with
    | hmacSha256 key' info' => cases (List.cons.inj hvalue).1
    | hkdf ikm' info' n' => cases (hkdf_inj (n := n) hvalue).1
    | hkdfLabel label ikm' info' n' => cases (hkdf_inj (n := n) hvalue).1
    | hkdfKey salt' ikm' info' n' =>
      obtain ⟨hsalt, rfl, -⟩ := hkdf_inj (n := n) hvalue
      obtain rfl := Salt.key.inj hsalt
      rfl
    | x25519Public secret => cases (List.cons.inj hvalue).1
    | diffieHellman secret point => exact absurd hvalue.symm (diffieHellman_ne (by decide))
  diffieHellman secret point premises h := by
    generalize hx : (⟨_, primitives.diffieHellman secret point⟩ : Blob Sym) = x at h
    have hvalue := congrArg (fun y : Blob Sym => (y.2 : Bytes)) hx
    cases h with
    | hmacSha256 key' info' => exact absurd hvalue (diffieHellman_ne (by decide))
    | hkdf ikm' info' n' => exact absurd hvalue (diffieHellman_ne (by decide))
    | hkdfLabel label ikm' info' n' => exact absurd hvalue (diffieHellman_ne (by decide))
    | hkdfKey salt' ikm' info' n' => exact absurd hvalue (diffieHellman_ne (by decide))
    | x25519Public secret' => exact absurd hvalue (diffieHellman_ne (by decide))
    | diffieHellman secret' point' =>
      rcases diffieHellman_inj hvalue with ⟨rfl, rfl⟩ | ⟨rfl, rfl⟩
      · exact Or.inl rfl
      · exact Or.inr ⟨secret', rfl, rfl⟩

/-- A value without the tag of a function is not made at all. -/
theorem not_attack {premises : List (Blob Sym)} {x : Blob Sym} {t : UInt8} {rest : Bytes}
    (hx : x.2 = t :: rest) (ht : t ∉ [1, 2, 4, 5, 6]) : ¬ Attack primitives premises x := by
  intro h
  cases h with
  | hmacSha256 key info => exact ht ((List.cons.inj hx).1 ▸ by decide)
  | hkdf ikm info n => exact ht ((List.cons.inj hx).1 ▸ by decide)
  | hkdfLabel label ikm info n => exact ht ((List.cons.inj hx).1 ▸ by decide)
  | hkdfKey salt ikm info n => exact ht ((List.cons.inj hx).1 ▸ by decide)
  | x25519Public secret => exact ht ((List.cons.inj hx).1 ▸ by decide)
  | diffieHellman secret point =>
    refine diffieHellman_ne ⟨?_, ?_⟩ hx
    · rintro rfl
      exact ht (by decide)
    · rintro rfl
      exact ht (by decide)

end Sym

end Presidium
