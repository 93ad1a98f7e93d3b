import Mathlib.Data.List.Induction
import Presidium.Crypto.RatchetRuns
import Presidium.Crypto.Symbolic

/-!
# Replayed messages

A run of one receiver, with any messages delivered any number of times.
`accepted` lists the messages that `decrypt` took.

A message can be taken in two ways.  Taken from the live chain, its key is
gone: the chain has moved behind it, and no later position has the same key.
Taken from the stored keys, its key is still there, because the source reads
the list and never removes from it.  So a message that was late is taken again
each time it comes.  `accepted_once_iff` says that this is the only way.

`Reaches` lists the keys that the rest of a run can still come to, from the
receiving chain as it stands and from the chains that later `dh_ratchet` calls
open.
-/

namespace Presidium

variable {B : Nat → Type}

namespace DoubleRatchet

section Definitions

variable (P : Primitives B) [Serde (RatchetMessageHeader B)]

/-- The message that a call takes, by ratchet key, number and ciphertext. -/
def accepts (r : DoubleRatchet B) :
    RatchetOp B → List (B X25519_PUBLIC_KEY_SIZE × UInt64 × Bytes)
  | .decrypt ciphertext header =>
    match r.decrypt P ciphertext header with
    | .ok _ _ => [(header.dhPublicKey, header.messageNumber, ciphertext)]
    | .error _ _ => []
  | _ => []

/-- The messages that a run takes, in order. -/
def accepted (r : DoubleRatchet B) (ops : List (RatchetOp B)) :
    List (B X25519_PUBLIC_KEY_SIZE × UInt64 × Bytes) :=
  (machine P).trace (accepts P) r ops

/-- The receiving chains of a run, in order. -/
def receivingChains (r : DoubleRatchet B) (ops : List (RatchetOp B)) : List (ChainKey B) :=
  (machine P).trace (opens P) r ops

/-- The message was sealed under this key. -/
def SealedUnder (key : B MESSAGE_KEY_SIZE) (header : RatchetMessageHeader B)
    (ciphertext : Bytes) : Prop :=
  ∃ plaintext, P.aeadEncrypt key (nonceOf header.messageNumber) (Serde.toVec header) plaintext =
    some ciphertext

/-- The message is late: its key is among the stored ones. -/
def Late (r : DoubleRatchet B) (ciphertext : Bytes) (header : RatchetMessageHeader B) : Prop :=
  ∃ key, r.storedKey header.messageNumber = some key ∧ SealedUnder P key header ciphertext

end Definitions

/-- Up to position `n` no two positions of the chains have the same message
key. -/
def DistinctKeys (P : Primitives B) (chains : List (ChainKey B)) (n : Nat) : Prop :=
  ∀ (i j : Nat) (c c' : ChainKey B) (p q : Nat),
    chains[i]? = some c → chains[j]? = some c' → p ≤ n → q ≤ n →
    messageKeyAt P c p = messageKeyAt P c' q → i = j ∧ p = q

/-- What that says of the chain that was opened last, and of the chains that
are opened after it. -/
theorem DistinctKeys.last {P : Primitives B} {opened later : List (ChainKey B)} {n : Nat}
    (h : DistinctKeys P (opened ++ later) n) {c : ChainKey B} (hc : opened.getLast? = some c) :
    (∀ p q, p ≤ n → q ≤ n → messageKeyAt P c p = messageKeyAt P c q → p = q) ∧
      ∀ c' ∈ later, ∀ p q, p ≤ n → q ≤ n → messageKeyAt P c p ≠ messageKeyAt P c' q := by
  have hne : opened ≠ [] := by
    rintro rfl
    cases hc
  have hlength : opened.length - 1 < opened.length :=
    Nat.sub_lt (List.length_pos_iff.mpr hne) Nat.one_pos
  have hlast : (opened ++ later)[opened.length - 1]? = some c := by
    rw [List.getElem?_append_left hlength, ← List.getLast?_eq_getElem?]
    exact hc
  refine ⟨?_, ?_⟩
  · intro p q hp hq hkey
    exact (h _ _ c c p q hlast hlast hp hq hkey).2
  · intro c' hc' p q hp hq hkey
    obtain ⟨j, hj⟩ := List.mem_iff_getElem?.mp hc'
    have hlater : (opened ++ later)[opened.length + j]? = some c' := by
      rw [List.getElem?_append_right (Nat.le_add_right _ _), Nat.add_sub_cancel_left]
      exact hj
    have hsame := (h _ _ c c' p q hlast hlater hp hq hkey).1
    omega

/-- As far as a number of calls can move a chain. -/
def reach (calls : Nat) : Nat := (MAX_SKIP_MESSAGES + 1) * calls

theorem reach_succ (calls : Nat) : reach (calls + 1) = reach calls + (MAX_SKIP_MESSAGES + 1) :=
  Nat.mul_succ _ _

theorem reach_add (m n : Nat) : reach (m + n) = reach m + reach n := Nat.mul_add _ _ _

/-! ## Runs -/

section Runs

variable (P : Primitives B) [Serde (RatchetMessageHeader B)]

/-- The rest of the run can still come to a position with this key. -/
def Reaches (r : DoubleRatchet B) (ops : List (RatchetOp B)) (key : B MESSAGE_KEY_SIZE) : Prop :=
  ∃ c q, (r.receivingChain.chainKey = some c ∨ c ∈ receivingChains P r ops) ∧
    q ≤ reach ops.length ∧ key = messageKeyAt P c q

variable {P}

/-- What is to come after a call was to come before it. -/
theorem Reaches.of_apply {r : DoubleRatchet B} (hr : r.Keyed) {op : RatchetOp B}
    {ops : List (RatchetOp B)} {key : B MESSAGE_KEY_SIZE} (h : Reaches P (r.apply P op) ops key) :
    Reaches P r (op :: ops) key := by
  obtain ⟨c, q, hc, hq, rfl⟩ := h
  have hlength : reach (op :: ops).length = reach ops.length + (MAX_SKIP_MESSAGES + 1) :=
    reach_succ ops.length
  have hchains : receivingChains P r (op :: ops) =
      opens P r op ++ receivingChains P (r.apply P op) ops := rfl
  rcases hc with hnow | hlater
  · rcases apply_receiving (P := P) hr op with ⟨-, m, n, hm, -, hmoved, -⟩ | ⟨c', hopens, hchain, -⟩
    · -- still on the chain of before, further along
      rw [hmoved] at hnow
      obtain ⟨c₀, hc₀, rfl⟩ := Option.map_eq_some_iff.mp hnow
      refine ⟨c₀, m + q, Or.inl hc₀, by omega, ?_⟩
      rw [messageKeyAt_advance]
    · -- on the chain that the call has opened
      obtain rfl : c' = c := Option.some.inj (hchain.symm.trans hnow)
      refine ⟨c', q, Or.inr ?_, by omega, rfl⟩
      rw [hchains, hopens]
      exact List.mem_cons_self
  · refine ⟨c, q, Or.inr ?_, by omega, rfl⟩
    rw [hchains]
    exact List.mem_append_right _ hlater

theorem stored_apply {r : DoubleRatchet B} (hr : r.Keyed) {op : RatchetOp B}
    (ops : List (RatchetOp B)) {entry : UInt64 × B MESSAGE_KEY_SIZE}
    (h : entry ∈ (r.apply P op).receivingChain.skippedMessageKeys) :
    entry ∈ r.receivingChain.skippedMessageKeys ∨ Reaches P r (op :: ops) entry.2 := by
  rcases apply_receiving (P := P) hr op with ⟨-, m, n, -, hn, -, hstored⟩ | ⟨c, -, -, hstored⟩
  · rw [hstored] at h
    rcases List.mem_append.mp h with hold | hnew
    · exact Or.inl hold
    · obtain ⟨c, k, hchain, hk, hkey⟩ := mem_pushed hnew
      refine Or.inr ⟨c, k, Or.inl hchain, ?_, hkey⟩
      show k ≤ reach (ops.length + 1)
      rw [reach_succ]
      omega
  · rw [hstored] at h
    exact Or.inl h

theorem Reaches.of_run {r : DoubleRatchet B} (hr : r.Keyed) {ops rest : List (RatchetOp B)}
    {key : B MESSAGE_KEY_SIZE} (h : Reaches P ((machine P).run r ops) rest key) :
    Reaches P r (ops ++ rest) key := by
  induction ops generalizing r with
  | nil => exact h
  | cons op ops ih => exact (ih (hr.apply op) h).of_apply hr

/-- A stored key was there before, or the run has come to it. -/
theorem stored_run {r : DoubleRatchet B} (hr : r.Keyed) {ops : List (RatchetOp B)}
    (rest : List (RatchetOp B)) {entry : UInt64 × B MESSAGE_KEY_SIZE}
    (h : entry ∈ ((machine P).run r ops).receivingChain.skippedMessageKeys) :
    entry ∈ r.receivingChain.skippedMessageKeys ∨ Reaches P r (ops ++ rest) entry.2 := by
  induction ops generalizing r with
  | nil => exact Or.inl h
  | cons op ops ih =>
    rcases ih (hr.apply op) h with hold | hreached
    · exact stored_apply hr (ops ++ rest) hold
    · exact Or.inr (hreached.of_apply hr)

/-- A stored key stays the key of its number. -/
theorem storedKey_run {r : DoubleRatchet B} (hr : r.Keyed) {number : UInt64}
    {key : B MESSAGE_KEY_SIZE} (h : r.storedKey number = some key) (ops : List (RatchetOp B)) :
    ((machine P).run r ops).storedKey number = some key := by
  induction ops generalizing r with
  | nil => exact h
  | cons op ops ih =>
    refine ih (hr.apply op) ?_
    obtain ⟨more, hmore⟩ := stored_prefix_apply (P := P) hr op
    obtain ⟨entry, hfind, hentry⟩ := Option.map_eq_some_iff.mp h
    show (((r.apply P op).receivingChain.skippedMessageKeys.find? _).map Prod.snd) = some key
    rw [hmore, List.find?_append, hfind]
    exact congrArg some hentry

/-- Where the receiving chain of a run stands: on the chain that was opened
last. -/
theorem place {r : DoubleRatchet B} (h : Starts P r) (ops : List (RatchetOp B)) :
    ∃ p ≤ reach ops.length, ((machine P).run r ops).receivingChain.chainKey =
      (receivingChains P r ops).getLast?.map (fun c => c.advance P p) := by
  induction ops using List.reverseRecOn with
  | nil =>
    refine ⟨0, Nat.zero_le _, ?_⟩
    cases h <;> rfl
  | append_singleton ops op ih =>
    obtain ⟨p, hp, hplace⟩ := ih
    have hlength : reach (ops ++ [op]).length = reach ops.length + (MAX_SKIP_MESSAGES + 1) := by
      rw [List.length_append]
      exact reach_succ ops.length
    have hchains : receivingChains P r (ops ++ [op]) =
        receivingChains P r ops ++ (opens P ((machine P).run r ops) op ++ []) :=
      Machine.trace_append r ops [op]
    rw [Machine.run_append, hchains, hlength, List.append_nil]
    rcases apply_receiving (P := P) (keyed_run h.keyed ops) op with
      ⟨hopens, m, n, hm, -, hmoved, -⟩ | ⟨c, hopens, hchain, -⟩
    · refine ⟨p + m, by omega, ?_⟩
      show (((machine P).run r ops).apply P op).receivingChain.chainKey = _
      rw [hmoved, hplace, hopens, List.append_nil, Option.map_map]
      congr 1
      funext c
      exact ChainKey.advance_advance P c m p
    · refine ⟨0, Nat.zero_le _, ?_⟩
      show (((machine P).run r ops).apply P op).receivingChain.chainKey = _
      rw [hchain, hopens, List.getLast?_concat]
      rfl

end Runs

/-! ## Taking a message -/

section Accept

variable {P : Primitives B} [Serde (RatchetMessageHeader B)]

theorem accepts_pairwise (r : DoubleRatchet B) (op : RatchetOp B) :
    (accepts P r op).Pairwise (· ≠ ·) := by
  cases op with
  | encrypt plaintext => exact List.Pairwise.nil
  | dhRatchet peerRatchetPublic => exact List.Pairwise.nil
  | decrypt ciphertext header =>
    show (match r.decrypt P ciphertext header with
      | .ok _ _ => [(header.dhPublicKey, header.messageNumber, ciphertext)]
      | .error _ _ => []).Pairwise (· ≠ ·)
    cases r.decrypt P ciphertext header with
    | ok plaintext r' => exact List.pairwise_singleton _ _
    | error e r' => exact List.Pairwise.nil

theorem mem_accepts {r : DoubleRatchet B} {op : RatchetOp B}
    {message : B X25519_PUBLIC_KEY_SIZE × UInt64 × Bytes} :
    message ∈ accepts P r op ↔
      ∃ ciphertext header plaintext r', op = .decrypt ciphertext header ∧
        r.decrypt P ciphertext header = .ok plaintext r' ∧
        message = (header.dhPublicKey, header.messageNumber, ciphertext) := by
  constructor
  · intro h
    cases op with
    | encrypt plaintext => exact absurd h List.not_mem_nil
    | dhRatchet peerRatchetPublic => exact absurd h List.not_mem_nil
    | decrypt ciphertext header =>
      unfold accepts at h
      cases hrun : r.decrypt P ciphertext header with
      | error e r' =>
        simp only [hrun] at h
        exact absurd h List.not_mem_nil
      | ok plaintext r' =>
        simp only [hrun] at h
        exact ⟨ciphertext, header, plaintext, r', rfl, hrun, List.mem_singleton.mp h⟩
  · rintro ⟨ciphertext, header, plaintext, r', rfl, hrun, rfl⟩
    unfold accepts
    simp only [hrun]
    exact List.mem_singleton.mpr rfl

/-- Under an ideal AEAD a message opens under one key and one header. -/
theorem openWith_unique [LawfulSerde (RatchetMessageHeader B)] (hideal : P.AeadIdeal)
    {key key' : B MESSAGE_KEY_SIZE} {header header' : RatchetMessageHeader B}
    {ciphertext plaintext plaintext' : Bytes}
    (h : openWith P key header ciphertext = some plaintext)
    (h' : openWith P key' header' ciphertext = some plaintext') :
    key = key' ∧ header = header' := by
  obtain ⟨hkey, -, haad⟩ := hideal.inj _ _ _ _ _ _ _ _ _ (hideal.sealed _ _ _ _ _ h)
    (hideal.sealed _ _ _ _ _ h')
  exact ⟨hkey, toVec_inj haad⟩

/-- A late message is taken, and it stays late. -/
theorem Late.decrypt (hround : P.AeadRoundTrip) {r : DoubleRatchet B} {ciphertext : Bytes}
    {header : RatchetMessageHeader B} (h : Late P r ciphertext header) :
    ∃ plaintext, r.decrypt P ciphertext header = .ok plaintext r := by
  obtain ⟨key, hstored, plaintext, hsealed⟩ := h
  refine ⟨plaintext, ?_⟩
  rw [decrypt_stored P hstored, answer_eq_ok]
  exact ⟨hround _ _ _ _ _ hsealed, rfl⟩

theorem Late.run {r : DoubleRatchet B} (hr : r.Keyed) {ciphertext : Bytes}
    {header : RatchetMessageHeader B} (h : Late P r ciphertext header)
    (ops : List (RatchetOp B)) : Late P ((machine P).run r ops) ciphertext header := by
  obtain ⟨key, hstored, hsealed⟩ := h
  exact ⟨key, storedKey_run hr hstored ops, hsealed⟩

/-- A message that was taken under a key opens only under a key that is stored
or still to come. -/
theorem key_of_decrypt {r r' : DoubleRatchet B} {ciphertext plaintext : Bytes}
    {header : RatchetMessageHeader B} (h : r.decrypt P ciphertext header = .ok plaintext r')
    (rest : List (RatchetOp B)) :
    ∃ key, openWith P key header ciphertext = some plaintext ∧
      ((header.messageNumber, key) ∈ r.receivingChain.skippedMessageKeys ∨
        Reaches P r (.decrypt ciphertext header :: rest) key) := by
  obtain ⟨key, hopen, ⟨hstored, -⟩ | ⟨-, c, hchain, hlimit, rfl, -⟩⟩ := decrypt_eq_ok P h
  · exact ⟨key, hopen, Or.inl (mem_of_storedKey hstored)⟩
  · refine ⟨_, hopen, Or.inr ⟨c, distance c header.messageNumber, Or.inl hchain, ?_, rfl⟩⟩
    show _ ≤ reach (rest.length + 1)
    rw [reach_succ]
    rcases hlimit with hzero | hle <;> omega

/-- A message is taken from the live chain at one position of one chain of the
run, and what is stored or to come after it lies at other positions. -/
theorem live_key_gone {start : DoubleRatchet B} (hstart : Starts P start)
    {before rest : List (RatchetOp B)} {ciphertext : Bytes} {header : RatchetMessageHeader B}
    (hdistinct : DistinctKeys P
      (receivingChains P start (before ++ .decrypt ciphertext header :: rest))
      (reach (before ++ .decrypt ciphertext header :: rest).length))
    {r : DoubleRatchet B} (hr : (machine P).run start before = r)
    (hstored : r.storedKey header.messageNumber = none) {c : ChainKey B}
    (hchain : r.receivingChain.chainKey = some c)
    (hlimit : WithinLimit c r.receivingChain.skippedMessageKeys header.messageNumber)
    (hstate : r.apply P (.decrypt ciphertext header) = r.tried P c header.messageNumber) :
    (header.messageNumber, liveKey P c header.messageNumber) ∉
        (r.tried P c header.messageNumber).receivingChain.skippedMessageKeys ∧
      ¬ Reaches P (r.tried P c header.messageNumber) rest (liveKey P c header.messageNumber) := by
  obtain ⟨p, hp, hplace⟩ := place hstart before
  rw [hr, hchain] at hplace
  obtain ⟨c₀, hlast, rfl⟩ := Option.map_eq_some_iff.mp hplace.symm
  set d := distance (c₀.advance P p) header.messageNumber with hd
  set opened := receivingChains P start before with hopened
  have hkey : liveKey P (c₀.advance P p) header.messageNumber = messageKeyAt P c₀ (p + d) :=
    messageKeyAt_advance P c₀ p d
  have hd_le : d ≤ MAX_SKIP_MESSAGES := by
    rcases hlimit with hzero | hle
    · rw [← hd] at hzero
      omega
    · omega
  have hlength : reach (before ++ .decrypt ciphertext header :: rest).length =
      reach before.length + (MAX_SKIP_MESSAGES + 1) + reach rest.length := by
    rw [List.length_append, List.length_cons, Nat.add_comm rest.length 1, ← Nat.add_assoc,
      reach_add, reach_succ]
  have hchains : receivingChains P start (before ++ .decrypt ciphertext header :: rest) =
      opened ++ receivingChains P (r.tried P (c₀.advance P p) header.messageNumber) rest := by
    have happend : receivingChains P start (before ++ .decrypt ciphertext header :: rest) =
        opened ++ receivingChains P ((machine P).run start before)
          (.decrypt ciphertext header :: rest) := Machine.trace_append start before _
    rw [happend, hr, ← hstate]
    rfl
  rw [hlength, hchains] at hdistinct
  obtain ⟨hsame, hlater⟩ := hdistinct.last hlast
  rw [hkey]
  refine ⟨?_, ?_⟩
  · intro hmem
    rcases List.mem_append.mp hmem with hold | hnew
    · exact not_mem_of_storedKey_none hstored _ hold
    · -- the keys that the call has stored lie before the one it took
      obtain ⟨k, hk, hentry⟩ := List.mem_map.mp hnew
      have hk_lt : k < d := List.mem_range.mp hk
      have hat : messageKeyAt P c₀ (p + k) = messageKeyAt P c₀ (p + d) := by
        rw [← messageKeyAt_advance]
        exact congrArg Prod.snd hentry
      have hpos := hsame _ _ (by omega) (by omega) hat
      omega
  · rintro ⟨c', q, hnow | hnext, hq, hat⟩
    · -- the chain stands behind the key
      obtain rfl : (c₀.advance P p).advance P (d + 1) = c' := Option.some.inj hnow
      rw [messageKeyAt_advance, messageKeyAt_advance] at hat
      have hpos := hsame _ _ (by omega) (by omega) hat
      omega
    · exact hlater c' hnext _ _ (by omega) (by omega) hat

end Accept

end DoubleRatchet

open DoubleRatchet

section Main

variable {P : Primitives B} [Serde (RatchetMessageHeader B)]
  [LawfulSerde (RatchetMessageHeader B)]

/-- A run takes every message at most once if and only if no message comes
again after it came late. -/
theorem accepted_once_iff (hround : P.AeadRoundTrip) (hideal : P.AeadIdeal)
    {start : DoubleRatchet B} (hstart : Starts P start) (ops : List (RatchetOp B))
    (hdistinct : DistinctKeys P (receivingChains P start ops) (reach ops.length)) :
    (accepted P start ops).Nodup ↔
      ∀ before ciphertext header between after,
        ops = before ++ .decrypt ciphertext header ::
          (between ++ .decrypt ciphertext header :: after) →
        ¬ Late P ((machine P).run start before) ciphertext header := by
  unfold List.Nodup accepted
  rw [Machine.pairwise_trace accepts_pairwise]
  constructor
  · intro honce before ciphertext header between after hsplit hlate
    have hkeyed := keyed_run (P := P) hstart.keyed before
    obtain ⟨plaintext, hfirst⟩ := hlate.decrypt hround
    have hagain := hlate.run hkeyed (.decrypt ciphertext header :: between)
    rw [← Machine.run_append] at hagain
    obtain ⟨plaintext', hsecond⟩ := hagain.decrypt hround
    exact honce before _ between _ after hsplit _
      (mem_accepts.mpr ⟨_, _, _, _, rfl, hfirst, rfl⟩) _
      (mem_accepts.mpr ⟨_, _, _, _, rfl, hsecond, rfl⟩) rfl
  · intro hcond before op between op' after hsplit message hfirst message' hsecond hsame
    obtain ⟨ciphertext, header, plaintext, r', rfl, hrun, rfl⟩ := mem_accepts.mp hfirst
    obtain ⟨ciphertext', header', plaintext', s', rfl, hrun', rfl⟩ := mem_accepts.mp hsecond
    obtain rfl : ciphertext = ciphertext' := congrArg (fun m => m.2.2) hsame
    obtain ⟨key, hopen, hhow⟩ := decrypt_eq_ok P hrun
    obtain ⟨key', hopen', hhow'⟩ := key_of_decrypt hrun' after
    obtain ⟨rfl, rfl⟩ := openWith_unique hideal hopen hopen'
    rcases hhow with ⟨hstored, -⟩ | ⟨hnone, c, hchain, hlimit, rfl, rfl⟩
    · exact hcond before _ _ between after hsplit
        ⟨key, hstored, plaintext, hideal.sealed _ _ _ _ _ hopen⟩
    · -- taken from the live chain, the key cannot turn up again
      have hstate : ((machine P).run start before).apply P (.decrypt ciphertext header) =
          ((machine P).run start before).tried P c header.messageNumber :=
        congrArg Outcome.state hrun
      rw [hsplit] at hdistinct
      obtain ⟨hgone, hnever⟩ :=
        live_key_gone hstart hdistinct rfl hnone hchain hlimit hstate
      have hkeyed := (keyed_run (P := P) hstart.keyed before).apply (P := P)
        (.decrypt ciphertext header)
      rw [hstate] at hkeyed
      have hbetween : (machine P).run start (before ++ .decrypt ciphertext header :: between) =
          (machine P).run (((machine P).run start before).tried P c header.messageNumber)
            between := by
        rw [Machine.run_append, ← hstate]
        rfl
      rw [hbetween] at hhow'
      rcases hhow' with hstored | hreached
      · rcases stored_run hkeyed (.decrypt ciphertext header :: after) hstored with hold | hreached
        · exact hgone hold
        · exact hnever hreached
      · exact hnever (hreached.of_run hkeyed)

end Main

/-! ## A late message -/

namespace Sym

theorem length_advance_lt (c : ChainKey Sym) (p k : Nat) :
    (c.advance primitives p).key.length < (c.advance primitives (p + k + 1)).key.length := by
  induction k with
  | zero =>
    rw [ChainKey.advance_succ]
    exact length_lt_hmacSha256 _ _
  | succ k ih =>
    rw [ChainKey.advance_succ primitives c (p + (k + 1))]
    exact ih.trans (length_lt_hmacSha256 _ _)

theorem distinctKeys_singleton (c : ChainKey Sym) (n : Nat) : DistinctKeys primitives [c] n := by
  have hone : ∀ p q, p < q → messageKeyAt primitives c p ≠ messageKeyAt primitives c q := by
    intro p q hlt hkey
    obtain ⟨k, rfl⟩ := Nat.exists_eq_add_of_lt hlt
    have hlength := length_advance_lt c p k
    rw [hmacSha256_inj hkey] at hlength
    omega
  intro i j c₁ c₂ p q hi hj _ _ hkey
  have honly : ∀ k c', [c][k]? = some c' → k = 0 ∧ c = c' := by
    intro k c' hk
    cases k with
    | zero => exact ⟨rfl, Option.some.inj hk⟩
    | succ k => cases hk
  obtain ⟨rfl, rfl⟩ := honly i c₁ hi
  obtain ⟨rfl, rfl⟩ := honly j c₂ hj
  refine ⟨rfl, ?_⟩
  rcases Nat.lt_trichotomy p q with hlt | heq | hgt
  · exact absurd hkey (hone p q hlt)
  · exact heq
  · exact absurd hkey.symm (hone q p hgt)

/-- The messages that a sender makes of some texts. -/
def mail (r : DoubleRatchet Sym) : List Bytes → List (Bytes × RatchetMessageHeader Sym)
  | [] => []
  | text :: texts =>
    match r.encrypt primitives text with
    | .ok message r => message :: mail r texts
    | .error _ r => mail r texts

/-- Two messages of the initiator. -/
def twoMessages : List (Bytes × RatchetMessageHeader Sym) :=
  mail (.init primitives "presidium-session" ⟨[20]⟩ [21] (primitives.x25519Public [22]) []) [[1], [2]]

def receiver : DoubleRatchet Sym := .initAsResponder "presidium-session" ⟨[20]⟩ [22] []

/-- The receiver ratchets with the key of the sender and gets messages by their
place in the mail. -/
def deliveries (places : List Nat) : List (RatchetOp Sym) :=
  .dhRatchet (primitives.x25519Public [21]) ::
    (places.filterMap (twoMessages[·]?)).map fun m => .decrypt m.1 m.2

theorem distinctKeys_deliveries {places : List Nat}
    (h : (receivingChains primitives receiver (deliveries places)).length = 1) (n : Nat) :
    DistinctKeys primitives (receivingChains primitives receiver (deliveries places)) n := by
  obtain ⟨c, hc⟩ := List.length_eq_one_iff.mp h
  rw [hc]
  exact distinctKeys_singleton c n

end Sym

/-- In order, a message is taken once and its replay is refused. -/
theorem accepted_once_inOrder :
    (accepted Sym.primitives Sym.receiver (Sym.deliveries [0, 0])).length = 1 ∧
      ∀ before ciphertext header between after,
        Sym.deliveries [0, 0] = before ++ .decrypt ciphertext header ::
          (between ++ .decrypt ciphertext header :: after) →
        ¬ Late Sym.primitives ((machine Sym.primitives).run Sym.receiver before) ciphertext
          header := by
  have hlength : (accepted Sym.primitives Sym.receiver (Sym.deliveries [0, 0])).length = 1 := by
    decide +kernel
  refine ⟨hlength, ?_⟩
  have hstart : Starts Sym.primitives Sym.receiver := .responder _ _ _ _
  have hchains : (receivingChains Sym.primitives Sym.receiver (Sym.deliveries [0, 0])).length =
      1 := by decide +kernel
  refine (accepted_once_iff Sym.aeadRoundTrip Sym.aeadIdeal hstart _
    (Sym.distinctKeys_deliveries hchains _)).mp ?_
  obtain ⟨message, hmessage⟩ := List.length_eq_one_iff.mp hlength
  rw [hmessage]
  exact List.pairwise_singleton _ _

/-- The second message overtakes the first, which is then taken twice. -/
theorem late_message_taken_twice :
    DistinctKeys Sym.primitives
        (receivingChains Sym.primitives Sym.receiver (Sym.deliveries [1, 0, 0]))
        (reach (Sym.deliveries [1, 0, 0]).length) ∧
      ¬ (accepted Sym.primitives Sym.receiver (Sym.deliveries [1, 0, 0])).Nodup := by
  refine ⟨Sym.distinctKeys_deliveries (by decide +kernel) _, ?_⟩
  decide +kernel

end Presidium
