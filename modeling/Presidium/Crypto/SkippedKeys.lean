import Presidium.Crypto.RatchetWindow
import Presidium.Crypto.Replay

/-!
# The store of skipped message keys

`SkippedSound` is what one expects of the list of stored keys: at most
`MAX_SKIP_MESSAGES` entries, one per message number, all behind the chain, and
each with the key of its number on the chain that the receiving side is on.

The source does not keep this.  Two calls break it:

* A `decrypt` beyond the limit.  The catch-up loop stores a key before it
  tests the limit and before it moves the chain, so the call leaves one entry
  too many.
* A `dh_ratchet` while keys are stored.  They stay, next to a chain that starts
  at zero.

`Orderly` is a call that does neither.  `skipped_keys_sound_iff` says that
these two are the only ways, as long as the `u64` counter of the chain does
not run over (`HasRoom`).  The invariant behind it is `Tidy`: the receiving
side is a window (`Tracks`) over the chain that was opened last.
-/

namespace Presidium

variable {B : Nat → Type}

namespace DoubleRatchet

section Definitions

variable (P : Primitives B)

/-- The stored keys are as they should be, on the chain that was opened last. -/
structure SkippedSound (opened : Option (ChainKey B)) (r : DoubleRatchet B) : Prop where
  bounded : r.receivingChain.skippedMessageKeys.length ≤ MAX_SKIP_MESSAGES
  distinct : (r.receivingChain.skippedMessageKeys.map Prod.fst).Nodup
  below : ∀ entry ∈ r.receivingChain.skippedMessageKeys,
    ∃ c, r.receivingChain.chainKey = some c ∧ entry.1 < c.index
  keys : ∀ entry ∈ r.receivingChain.skippedMessageKeys,
    ∃ c, opened = some c ∧ entry.2 = messageKeyAt P c entry.1.toNat

/-- The call stays within the limit, and it does not leave a chain whose keys
are still stored. -/
def Orderly (r : DoubleRatchet B) : RatchetOp B → Prop
  | .encrypt _ => True
  | .decrypt _ header =>
    r.storedKey header.messageNumber = none → ∀ c, r.receivingChain.chainKey = some c →
      WithinLimit c r.receivingChain.skippedMessageKeys header.messageNumber
  | .dhRatchet _ => r.receivingChain.skippedMessageKeys = []

/-- The counter of the receiving chain has room for one more call.  A call
moves it by at most `MAX_SKIP_MESSAGES + 1`, whatever number it asks for. -/
def HasRoom (r : DoubleRatchet B) : Prop :=
  ∀ c, r.receivingChain.chainKey = some c → c.index.toNat + MAX_SKIP_MESSAGES + 1 < 2 ^ 64

/-- The receiving side is a window over the chain `c`, with its books in
order. -/
structure Tidy (c : ChainKey B) (w : Window) (r : DoubleRatchet B) : Prop
    extends Tracks P c w r where
  zero : c.index = 0
  distinct : w.skipped.Nodup
  below : ∀ k ∈ w.skipped, k < w.next
  room : w.next < 2 ^ 64
  bounded : w.skipped.length ≤ MAX_SKIP_MESSAGES

/-- Nothing is stored before the first chain, and after that the receiving side
is tidy. -/
inductive Kept : Option (ChainKey B) → DoubleRatchet B → Prop
  | unopened {r : DoubleRatchet B} (hchain : r.receivingChain.chainKey = none)
      (hempty : r.receivingChain.skippedMessageKeys = []) : Kept none r
  | opened {c : ChainKey B} {w : Window} {r : DoubleRatchet B} (h : r.Tidy P c w) :
      Kept (some c) r

/-- The chain that a run opened last. -/
def lastOpened [Serde (RatchetMessageHeader B)] (r : DoubleRatchet B)
    (ops : List (RatchetOp B)) : Option (ChainKey B) :=
  (receivingChains P r ops).getLast?

end Definitions

variable {P : Primitives B}

/-! ## The store of a tidy ratchet -/

theorem Tidy.sound {c : ChainKey B} {w : Window} {r : DoubleRatchet B} (h : r.Tidy P c w) :
    SkippedSound P (some c) r := by
  have hlt : ∀ k ∈ w.skipped, k < 2 ^ 64 := fun k hk => (h.below k hk).trans h.room
  have hnumbers : r.receivingChain.skippedMessageKeys.map Prod.fst =
      w.skipped.map UInt64.ofNat := by
    rw [h.stored, List.map_map]
    rfl
  have hentry : ∀ entry ∈ r.receivingChain.skippedMessageKeys,
      ∃ k ∈ w.skipped, entryAt P c k = entry := by
    intro entry hentry
    rw [h.stored] at hentry
    exact List.mem_map.mp hentry
  refine ⟨?_, ?_, ?_, ?_⟩
  · rw [h.stored, List.length_map]
    exact h.bounded
  · rw [hnumbers]
    exact h.distinct.map_on fun j hj k hk hjk => ofNat_inj_of_lt (hlt j hj) (hlt k hk) hjk
  · intro entry hmem
    obtain ⟨k, hk, rfl⟩ := hentry entry hmem
    refine ⟨_, h.chain, ?_⟩
    show UInt64.ofNat k < (c.advance P w.next).index
    rw [advance_index_of_zero P h.zero, UInt64.lt_iff_toNat_lt,
      UInt64.toNat_ofNat_of_lt' (hlt k hk), UInt64.toNat_ofNat_of_lt' h.room]
    exact h.below k hk
  · intro entry hmem
    obtain ⟨k, hk, rfl⟩ := hentry entry hmem
    refine ⟨c, rfl, ?_⟩
    show messageKeyAt P c k = messageKeyAt P c (UInt64.ofNat k).toNat
    rw [UInt64.toNat_ofNat_of_lt' (hlt k hk)]

theorem Kept.sound {opened : Option (ChainKey B)} {r : DoubleRatchet B}
    (h : Kept P opened r) : SkippedSound P opened r := by
  cases h with
  | opened h => exact h.sound
  | unopened hchain hempty =>
    refine ⟨?_, ?_, ?_, ?_⟩ <;> rw [hempty] <;> simp

/-- The books speak of the receiving chain only. -/
theorem Kept.congr {opened : Option (ChainKey B)} {r r' : DoubleRatchet B}
    (h : Kept P opened r) (hsame : r'.receivingChain = r.receivingChain) :
    Kept P opened r' := by
  cases h with
  | unopened hchain hempty =>
    rw [← hsame] at hchain hempty
    exact .unopened hchain hempty
  | opened h =>
    refine .opened (w := _) ⟨⟨?_, ?_⟩, h.zero, h.distinct, h.below, h.room, h.bounded⟩
    · rw [hsame]
      exact h.chain
    · rw [hsame]
      exact h.stored

/-! ## One call -/

theorem Tidy.tried {c : ChainKey B} {w : Window} {r : DoubleRatchet B} (h : r.Tidy P c w)
    {number : UInt64}
    (hroom : w.next + distance (c.advance P w.next) number + 1 < 2 ^ 64)
    (hlimit : WithinLimit (c.advance P w.next) r.receivingChain.skippedMessageKeys number) :
    (r.tried P (c.advance P w.next) number).Tidy P c
      (w.jump (distance (c.advance P w.next) number)) := by
  generalize hd : distance (c.advance P w.next) number = d at hroom
  unfold DoubleRatchet.tried
  rw [hd, ChainKey.advance_advance, skippedRange_advance P h.zero, h.stored, ← List.map_append]
  refine ⟨⟨rfl, rfl⟩, h.zero, ?_, ?_, ?_, ?_⟩
  · refine h.distinct.append List.nodup_range' ?_
    intro k hk hnew
    have hbelow := h.below k hk
    have hfrom := (List.mem_range'_1.mp hnew).1
    omega
  · intro k hk
    show k < w.next + (d + 1)
    rcases List.mem_append.mp hk with hold | hnew
    · have hbelow := h.below k hold
      omega
    · have hupto := (List.mem_range'_1.mp hnew).2
      omega
  · show w.next + (d + 1) < 2 ^ 64
    omega
  · show (w.skipped ++ List.range' w.next d).length ≤ MAX_SKIP_MESSAGES
    rw [List.length_append, List.length_range']
    have hbounded := h.bounded
    rcases hlimit with hzero | hle
    · omega
    · rw [hd, h.stored, List.length_map] at hle
      exact hle

/-- A chain that was opened just now, with nothing stored. -/
theorem tidy_ratcheted {r : DoubleRatchet B} {ourKey : B X25519_PRIVATE_KEY_SIZE}
    {peerRatchetPublic : B X25519_PUBLIC_KEY_SIZE}
    (hempty : r.receivingChain.skippedMessageKeys = []) :
    (r.ratcheted P ourKey peerRatchetPublic).Tidy P
      (r.rootKey.ratchetStep P (P.diffieHellman ourKey peerRatchetPublic)).2 Window.empty where
  chain := rfl
  stored := hempty
  zero := rfl
  distinct := List.nodup_nil
  below := by simp [Window.empty]
  room := by simp [Window.empty]
  bounded := Nat.zero_le _

theorem Starts.kept {r : DoubleRatchet B} (h : Starts P r) : Kept P none r := by
  cases h with
  | initiator => exact .unopened rfl rfl
  | responder => exact .unopened rfl rfl

variable [Serde (RatchetMessageHeader B)]

theorem Kept.decrypt {opened : Option (ChainKey B)} {r : DoubleRatchet B} (h : Kept P opened r)
    {ciphertext : Bytes} {header : RatchetMessageHeader B}
    (horderly : r.Orderly (.decrypt ciphertext header))
    (hroom : r.HasRoom) :
    Kept P opened (r.decrypt P ciphertext header).state := by
  cases hstored : r.storedKey header.messageNumber with
  | some key =>
    rw [decrypt_stored P hstored, answer_state]
    exact h
  | none =>
    cases h with
    | unopened hchain hempty =>
      rw [decrypt_noChain P hstored hchain]
      exact .unopened hchain hempty
    | @opened c w _ h =>
      have hlimit := horderly hstored _ h.chain
      have hindex : (c.advance P w.next).index.toNat = w.next := by
        rw [advance_index_of_zero P h.zero, UInt64.toNat_ofNat_of_lt' h.room]
      have hroom : w.next + distance (c.advance P w.next) header.messageNumber + 1 < 2 ^ 64 := by
        have hcounter := hroom _ h.chain
        rw [hindex] at hcounter
        rcases hlimit with hzero | hle <;> omega
      rw [decrypt_live P hstored h.chain, if_pos hlimit, answer_state]
      exact .opened (h.tried hroom hlimit)

/-- An orderly call keeps the books, on the chain that it opens or on the one
of before. -/
theorem Kept.apply {opened : Option (ChainKey B)} {r : DoubleRatchet B} (hr : r.Keyed)
    (h : Kept P opened r) {op : RatchetOp B} (horderly : r.Orderly op) (hroom : r.HasRoom) :
    Kept P ((opens P r op).getLast?.or opened) (r.apply P op) := by
  cases op with
  | encrypt plaintext => exact h.congr (encrypt_state r plaintext).1
  | decrypt ciphertext header => exact h.decrypt horderly hroom
  | dhRatchet peerRatchetPublic =>
    obtain ⟨ourKey, hour⟩ := hr.sendingKey
    have hstate : (r.dhRatchet P peerRatchetPublic).state =
        r.ratcheted P ourKey peerRatchetPublic := by
      rw [dhRatchet_eq P hr.noReceivingKey hour, Outcome.state_ok]
    show Kept P (((r.dhRatchet P peerRatchetPublic).state.receivingChain.chainKey.toList).getLast?.or
      opened) (r.dhRatchet P peerRatchetPublic).state
    rw [hstate]
    exact .opened (tidy_ratcheted horderly)

/-- A call that leaves the store sound was orderly. -/
theorem orderly_of_sound {opened : Option (ChainKey B)} {r : DoubleRatchet B} (hr : r.Keyed)
    {op : RatchetOp B} (h : SkippedSound P opened (r.apply P op)) : r.Orderly op := by
  cases op with
  | encrypt plaintext => trivial
  | decrypt ciphertext header =>
    intro hstored c hchain
    by_contra hlimit
    have hstate : r.apply P (.decrypt ciphertext header) = r.overrun P c := by
      show (r.decrypt P ciphertext header).state = _
      rw [decrypt_live P hstored hchain, if_neg hlimit, Outcome.state_error]
    have hbounded := h.bounded
    rw [hstate] at hbounded
    -- the loop has stored one key more than the limit allows
    have hlength : (r.overrun P c).receivingChain.skippedMessageKeys.length =
        r.receivingChain.skippedMessageKeys.length +
          (MAX_SKIP_MESSAGES - r.receivingChain.skippedMessageKeys.length + 1) := by
      show (r.receivingChain.skippedMessageKeys ++ skippedRange P c _).length = _
      rw [List.length_append, skippedRange_length]
    omega
  | dhRatchet peerRatchetPublic =>
    obtain ⟨ourKey, hour⟩ := hr.sendingKey
    have hstate : r.apply P (.dhRatchet peerRatchetPublic) =
        r.ratcheted P ourKey peerRatchetPublic := by
      show (r.dhRatchet P peerRatchetPublic).state = _
      rw [dhRatchet_eq P hr.noReceivingKey hour, Outcome.state_ok]
    apply List.eq_nil_iff_forall_not_mem.mpr
    intro entry hentry
    rw [hstate] at h
    obtain ⟨c, hchain, hlt⟩ := h.below entry hentry
    -- no number is below the index of a chain that was opened just now
    have hzero : c.index = 0 := by
      rw [← Option.some.inj hchain]
      rfl
    rw [hzero] at hlt
    exact absurd hlt (UInt64.not_lt_zero)

/-! ## Whole runs -/

theorem lastOpened_concat (r : DoubleRatchet B) (ops : List (RatchetOp B)) (op : RatchetOp B) :
    lastOpened P r (ops ++ [op]) =
      (opens P ((machine P).run r ops) op).getLast?.or (lastOpened P r ops) := by
  have hchains : receivingChains P r (ops ++ [op]) =
      receivingChains P r ops ++ (opens P ((machine P).run r ops) op ++ []) :=
    Machine.trace_append r ops [op]
  unfold lastOpened
  rw [hchains, List.append_nil, List.getLast?_append]

/-- A run of orderly calls keeps the books. -/
theorem Starts.kept_run {start : DoubleRatchet B} (hstart : Starts P start)
    (ops : List (RatchetOp B))
    (hcalls : ∀ before op after, ops = before ++ op :: after →
      ((machine P).run start before).Orderly op ∧ ((machine P).run start before).HasRoom) :
    Kept P (lastOpened P start ops) ((machine P).run start ops) := by
  induction ops using List.reverseRecOn with
  | nil => exact hstart.kept
  | append_singleton ops op ih =>
    obtain ⟨horderly, hroom⟩ := hcalls ops op [] rfl
    have hkept := ih fun before op' after hsplit =>
      hcalls before op' (after ++ [op]) (by rw [hsplit, List.append_assoc]; rfl)
    rw [lastOpened_concat, Machine.run_append]
    exact hkept.apply (keyed_run hstart.keyed ops) horderly hroom

/-- What the last call of a run was, by the store it leaves. -/
theorem Starts.orderly_of_sound {start : DoubleRatchet B} (hstart : Starts P start)
    {ops : List (RatchetOp B)} {op : RatchetOp B}
    (h : SkippedSound P (lastOpened P start (ops ++ [op]))
      ((machine P).run start (ops ++ [op]))) :
    ((machine P).run start ops).Orderly op := by
  rw [Machine.run_append] at h
  exact DoubleRatchet.orderly_of_sound (keyed_run hstart.keyed ops) h

end DoubleRatchet

open DoubleRatchet

section Main

variable {P : Primitives B} [Serde (RatchetMessageHeader B)]

/-- The store of skipped keys is sound in every state of a run if and only if
every call of the run is orderly.  The counter of the receiving chain must not
run over. -/
theorem skipped_keys_sound_iff {start : DoubleRatchet B} (hstart : Starts P start)
    (ops : List (RatchetOp B))
    (hroom : ∀ before op after, ops = before ++ op :: after →
      ((machine P).run start before).HasRoom) :
    (∀ done rest, ops = done ++ rest →
        SkippedSound P (lastOpened P start done) ((machine P).run start done)) ↔
      ∀ before op after, ops = before ++ op :: after →
        ((machine P).run start before).Orderly op := by
  constructor
  · intro hsound before op after hsplit
    have hafter := hsound (before ++ [op]) after (by rw [hsplit, List.append_assoc]; rfl)
    exact hstart.orderly_of_sound hafter
  · intro horderly done rest hsplit
    refine (hstart.kept_run done ?_).sound
    rintro before op after rfl
    have hwhole : ops = before ++ op :: (after ++ rest) := by
      rw [hsplit, List.append_assoc]
      rfl
    exact ⟨horderly before op _ hwhole, hroom before op _ hwhole⟩

end Main

namespace Sym

/-- A header with a number beyond the limit. -/
def farHeader : RatchetMessageHeader Sym :=
  { dhPublicKey := primitives.x25519Public [21], messageNumber := 1001, previousMessageNumber := 0 }

/-- The first message that comes has that number. -/
def farAhead : List (RatchetOp Sym) := deliveries [] ++ [.decrypt [] farHeader]

/-- A new peer key comes while a key is stored. -/
def reopened : List (RatchetOp Sym) :=
  deliveries [1] ++ [.dhRatchet (primitives.x25519Public [24])]

end Sym

/-- The second message comes first, and the key of the first one is stored. -/
theorem skipped_keys_sound_overtaken :
    ((machine Sym.primitives).run Sym.receiver
        (Sym.deliveries [1])).receivingChain.skippedMessageKeys.length = 1 ∧
      SkippedSound Sym.primitives (lastOpened Sym.primitives Sym.receiver (Sym.deliveries [1]))
        ((machine Sym.primitives).run Sym.receiver (Sym.deliveries [1])) := by
  have hstart : Starts Sym.primitives Sym.receiver := .responder _ _ _ _
  refine ⟨by decide +kernel, ?_⟩
  obtain ⟨m, hops, hnumber⟩ : ∃ m : Bytes × RatchetMessageHeader Sym, Sym.deliveries [1] =
      [.dhRatchet (Sym.primitives.x25519Public [21]), .decrypt m.1 m.2] ∧
        m.2.messageNumber = 1 := ⟨_, rfl, by decide +kernel⟩
  refine (skipped_keys_sound_iff hstart (Sym.deliveries [1]) ?_).mpr ?_ _ []
    (List.append_nil _).symm
  · rw [hops]
    refine Machine.forall_steps_cons (Q := fun r _ => HasRoom r) ?_
      (Machine.forall_steps_cons (Q := fun r _ => HasRoom r) ?_ ?_)
    · intro c hc
      cases hc
    · intro c hc
      obtain rfl := Option.some.inj hc
      decide
    · exact Machine.forall_steps_nil (Q := fun r _ => HasRoom r) _
  · rw [hops]
    refine Machine.forall_steps_cons rfl (Machine.forall_steps_cons ?_ ?_)
    · intro _ c hc
      obtain rfl := Option.some.inj hc
      rw [hnumber]
      decide
    · exact Machine.forall_steps_nil _

/-- One message number beyond the limit leaves an entry too many, and a stored
key outlives its chain. -/
theorem skipped_keys_unsound :
    Starts Sym.primitives Sym.receiver ∧
      ¬ SkippedSound Sym.primitives (lastOpened Sym.primitives Sym.receiver Sym.farAhead)
        ((machine Sym.primitives).run Sym.receiver Sym.farAhead) ∧
      ¬ SkippedSound Sym.primitives (lastOpened Sym.primitives Sym.receiver Sym.reopened)
        ((machine Sym.primitives).run Sym.receiver Sym.reopened) := by
  have hstart : Starts Sym.primitives Sym.receiver := .responder _ _ _ _
  refine ⟨hstart, ?_, ?_⟩
  · intro hsound
    have hlimit := hstart.orderly_of_sound hsound rfl _ rfl
    revert hlimit
    decide
  · intro hsound
    have hempty := hstart.orderly_of_sound hsound
    have hlength := congrArg List.length hempty
    revert hlength
    decide +kernel

end Presidium
