import Presidium.Crypto.RatchetWindow
import Presidium.Demo.Process
import Presidium.Demo.Steady
import Presidium.Demo.SymbolicJson

/-!
# Crashes and restarts of the initiator

The position of the sending chain decides whether a message key is used twice.
It only ever moves forward in memory, and a restart sets it back to the
position on disk.  `Inv` relates the two positions to the envelopes that were
sent, and `Inv.step` is its step lemma.

`sealed_once_of_clean_restarts` is what follows: if every restart is clean, no
two envelopes share a key and a number.  A restart that is not clean sends the
next message under a key that was used before.
-/

namespace Presidium

variable {B : Nat → Type}

namespace Process

/-! ## The invariant -/

section Invariant

variable (P : Primitives B) (c₀ : ChainKey B)

/-- A session of this conversation that has called `encrypt` `n` times on the
chain that started at `c₀`. -/
structure Stands (id : String) (s : ChatSession B) (n : Nat) : Prop where
  conversation : s.conversationId = id
  keyed : s.ratchet.Keyed
  chain : s.ratchet.sendingChain.chainKey = some (c₀.advance P n)

/-- Every envelope of the log was sealed before position `n`. -/
def Before (log : List (Sealed B)) (n : Nat) : Prop := ∀ e ∈ log, e.number.toNat < n

/-- Position `n` lies behind the log, and behind the pending envelope. -/
def Ahead (log : List (Sealed B)) (stage : Stage B) (n : Nat) : Prop :=
  match stage.pending with
  | none => Before log n
  | some message => ∃ k, n = k + 1 ∧ message.number = UInt64.ofNat k ∧ Before log k

variable [Serde (SessionKeys B)] [Serde (RatchetSnapshot B)]

/-- What every run with clean restarts keeps.  In memory the chain is ahead of
the log; on disk it is ahead of what was in the log when the session was last
persisted. -/
structure Inv (p : Process B) : Prop where
  responder : p.app.responder = none
  calls : p.calls < 2 ^ 64
  disk : ∃ s m, resume p.app.store.db p.app.store.deviceId = .ok (some s) ∧
    Stands P c₀ p.app.store.deviceId s m ∧ m ≤ p.calls ∧ (p.clean = true → Before p.log m)
  live : p.stage ≠ .stopped → ∃ s n, p.app.session = some s ∧
    Stands P c₀ p.app.store.deviceId s n ∧ n ≤ p.calls ∧ Ahead p.log p.stage n
  once : p.log.Pairwise fun a b => a.number ≠ b.number

variable {P} {c₀}

omit [Serde (SessionKeys B)] [Serde (RatchetSnapshot B)] in
theorem Stands.of_sameSending {id : String} {s s' : ChatSession B} {n : Nat}
    (h : Stands P c₀ id s n) (hsame : s.SameSending s') : Stands P c₀ id s' n := by
  obtain ⟨hkeyed, hchain⟩ := hsame.chain h.keyed
  exact ⟨hsame.conversation.trans h.conversation, hkeyed, hchain.trans h.chain⟩

/-- A steady step to a stage with the same pending envelope, or to the end. -/
theorem Inv.steady {p : Process B} (h : Inv P c₀ p) {app : App B} (happ : p.app.Steady app)
    {stage : Stage B}
    (hstage : stage ≠ .stopped → p.stage ≠ .stopped ∧ stage.pending = p.stage.pending) :
    Inv P c₀ { p with app, stage } := by
  refine ⟨happ.responder.trans h.responder, h.calls, ?_, ?_, h.once⟩
  · obtain ⟨s, m, hresume, hstands, hm, hclean⟩ := h.disk
    refine ⟨s, m, ?_, ?_, hm, hclean⟩
    · rw [happ.deviceId, resume_congr happ.sessions]
      exact hresume
    · rw [happ.deviceId]
      exact hstands
  · intro hlive
    obtain ⟨hold, hpending⟩ := hstage hlive
    obtain ⟨s, n, hsession, hstands, hn, hahead⟩ := h.live hold
    obtain ⟨s', hsession', hsame⟩ := happ.session s hsession
    refine ⟨s', n, hsession', ?_, hn, ?_⟩
    · rw [happ.deviceId]
      exact hstands.of_sameSending hsame
    · show Ahead p.log stage n
      unfold Ahead at hahead ⊢
      rwa [hpending]

/-- Going on after a steady program. -/
theorem Inv.follow {p : Process B} (h : Inv P c₀ p) {out : Outcome AppError (App B) Unit}
    (happ : p.app.Steady out.state) {next : Stage B} (hlive : p.stage ≠ .stopped)
    (hpending : next.pending = p.stage.pending) : Inv P c₀ (p.follow next out) := by
  cases out with
  | ok _ app => exact h.steady happ fun _ => ⟨hlive, hpending⟩
  | error e app => exact h.steady happ fun hstopped => absurd rfl hstopped

/-! ### Encrypting -/

section Encrypt

variable [Serde (HybridSignature B)] [Serde (RatchetMessageHeader B)]

omit [Serde (SessionKeys B)] [Serde (RatchetSnapshot B)] in
/-- `encrypt` moves a session on by one position, whatever its exit. -/
theorem Stands.encrypt {id : String} {s : ChatSession B} {n : Nat} (h : Stands P c₀ id s n)
    (identity : IdentityKeyPair B) (deviceId : String) (plaintext : Bytes) (now : Int) :
    Stands P c₀ id (s.encrypt P identity deviceId plaintext now).state (n + 1) := by
  have hkeyed : (s.ratchet.encrypt P plaintext).state.Keyed := h.keyed.apply (.encrypt plaintext)
  have hsent : (s.ratchet.encrypt P plaintext).state = s.ratchet.sent P (c₀.advance P n) := by
    rw [DoubleRatchet.encrypt_of_chain P h.chain]
    cases s.ratchet.sealWith P (c₀.advance P n) plaintext <;> rfl
  have hratchet : (s.encrypt P identity deviceId plaintext now).state =
      { s with ratchet := (s.ratchet.encrypt P plaintext).state } := by
    unfold ChatSession.encrypt
    cases s.ratchet.encrypt P plaintext <;> rfl
  rw [hratchet]
  refine ⟨h.conversation, hkeyed, ?_⟩
  show (s.ratchet.encrypt P plaintext).state.sendingChain.chainKey = _
  rw [hsent, ChainKey.advance_succ]
  rfl

theorem Inv.sealText (hzero : c₀.index = 0) {p : Process B} (h : Inv P c₀ p)
    (hidle : p.stage = .idle) (hcalls : p.calls + 1 < 2 ^ 64) (peer : PeerId) (plaintext : Bytes)
    (now : Int) {next : Sealed B → Stage B} (hnext : ∀ m, (next m).pending = some m) :
    Inv P c₀ (p.sealText P peer plaintext now next) := by
  obtain ⟨s, n, hsession, hstands, hn, hahead⟩ := h.live (by rw [hidle]; simp)
  have hbefore : Before p.log n := by rwa [hidle] at hahead
  have hmoved := hstands.encrypt p.app.store.identity p.app.store.deviceId plaintext now
  have hkey : (p.app.session.bind fun s => s.ratchet.nextKey P) =
      some (((c₀.advance P n).messageKey P).key, UInt64.ofNat n) := by
    rw [hsession, ← advance_index_of_zero P hzero n]
    exact DoubleRatchet.nextKey_of_chain hstands.chain
  obtain ⟨s₀, m, hresume, hstands₀, hm, hclean⟩ := h.disk
  cases hrun : s.encrypt P p.app.store.identity p.app.store.deviceId plaintext now with
  | ok envelope s' =>
    have hencrypt : App.encrypt P plaintext now p.app =
        .ok envelope { p.app with session := some s' } :=
      (Outcome.bind_ok rfl).trans (App.onSession_ok hsession hrun _)
    rw [hrun] at hmoved
    rw [sealText_ok hkey hencrypt]
    refine ⟨h.responder, hcalls, ⟨s₀, m, hresume, hstands₀, Nat.le_succ_of_le hm, hclean⟩, ?_, h.once⟩
    intro _
    refine ⟨s', n + 1, rfl, hmoved, Nat.succ_le_succ hn, ?_⟩
    unfold Ahead
    rw [hnext]
    exact ⟨n, rfl, rfl, hbefore⟩
  | error e s' =>
    have hencrypt : App.encrypt P plaintext now p.app =
        .error e { p.app with session := some s' } :=
      (Outcome.bind_ok rfl).trans (App.onSession_error hsession hrun _)
    rw [sealText_error hencrypt]
    refine ⟨h.responder, hcalls, ⟨s₀, m, hresume, hstands₀, Nat.le_succ_of_le hm, hclean⟩, ?_, h.once⟩
    exact fun hstopped => absurd rfl hstopped

end Encrypt

/-! ### Sending -/

theorem Inv.send {p : Process B} (h : Inv P c₀ p) {message : Sealed B}
    (hstage : p.stage = .stored message) {app : App B} (happ : p.app.Steady app) :
    Inv P c₀ { p with app, stage := .sent, log := p.log ++ [message], clean := false } := by
  have hlive : p.stage ≠ .stopped := by rw [hstage]; simp
  obtain ⟨s, n, hsession, hstands, hn, hahead⟩ := h.live hlive
  rw [hstage] at hahead
  obtain ⟨k, rfl, hnumber, hbefore⟩ := hahead
  have hcalls := h.calls
  have hk : message.number.toNat = k := by
    have hlt : k < 2 ^ 64 := by omega
    rw [hnumber, UInt64.toNat_ofNat_of_lt' hlt]
  have hsteady : Inv P c₀ { p with app, stage := .stopped } :=
    h.steady happ fun hstopped => absurd rfl hstopped
  refine ⟨hsteady.responder, h.calls, ?_, ?_, ?_⟩
  · obtain ⟨s₀, m, hresume, hstands₀, hm, -⟩ := hsteady.disk
    exact ⟨s₀, m, hresume, hstands₀, hm, fun hclean => by cases hclean⟩
  · intro _
    obtain ⟨s', hsession', hsame⟩ := happ.session s hsession
    refine ⟨s', k + 1, hsession', ?_, hn, ?_⟩
    · show Stands P c₀ app.store.deviceId s' (k + 1)
      rw [happ.deviceId]
      exact hstands.of_sameSending hsame
    · show Before (p.log ++ [message]) (k + 1)
      intro e he
      rcases List.mem_append.mp he with hold | hnew
      · have := hbefore e hold
        omega
      · rw [List.mem_singleton.mp hnew, hk]
        omega
  · refine List.pairwise_append.mpr ⟨h.once, List.pairwise_singleton _ _, ?_⟩
    intro a ha b hb hsame
    rw [List.mem_singleton.mp hb] at hsame
    have hlt := hbefore a ha
    rw [hsame, hk] at hlt
    omega

/-! ### Persisting -/

omit [Serde (SessionKeys B)] [Serde (RatchetSnapshot B)] in
theorem Stands.congr {id : String} {s s' : ChatSession B} {n : Nat} (h : Stands P c₀ id s n)
    (hconversation : s'.conversationId = s.conversationId)
    (hsending : s'.ratchet.sendingChain = s.ratchet.sendingChain)
    (hreceiving : s'.ratchet.receivingChain = s.ratchet.receivingChain) :
    Stands P c₀ id s' n := by
  refine ⟨hconversation.trans h.conversation, ⟨?_, ?_⟩, ?_⟩
  · show s'.ratchet.receivingChain.ourRatchetKey = none
    rw [hreceiving]
    exact h.keyed.noReceivingKey
  · rw [hsending]
    exact h.keyed.sendingKey
  · rw [hsending]
    exact h.chain

/-- Either the database takes the session or nothing changes. -/
theorem tryPersist_cases {p : Process B} {s : ChatSession B} (hs : p.app.session = some s)
    (now : Int) (fails : Bool) :
    p.tryPersist now fails = (p.app, false) ∨
      ∃ db, s.persist p.app.store.db now = .ok db ∧
        p.tryPersist now fails = ({ p.app with store := { p.app.store with db } }, true) := by
  unfold tryPersist
  rw [App.persistSession_eq hs]
  cases hpersist : s.persist p.app.store.db now with
  | error e =>
    rw [App.persist_error hpersist]
    cases fails <;> exact Or.inl rfl
  | ok db =>
    rw [App.persist_ok hpersist]
    cases fails with
    | true => exact Or.inl rfl
    | false => exact Or.inr ⟨db, rfl, rfl⟩

variable [LawfulSerde (SessionKeys B)] [LawfulSerde (RatchetSnapshot B)]

theorem Inv.persisted {p : Process B} (h : Inv P c₀ p) (hlive : p.stage ≠ .stopped)
    (hpending : p.stage.pending = none) {s : ChatSession B} (hs : p.app.session = some s)
    {db : Database} {now : Int} (hpersist : s.persist p.app.store.db now = .ok db)
    {stage : Stage B} (hstage : stage.pending = none) (c : Bool) :
    Inv P c₀
      { p with
        app := { p.app with store := { p.app.store with db } }
        stage := stage
        clean := c } := by
  obtain ⟨s', n, hsession, hstands, hn, hahead⟩ := h.live hlive
  obtain rfl : s = s' := Option.some.inj (hs.symm.trans hsession)
  have hbefore : Before p.log n := by
    unfold Ahead at hahead
    rwa [hpending] at hahead
  have hresume := resume_persist hpersist
  rw [hstands.conversation] at hresume
  refine ⟨h.responder, h.calls, ⟨_, n, hresume,
    hstands.congr hstands.conversation.symm rfl rfl, hn, fun _ => hbefore⟩, ?_, h.once⟩
  intro _
  refine ⟨s, n, hs, hstands, hn, ?_⟩
  unfold Ahead
  rwa [hstage]

/-! ### Restarting -/

omit [LawfulSerde (SessionKeys B)] [LawfulSerde (RatchetSnapshot B)] in
theorem Inv.restart {p : Process B} (h : Inv P c₀ p) (hclean : p.clean = true) (peer : PeerId) :
    ∃ app, App.startInitiator p.app.store peer = .ok app ∧
      Inv P c₀ { p with app, stage := .idle } := by
  obtain ⟨s, m, hresume, hstands, hm, hbefore⟩ := h.disk
  refine ⟨_, Except.bind_eq_ok.mpr ⟨some s, hresume, rfl⟩, ?_⟩
  refine ⟨rfl, h.calls, ⟨s, m, hresume, hstands, hm, hbefore⟩, ?_, h.once⟩
  intro _
  exact ⟨s, m, rfl, hstands, hm, hbefore hclean⟩

/-! ### One event -/

variable [Serde (HybridSignature B)] [Serde (RatchetMessageHeader B)]
  [DecidableEq (B X25519_PUBLIC_KEY_SIZE)]

/-- A restart forgets no envelope that was handed to the node. -/
def CleanRestart (p : Process B) : Event B → Prop
  | .restart _ => p.clean = true
  | _ => True

instance (p : Process B) (e : Event B) : Decidable (p.CleanRestart e) := by
  cases e <;> unfold CleanRestart <;> infer_instance

omit [LawfulSerde (SessionKeys B)] [LawfulSerde (RatchetSnapshot B)]
  [DecidableEq (B X25519_PUBLIC_KEY_SIZE)] [Serde (HybridSignature B)]
  [Serde (RatchetMessageHeader B)] in
theorem Inv.sendStep {p : Process B} (h : Inv P c₀ p) {message : Sealed B}
    (hstage : p.stage = .stored message) : Inv P c₀ p.sendStep := by
  have happ := App.steady_sendDirect message.peer message.envelope p.app
  unfold Process.sendStep
  simp only [hstage]
  cases hrun : App.sendDirect message.peer message.envelope p.app with
  | ok _ app =>
    rw [hrun] at happ
    exact h.send hstage happ
  | error e app =>
    rw [hrun] at happ
    exact h.steady happ fun hstopped => absurd rfl hstopped

omit [DecidableEq (B X25519_PUBLIC_KEY_SIZE)] [Serde (HybridSignature B)]
  [Serde (RatchetMessageHeader B)] in
theorem Inv.persistStep {p : Process B} (h : Inv P c₀ p) (hstage : p.stage = .sent) (now : Int)
    (fails : Bool) : Inv P c₀ (p.persistStep now fails) := by
  have hlive : p.stage ≠ .stopped := by rw [hstage]; simp
  obtain ⟨s, _, hsession, -⟩ := h.live hlive
  unfold Process.persistStep
  simp only [hstage]
  rcases tryPersist_cases hsession now fails with hfailed | ⟨db, hpersist, hdone⟩
  · rw [hfailed, Bool.or_false]
    exact h.steady (.refl _) fun _ => ⟨hlive, by rw [hstage]; rfl⟩
  · rw [hdone]
    exact h.persisted hlive (by rw [hstage]; rfl) hsession hpersist rfl _

omit [DecidableEq (B X25519_PUBLIC_KEY_SIZE)] [Serde (HybridSignature B)]
  [Serde (RatchetMessageHeader B)] in
theorem Inv.keepStep {p : Process B} (h : Inv P c₀ p) {conversationId : String}
    {envelope : NetworkEnvelope} (hstage : p.stage = .opened conversationId envelope) (now : Int)
    (fails : Bool) : Inv P c₀ (p.keepStep now fails) := by
  have hlive : p.stage ≠ .stopped := by rw [hstage]; simp
  obtain ⟨s, _, hsession, -⟩ := h.live hlive
  unfold Process.keepStep
  simp only [hstage]
  rcases tryPersist_cases hsession now fails with hfailed | ⟨db, hpersist, hdone⟩
  · rw [hfailed, Bool.or_false]
    exact h.steady (.refl _) fun hstopped => absurd rfl hstopped
  · rw [hdone]
    exact h.persisted hlive (by rw [hstage]; rfl) hsession hpersist rfl _

omit [LawfulSerde (SessionKeys B)] [LawfulSerde (RatchetSnapshot B)] in
theorem Inv.receiveStep {p : Process B} (h : Inv P c₀ p) (hstage : p.stage = .idle)
    (sender : PeerId) (envelope : NetworkEnvelope) (now : Int) :
    Inv P c₀ (p.receiveStep P sender envelope now) := by
  have hlive : p.stage ≠ .stopped := by rw [hstage]; simp
  have happ := Outcome.Moves.bind App.Steady.trans (App.steady_notePeer sender)
    (fun _ => App.steady_openChat P envelope now) p.app
  unfold Process.receiveStep
  cases hrun : (App.notePeer sender >>= fun _ => App.openChat P envelope now) p.app with
  | ok out app =>
    rw [hrun] at happ
    exact h.steady happ fun _ => ⟨hlive, by rw [hstage]; rfl⟩
  | error e app =>
    rw [hrun] at happ
    exact h.steady happ fun hstopped => absurd rfl hstopped

variable [Serde (PreKeyBundle B)] [Serde (PqxdhPrekeyMessage B)]
  [Serde (GroupKeyDistribution B)]

/-- One event keeps the invariant, a restart when it is clean. -/
theorem Inv.step (hzero : c₀.index = 0) {p : Process B} (h : Inv P c₀ p) {e : Event B}
    (hpossible : p.possible e = true) (hclean : p.CleanRestart e) : Inv P c₀ (p.step P e) := by
  cases e with
  | encrypt line now =>
    obtain ⟨hidle, hcalls⟩ : p.stage = .idle ∧ p.calls + 1 < 2 ^ 64 := by
      unfold possible at hpossible
      split at hpossible <;> simp_all
    unfold Process.step
    cases p.app.peer with
    | none => exact h
    | some peer => exact h.sealText hzero hidle hcalls peer line now fun _ => rfl
  | greet peer now =>
    obtain ⟨hidle, hcalls⟩ : p.stage = .idle ∧ p.calls + 1 < 2 ^ 64 := by
      unfold possible at hpossible
      split at hpossible <;> simp_all
    exact h.sealText hzero hidle hcalls peer _ now fun _ => rfl
  | store nonce now =>
    cases hstage : p.stage with
    | encrypted message =>
      unfold Process.step storeStep
      simp only [hstage]
      exact h.follow (App.steady_storeOutgoing P message.envelope nonce now p.app)
        (by rw [hstage]; simp) (by rw [hstage]; rfl)
    | _ => simp [possible, hstage] at hpossible
  | send =>
    cases hstage : p.stage with
    | stored message => exact h.sendStep hstage
    | _ => simp [possible, hstage] at hpossible
  | persist now fails =>
    cases hstage : p.stage with
    | sent => exact h.persistStep hstage now fails
    | _ => simp [possible, hstage] at hpossible
  | receive sender envelope now =>
    cases hstage : p.stage with
    | idle => exact h.receiveStep hstage sender envelope now
    | _ => simp [possible, hstage] at hpossible
  | keep now fails =>
    cases hstage : p.stage with
    | opened conversationId envelope => exact h.keepStep hstage now fails
    | _ => simp [possible, hstage] at hpossible
  | file nonce now =>
    cases hstage : p.stage with
    | kept conversationId envelope =>
      unfold Process.step fileStep
      simp only [hstage]
      exact h.follow (App.steady_storeIncoming P conversationId envelope nonce now p.app)
        (by rw [hstage]; simp) (by rw [hstage]; rfl)
    | _ => simp [possible, hstage] at hpossible
  | sync sender envelope draws =>
    cases hstage : p.stage with
    | idle =>
      have hallowed : envelope.arm ≠ .chat ∧ (envelope.arm ≠ .ratchetPub ∨
          (p.app.initiator.bind InitiatorHandshake.pending) = none) := by
        simpa only [possible, hstage, Bool.and_eq_true, Bool.or_eq_true, bne_iff_ne,
          Option.isNone_iff_eq_none] using hpossible
      obtain ⟨hchat, hestablish⟩ := hallowed
      have hrefused : envelope.arm = .ratchetPub →
          (p.app.initiator.bind InitiatorHandshake.pending) = none :=
        fun harm => hestablish.resolve_left (absurd harm)
      have happ := App.steady_handleDirect P h.responder sender hchat hrefused draws
      exact h.follow happ (by rw [hstage]; simp) (by rw [hstage])
    | _ => simp [possible, hstage] at hpossible
  | crash => exact h.steady (.refl _) fun hstopped => absurd rfl hstopped
  | restart peer =>
    obtain ⟨app, hstart, hinv⟩ := h.restart hclean peer
    unfold Process.step restartStep
    simp only [hstart]
    exact hinv

end Invariant

/-! ## Runs -/

section Runs

variable (P : Primitives B) [Serde (HybridSignature B)] [Serde (RatchetMessageHeader B)]
  [Serde (SessionKeys B)] [Serde (RatchetSnapshot B)] [DecidableEq (B X25519_PUBLIC_KEY_SIZE)]
  [Serde (PreKeyBundle B)] [Serde (PqxdhPrekeyMessage B)] [Serde (GroupKeyDistribution B)]

/-- The process right after the session was established and persisted, before
the greeting. -/
structure Established (p : Process B) : Prop where
  responder : p.app.responder = none
  stage : p.stage = .idle
  log : p.log = []
  clean : p.clean = true
  calls : p.calls = 0
  session : ∃ s rootKey ourKey peerKey, p.app.session = some s ∧
    s.conversationId = p.app.store.deviceId ∧
    s.ratchet = .init P SESSION_ID rootKey ourKey peerKey [] ∧
    ∃ db now, s.persist db now = .ok p.app.store.db

/-- No two envelopes with different texts share a message key and a nonce. -/
def SealedOnce (log : List (Sealed B)) : Prop :=
  log.Pairwise fun a b =>
    a.plaintext ≠ b.plaintext → ¬ (a.key = b.key ∧ nonceOf a.number = nonceOf b.number)

omit [Serde (HybridSignature B)] [Serde (RatchetMessageHeader B)]
  [DecidableEq (B X25519_PUBLIC_KEY_SIZE)] [Serde (PreKeyBundle B)]
  [Serde (PqxdhPrekeyMessage B)] [Serde (GroupKeyDistribution B)] in
/-- `establish` and `persist` lead there. -/
theorem Established.of_establish {app : App B} {driver driver' : InitiatorHandshake B}
    {body : Bytes} {drawn : B X25519_PRIVATE_KEY_SIZE} {chat : ChatSession B}
    (hchat : driver.establish P body drawn = .ok chat driver')
    (hdevice : driver.deviceId = app.store.deviceId) (hresponder : app.responder = none)
    (hsession : app.session = some chat) {db : Database} {now : Int}
    (hpersist : chat.persist db now = .ok app.store.db) :
    Established P { app, stage := .idle, log := [], clean := true, calls := 0 } := by
  obtain ⟨_, _, _, _, _, _, _, rfl⟩ := InitiatorHandshake.establish_eq_ok hchat
  exact ⟨hresponder, rfl, rfl, rfl, rfl, _, _, _, _, hsession, hdevice, rfl, db, now, hpersist⟩

instance [DecidableEq (B MESSAGE_KEY_SIZE)] (log : List (Sealed B)) :
    Decidable (SealedOnce log) := by
  unfold SealedOnce
  infer_instance

variable {P}

omit [Serde (HybridSignature B)] [Serde (RatchetMessageHeader B)]
  [DecidableEq (B X25519_PUBLIC_KEY_SIZE)] [Serde (PreKeyBundle B)]
  [Serde (PqxdhPrekeyMessage B)] [Serde (GroupKeyDistribution B)] in
theorem Established.inv [LawfulSerde (SessionKeys B)] [LawfulSerde (RatchetSnapshot B)]
    {p : Process B} (h : Established P p) :
    ∃ c₀ : ChainKey B, c₀.index = 0 ∧ Inv P c₀ p := by
  obtain ⟨s, rootKey, ourKey, peerKey, hs, hconversation, hratchet, db, now, hpersist⟩ := h.session
  set c₀ := (rootKey.ratchetStep P (P.diffieHellman ourKey peerKey)).2
  have hstands : Stands P c₀ p.app.store.deviceId s 0 := by
    refine ⟨hconversation, ?_, ?_⟩
    · rw [hratchet]
      exact (DoubleRatchet.Starts.initiator _ _ _ _ _).keyed
    · rw [hratchet]
      rfl
  have hbefore : Before p.log 0 := by
    rw [h.log]
    intro e he
    exact absurd he List.not_mem_nil
  have hresume := resume_persist hpersist
  rw [hconversation] at hresume
  refine ⟨c₀, rfl, h.responder, ?_, ⟨_, 0, hresume,
    hstands.congr hconversation.symm rfl rfl, Nat.zero_le _, fun _ => hbefore⟩, ?_, ?_⟩
  · rw [h.calls]
    decide
  · intro _
    refine ⟨s, 0, hs, hstands, Nat.zero_le _, ?_⟩
    rw [h.stage]
    exact hbefore
  · rw [h.log]
    exact List.Pairwise.nil

end Runs

end Process

section Main

variable {P : Primitives B} [Serde (HybridSignature B)] [Serde (RatchetMessageHeader B)]
  [Serde (SessionKeys B)] [Serde (RatchetSnapshot B)] [LawfulSerde (SessionKeys B)]
  [LawfulSerde (RatchetSnapshot B)] [DecidableEq (B X25519_PUBLIC_KEY_SIZE)]
  [Serde (PreKeyBundle B)] [Serde (PqxdhPrekeyMessage B)] [Serde (GroupKeyDistribution B)]

/-- In every run in which each restart is clean, no two envelopes with
different texts that are handed to the node share a message key and a
nonce. -/
theorem sealed_once_of_clean_restarts (start : Process B) (hstart : Process.Established P start)
    (es : List (Process.Event B))
    (hvalid : (Process.machine P Process.CleanRestart).Valid start es) :
    Process.SealedOnce ((Process.machine P Process.CleanRestart).run start es).log := by
  obtain ⟨c₀, hzero, hinv⟩ := hstart.inv
  have hfinal := Machine.invariant (M := Process.machine P Process.CleanRestart)
    (fun _ _ h henabled => h.step hzero henabled.1 henabled.2) hinv hvalid
  refine hfinal.once.imp ?_
  intro a b hne _ hsame
  exact hne (nonceOf_inj hsame.2)

end Main

namespace Sym

/-- The database after the first `persist`. -/
def firstDb : Database := ((freshSession.persist conversationDb 10).toOption).getD .empty

def freshProcess : Process Sym :=
  { app :=
      { store := { db := firstDb, identity := alice, deviceId := "a1" }
        node := { running := true, sent := [] }
        initiator := none
        responder := none
        session := some freshSession
        group := .new
        peer := some [9]
        lastOutgoing := none }
    stage := .idle
    log := []
    clean := true
    calls := 0 }

/-- A line that is sent and persisted, a crash, a restart, and another line. -/
def lateCrash : List (Process.Event Sym) :=
  [.encrypt [1] 20, .store 5 20, .send, .persist 20 false, .crash, .restart [9], .encrypt [2] 30,
    .store 6 30, .send]

/-- The same, with the crash between `send_direct` and `persist`. -/
def earlyCrash : List (Process.Event Sym) :=
  [.encrypt [1] 20, .store 5 20, .send, .crash, .restart [9], .encrypt [2] 30, .store 6 30, .send]

theorem freshProcess_established : Process.Established primitives freshProcess :=
  ⟨rfl, rfl, rfl, rfl, rfl, freshSession, _, _, _, rfl, rfl, rfl, conversationDb, 10,
    rfl⟩

end Sym

/-- After a crash behind `persist` the second line goes out under a key of its
own. -/
theorem sealed_once_lateCrash :
    (Process.machine Sym.primitives Process.CleanRestart).Valid Sym.freshProcess Sym.lateCrash ∧
      Process.SealedOnce
        ((Process.machine Sym.primitives Process.CleanRestart).run Sym.freshProcess
          Sym.lateCrash).log := by
  have hvalid : (Process.machine Sym.primitives Process.CleanRestart).Valid Sym.freshProcess
      Sym.lateCrash := by decide +kernel
  exact ⟨hvalid, sealed_once_of_clean_restarts _ Sym.freshProcess_established _ hvalid⟩

/-- A crash between `send_direct` and `persist`: the restarted process sends
another line under the key and the nonce of the first. -/
theorem earlyCrash_reuses_key :
    Process.Established Sym.primitives Sym.freshProcess ∧
      (Process.machine Sym.primitives fun _ _ => True).Valid Sym.freshProcess Sym.earlyCrash ∧
      ¬ Process.SealedOnce
        ((Process.machine Sym.primitives fun _ _ => True).run Sym.freshProcess
          Sym.earlyCrash).log := by
  refine ⟨Sym.freshProcess_established, ?_, ?_⟩
  · decide +kernel
  · decide +kernel

end Presidium
