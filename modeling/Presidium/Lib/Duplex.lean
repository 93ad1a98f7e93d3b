import Presidium.Lib.Machine
import Presidium.Lib.Window
import Mathlib.Logic.Function.Basic

/-!
# Two parties over a network that loses and reorders

`Duplex` is a pair of parties with one `send` and one `recv` function.  Its
`machine` has two events: a party sends a text, or the network hands a party
one of the messages that its peer has sent.  Any message may be late, may
overtake others or may never arrive, but none arrives twice.

The outbox of a party holds one entry for each call of `send`, with or without
a message, so the position in the outbox is the number of the message.  The
second party sends only after it has taken a message.  A delivery may not push
the total of numbers that the receiver has jumped over above `limit`, and a
party calls `send` fewer than `bound` times.

`Counted` is the specification side.  It says what the state of a party is as
a function of two things that an observer of the network sees: how many times
the party has sent, and which numbers it has taken.  `follows` is the
simulation: when one call keeps to such a description, so does every run, and
every answer is the one that the description predicts.
-/

/-- The two parties.  The first one speaks first. -/
inductive Side where
  | first
  | second
  deriving DecidableEq, Repr

namespace Side

def peer : Side → Side
  | first => second
  | second => first

theorem peer_ne (s : Side) : s.peer ≠ s := by cases s <;> decide

theorem eq_or_eq_peer (t s : Side) : t = s ∨ t = s.peer := by cases t <;> cases s <;> decide

theorem both {p : Side → Prop} (hfirst : p first) (hsecond : p second) : ∀ s, p s
  | first => hfirst
  | second => hsecond

/-- A value for each party. -/
def of {α : Type} (a b : α) : Side → α
  | first => a
  | second => b

end Side

/-- Two parties with state `σ` that exchange texts `τ` as messages `μ` and
answer each delivery with a `ρ`. -/
structure Duplex (σ μ τ ρ : Type) where
  start : Side → σ
  send : σ → τ → σ × Option μ
  recv : σ → μ → σ × ρ
  /-- Each party calls `send` fewer times than this. -/
  bound : Nat
  /-- How many numbers a receiver may jump over in total. -/
  limit : Nat

namespace Duplex

variable {σ μ τ ρ : Type}

/-- A party and what the network knows of it. -/
structure Party (σ μ τ ρ : Type) where
  state : σ
  /-- One entry for each call of `send`. -/
  outbox : List (Option μ × τ)
  /-- The numbers of the peer's messages taken so far, in that order. -/
  taken : List Nat
  /-- For each message taken, the text that was sent and the answer. -/
  answers : List (τ × ρ)

/-- The receive window of a party. -/
def Party.window (p : Party σ μ τ ρ) : Window :=
  Window.empty.deliverAll p.taken

/-- Message number `k` of a party with its text, if there is one. -/
def Party.message (p : Party σ μ τ ρ) (k : Nat) : Option (μ × τ) :=
  match p.outbox[k]? with
  | some (some msg, text) => some (msg, text)
  | _ => none

theorem Party.message_eq_some {p : Party σ μ τ ρ} {k : Nat} {msg : μ} {text : τ}
    (h : p.message k = some (msg, text)) : p.outbox[k]? = some (some msg, text) := by
  unfold message at h
  split at h
  next msg' text' hentry =>
    obtain ⟨rfl, rfl⟩ : msg' = msg ∧ text' = text := by simpa using h
    exact hentry
  next => exact absurd h (by simp)

/-- What holds of every entry of an outbox and of the next one holds of every
entry after it. -/
theorem forall_outbox_concat {Q : Nat → Option μ × τ → Prop} {outbox : List (Option μ × τ)}
    (h : ∀ k entry, outbox[k]? = some entry → Q k entry) {last : Option μ × τ}
    (hlast : Q outbox.length last) :
    ∀ k entry, (outbox ++ [last])[k]? = some entry → Q k entry := by
  intro k entry hentry
  rcases Nat.lt_trichotomy k outbox.length with hlt | rfl | hgt
  · rw [List.getElem?_append_left hlt] at hentry
    exact h k entry hentry
  · rw [List.getElem?_concat_length] at hentry
    rwa [← Option.some.inj hentry]
  · rw [List.getElem?_eq_none (by rw [List.length_append, List.length_singleton]; omega)]
      at hentry
    cases hentry

abbrev Net (σ μ τ ρ : Type) := Side → Party σ μ τ ρ

inductive Event (τ : Type) where
  | send (s : Side) (text : τ)
  /-- The network hands `s` message number `k` of its peer. -/
  | deliver (s : Side) (k : Nat)

variable (D : Duplex σ μ τ ρ)

/-- The party after a call of `send`. -/
def sendStep (p : Party σ μ τ ρ) (text : τ) : Party σ μ τ ρ :=
  let out := D.send p.state text
  { p with state := out.1, outbox := p.outbox ++ [(out.2, text)] }

/-- The party after a call of `recv` on message number `k`. -/
def recvStep (p : Party σ μ τ ρ) (k : Nat) (msg : μ) (text : τ) : Party σ μ τ ρ :=
  let out := D.recv p.state msg
  { p with
    state := out.1
    taken := p.taken ++ [k]
    answers := p.answers ++ [(text, out.2)] }

def netStep (net : Net σ μ τ ρ) : Event τ → Net σ μ τ ρ
  | .send s text => Function.update net s (D.sendStep (net s) text)
  | .deliver s k =>
    match (net s.peer).message k with
    | some (msg, text) => Function.update net s (D.recvStep (net s) k msg text)
    | none => net

/-- When an event may occur. -/
def NetEnabled (net : Net σ μ τ ρ) : Event τ → Prop
  | .send s _ =>
    (s = .first ∨ (net s).taken ≠ []) ∧ (net s).outbox.length + 1 < D.bound
  | .deliver s k =>
    ((net s.peer).message k).isSome ∧ k ∉ (net s).taken ∧
      ((net s).window.deliver k).skipped.length ≤ D.limit

instance (net : Net σ μ τ ρ) : ∀ e, Decidable (D.NetEnabled net e)
  | .send s _ =>
    inferInstanceAs
      (Decidable ((s = .first ∨ (net s).taken ≠ []) ∧ (net s).outbox.length + 1 < D.bound))
  | .deliver s k =>
    inferInstanceAs
      (Decidable (((net s.peer).message k).isSome ∧ k ∉ (net s).taken ∧
        ((net s).window.deliver k).skipped.length ≤ D.limit))

def machine : Machine (Net σ μ τ ρ) (Event τ) where
  step := D.netStep
  Enabled := D.NetEnabled

instance (net : Net σ μ τ ρ) (e : Event τ) : Decidable (D.machine.Enabled net e) :=
  inferInstanceAs (Decidable (D.NetEnabled net e))

/-- Both parties at their start, nothing sent. -/
def initial : Net σ μ τ ρ := fun s =>
  { state := D.start s, outbox := [], taken := [], answers := [] }

/-- The runs of the network. -/
def Admissible (es : List (Event τ)) : Prop := D.machine.Valid D.initial es

instance (es : List (Event τ)) : Decidable (D.Admissible es) :=
  inferInstanceAs (Decidable (D.machine.Valid D.initial es))

/-- Both parties after a run. -/
def after (es : List (Event τ)) : Net σ μ τ ρ := D.machine.run D.initial es

/-- The network that also repeats messages, and hands over any of them however
far ahead or behind it is. -/
def replaying : Machine (Net σ μ τ ρ) (Event τ) where
  step := D.netStep
  Enabled net
    | .send s _ => s = .first ∨ (net s).taken ≠ []
    | .deliver _ _ => True

instance (net : Net σ μ τ ρ) : ∀ e, Decidable (D.replaying.Enabled net e)
  | .send s _ => inferInstanceAs (Decidable (s = .first ∨ (net s).taken ≠ []))
  | .deliver _ _ => inferInstanceAs (Decidable True)

/-! ## What a run delivers -/

/-- The message numbers that an event hands to a party. -/
def Event.deliveredTo (s : Side) : Event τ → List Nat
  | .deliver t k => if t = s then [k] else []
  | .send _ _ => []

variable {D}

/-- One enabled event adds what it delivers to what was taken. -/
theorem taken_netStep (s : Side) (net : Net σ μ τ ρ) (e : Event τ) (h : D.NetEnabled net e) :
    (D.netStep net e s).taken = (net s).taken ++ e.deliveredTo s := by
  cases e with
  | send t text =>
    by_cases hst : s = t
    · subst hst
      simp [netStep, sendStep, Event.deliveredTo]
    · simp [netStep, Function.update_of_ne hst, Event.deliveredTo]
  | deliver t k =>
    obtain ⟨⟨msg, text⟩, hmessage⟩ := Option.isSome_iff_exists.mp h.1
    simp only [netStep, hmessage]
    by_cases hst : s = t
    · subst hst
      simp [recvStep, Event.deliveredTo]
    · simp [Function.update_of_ne hst, Event.deliveredTo, Ne.symm hst]

/-- What a party has taken at the end of a run is what the run delivered to
it. -/
theorem taken_after {es : List (Event τ)} (hvalid : D.Admissible es) (s : Side) :
    (D.after es s).taken = es.flatMap (Event.deliveredTo s) := by
  have hstart : (D.initial s).taken = [] := rfl
  have hlog : (D.after es s).taken = (D.initial s).taken ++ es.flatMap (Event.deliveredTo s) :=
    Machine.log_run (M := D.machine) (fun net => (net s).taken) (Event.deliveredTo s)
      (taken_netStep s) hvalid
  rwa [hstart, List.nil_append] at hlog

/-- How many times an event calls `send` on a party. -/
def Event.sentBy (s : Side) : Event τ → Nat
  | .send t _ => if t = s then 1 else 0
  | .deliver _ _ => 0

theorem sent_netStep (s : Side) (net : Net σ μ τ ρ) (e : Event τ) :
    (D.netStep net e s).outbox.length = (net s).outbox.length + e.sentBy s := by
  cases e with
  | send t text =>
    by_cases hst : s = t
    · subst hst
      simp [netStep, sendStep, Event.sentBy]
    · simp [netStep, Function.update_of_ne hst, Event.sentBy, Ne.symm hst]
  | deliver t k =>
    cases hmessage : (net t.peer).message k with
    | none => simp [netStep, hmessage, Event.sentBy]
    | some entry =>
      simp only [netStep, hmessage]
      by_cases hst : s = t
      · subst hst
        simp [recvStep, Event.sentBy]
      · simp [Function.update_of_ne hst, Event.sentBy]

/-- A party has taken nothing when no event delivers to it. -/
theorem taken_after_eq_nil_iff {es : List (Event τ)} (hvalid : D.Admissible es) (s : Side) :
    (D.after es s).taken = [] ↔ ∀ k, Event.deliver s k ∉ es := by
  rw [taken_after hvalid, List.flatMap_eq_nil_iff]
  constructor
  · intro hnone k hk
    have hsingle := hnone _ hk
    simp [Event.deliveredTo] at hsingle
  · intro hnone e he
    cases e with
    | send t text => rfl
    | deliver t k =>
      have hts : t ≠ s := by
        rintro rfl
        exact hnone k he
      exact if_neg hts

variable (D)

/-! ## The description by counts -/

/-- The state of each party as a function of the number of its calls of `send`
and the numbers it has taken, with the messages and the answers. -/
structure Counted where
  state : Side → Nat → List Nat → σ
  message : Side → Nat → τ → Option μ
  reply : Side → τ → ρ
  start_eq : ∀ s, D.start s = state s 0 []
  send_eq : ∀ s n taken text, s = .first ∨ taken ≠ [] → n + 1 < D.bound →
    D.send (state s n taken) text = (state s (n + 1) taken, message s n text)
  recv_eq : ∀ s n taken k text msg, s = .first ∨ taken ≠ [] ∨ n = 0 →
    message s.peer k text = some msg → k ∉ taken →
    (∀ j ∈ taken ++ [k], j + 1 < D.bound) →
    ((Window.empty.deliverAll taken).deliver k).skipped.length ≤ D.limit →
    D.recv (state s n taken) msg = (state s n (taken ++ [k]), reply s text)

namespace Counted

variable {D} (C : Counted D)

/-- A party is where its counts say. -/
structure Follows (s : Side) (p : Party σ μ τ ρ) : Prop where
  state : p.state = C.state s p.outbox.length p.taken
  turn : s = .first ∨ p.taken ≠ [] ∨ p.outbox.length = 0
  outbox : ∀ k entry, p.outbox[k]? = some entry → entry.1 = C.message s k entry.2
  sent_lt : ∀ k < p.outbox.length, k + 1 < D.bound
  taken_lt : ∀ k ∈ p.taken, k + 1 < D.bound
  answers : ∀ a ∈ p.answers, a.2 = C.reply s a.1
  answered : p.answers.length = p.taken.length

theorem follows_initial (s : Side) : C.Follows s (D.initial s) where
  state := C.start_eq s
  turn := Or.inr (Or.inr rfl)
  outbox k entry h := by simp [initial] at h
  sent_lt k hk := absurd hk (Nat.not_lt_zero k)
  taken_lt k hk := by simp [initial] at hk
  answers a ha := by simp [initial] at ha
  answered := rfl

variable {C} {s : Side} {p : Party σ μ τ ρ}

/-- A call of `send` keeps to the description. -/
theorem Follows.sendStep (h : C.Follows s p) (hturn : s = .first ∨ p.taken ≠ [])
    (hbound : p.outbox.length + 1 < D.bound) (text : τ) :
    C.Follows s (D.sendStep p text) := by
  have hsend := C.send_eq s p.outbox.length p.taken text hturn hbound
  rw [← h.state] at hsend
  refine ⟨?_, hturn.imp_right Or.inl, ?_, ?_, h.taken_lt, h.answers, h.answered⟩
  · simp [Duplex.sendStep, hsend]
  · simp only [Duplex.sendStep, hsend]
    exact forall_outbox_concat h.outbox rfl
  · intro k hk
    rw [Duplex.sendStep, List.length_append, List.length_singleton] at hk
    omega

/-- A call of `recv` on a message of the peer keeps to the description. -/
theorem Follows.recvStep (h : C.Follows s p) {k : Nat} {msg : μ} {text : τ}
    (hmsg : C.message s.peer k text = some msg) (hk : k + 1 < D.bound) (hfresh : k ∉ p.taken)
    (hlimit : (p.window.deliver k).skipped.length ≤ D.limit) :
    C.Follows s (D.recvStep p k msg text) := by
  have htaken : ∀ j ∈ p.taken ++ [k], j + 1 < D.bound := by
    intro j hj
    rcases List.mem_append.mp hj with hold | hnew
    · exact h.taken_lt j hold
    · rwa [List.mem_singleton.mp hnew]
  have hrecv := C.recv_eq s p.outbox.length p.taken k text msg h.turn hmsg hfresh htaken hlimit
  rw [← h.state] at hrecv
  refine ⟨?_, Or.inr (Or.inl (by simp [Duplex.recvStep])), h.outbox, h.sent_lt, htaken, ?_, ?_⟩
  · simp [Duplex.recvStep, hrecv]
  · intro a ha
    rcases List.mem_append.mp ha with hold | hnew
    · exact h.answers a hold
    · rw [List.mem_singleton.mp hnew, hrecv]
  · simp [Duplex.recvStep, h.answered]

theorem Follows.answers_eq_nil_iff (h : C.Follows s p) : p.answers = [] ↔ p.taken = [] := by
  rw [← List.length_eq_zero_iff, h.answered, List.length_eq_zero_iff]

/-- A number that was used can be delivered when its text has a message. -/
theorem Follows.message_isSome (h : C.Follows s p) {k : Nat} (hk : k < p.outbox.length)
    (hsome : ∀ text, (C.message s k text).isSome) : (p.message k).isSome := by
  have hentry : p.outbox[k]? = some p.outbox[k] := List.getElem?_eq_getElem hk
  have hmessage := h.outbox k _ hentry
  obtain ⟨msg, hmsg⟩ := Option.isSome_iff_exists.mp (hsome p.outbox[k].2)
  rw [hmsg] at hmessage
  have hpair : p.outbox[k]? = some (some msg, p.outbox[k].2) := by
    rw [hentry, ← hmessage]
  unfold Party.message
  rw [hpair]
  rfl

variable (C)

/-- One enabled event keeps both parties to the description. -/
theorem follows_step (net : Net σ μ τ ρ) (e : Event τ) (h : ∀ s, C.Follows s (net s))
    (henabled : D.NetEnabled net e) : ∀ s, C.Follows s (D.netStep net e s) := by
  -- an update at one side leaves the other party as it was
  have hupdate : ∀ s p, C.Follows s p → ∀ t, C.Follows t (Function.update net s p t) := by
    intro s p hp t
    by_cases hts : t = s
    · subst hts
      rwa [Function.update_self]
    · rw [Function.update_of_ne hts]
      exact h t
  cases e with
  | send s text =>
    exact hupdate s _ ((h s).sendStep henabled.1 henabled.2 text)
  | deliver s k =>
    obtain ⟨hsome, hfresh, hlimit⟩ := henabled
    obtain ⟨⟨msg, text⟩, hmessage⟩ := Option.isSome_iff_exists.mp hsome
    have hentry := Party.message_eq_some hmessage
    have hmsg : some msg = C.message s.peer k text := (h s.peer).outbox k _ hentry
    have hk : k < (net s.peer).outbox.length := (List.getElem?_eq_some_iff.mp hentry).1
    intro t
    simp only [netStep, hmessage]
    exact hupdate s _ ((h s).recvStep hmsg.symm ((h s.peer).sent_lt k hk) hfresh hlimit) t

/-- Every run keeps both parties to the description. -/
theorem follows {es : List (Event τ)} (hvalid : D.Admissible es) (s : Side) :
    C.Follows s (D.after es s) :=
  Machine.invariant C.follows_step C.follows_initial hvalid s

end Counted

/-! ## Runs by counts alone -/

/-- The network without its states: every call of `send` has a message. -/
def skeleton (bound limit : Nat) : Duplex Unit Unit τ Unit where
  start _ := ()
  send _ _ := ((), some ())
  recv _ _ := ((), ())
  bound := bound
  limit := limit

namespace Counted

variable {D} (C : Counted D)

/-- A network keeps to the description and has the counts of its skeleton. -/
structure Matches (net : Net σ μ τ ρ) (bare : Net Unit Unit τ Unit) : Prop where
  follows : ∀ s, C.Follows s (net s)
  sent : ∀ s, (net s).outbox.length = (bare s).outbox.length
  taken : ∀ s, (net s).taken = (bare s).taken

variable {C}

theorem Matches.step {net : Net σ μ τ ρ} {bare : Net Unit Unit τ Unit}
    (hsome : ∀ s k text, (C.message s k text).isSome) (h : C.Matches net bare) {e : Event τ}
    (he : (skeleton D.bound D.limit).NetEnabled bare e) :
    D.NetEnabled net e ∧ C.Matches (D.netStep net e) ((skeleton D.bound D.limit).netStep bare e) := by
  have henabled : D.NetEnabled net e := by
    cases e with
    | send s text =>
      obtain ⟨hturn, hbound⟩ := he
      rw [← h.taken] at hturn
      rw [← h.sent] at hbound
      exact ⟨hturn, hbound⟩
    | deliver s k =>
      obtain ⟨hmessage, hfresh, hlimit⟩ := he
      obtain ⟨entry, hentry⟩ := Option.isSome_iff_exists.mp hmessage
      have hk := (List.getElem?_eq_some_iff.mp (Party.message_eq_some hentry)).1
      rw [← h.sent] at hk
      rw [← h.taken] at hfresh
      rw [Party.window, ← h.taken] at hlimit
      exact ⟨(h.follows s.peer).message_isSome hk (hsome _ k), hfresh, hlimit⟩
  refine ⟨henabled, C.follows_step net e h.follows henabled, ?_, ?_⟩
  · intro s
    rw [sent_netStep, sent_netStep, h.sent]
  · intro s
    rw [taken_netStep s net e henabled, taken_netStep s bare e he, h.taken]

/-- When every call of `send` gives a message, what the skeleton admits is
admissible. -/
theorem admissible_of_skeleton (hsome : ∀ s k text, (C.message s k text).isSome)
    {es : List (Event τ)} (h : (skeleton D.bound D.limit).Admissible es) : D.Admissible es := by
  have hrun : ∀ net bare, C.Matches net bare → (skeleton D.bound D.limit).machine.Valid bare es →
      D.machine.Valid net es := by
    clear h
    induction es with
    | nil =>
      intro net bare _ _
      trivial
    | cons e es ih =>
      intro net bare hmatches hvalid
      obtain ⟨henabled, hstep⟩ := hmatches.step hsome hvalid.1
      exact ⟨henabled, ih _ _ hstep hvalid.2⟩
  exact hrun _ _ ⟨C.follows_initial, fun _ => rfl, fun _ => rfl⟩ h

end Counted
end Duplex
