import Presidium.Lib.Machine

/-!
# Two tasks and the bounded channels between them

A task is about to send a message, or it waits for a message and for something
from outside, whichever comes first, or it is over.  Two tasks are coupled by
one channel each way.  A channel has room for so many messages; a task that
sends into a full one waits.  A message for a task that is over is dropped, and
the sender learns of it.

The state of a task in a coupled run is that of the task run alone, on what it
received and what came from outside (`left_run`).  A channel neither loses nor
repeats nor reorders messages (`toRight_run`) and keeps to its room
(`length_toRight_run`).  The two tasks are stuck exactly when both are about to send into
a full channel (`stuck_iff`).

What is said about the right task is said about the left one first, and comes
from the coupled tasks the other way round (`run_swap`).
-/

namespace Coupled

/-- What a task is about to do. -/
inductive Intent (ο : Type) where
  | send (message : ο)
  | select
  | finished

def Intent.isOver {ο : Type} : Intent ο → Bool
  | .finished => true
  | _ => false

/-- A task that receives `ι` and sends `ο`.  With a message it may draw a `δ`;
what comes from outside is a `χ`. -/
structure Task (ι ο δ χ σ : Type) where
  intent : σ → Intent ο
  /-- The state once the message is in the channel. -/
  sent : σ → σ
  /-- The state if nobody is left to receive the message. -/
  closed : σ → σ
  receive : σ → ι → δ → σ
  outside : σ → χ → σ

/-- What a task does, seen from the task. -/
inductive Move (ι δ χ : Type) where
  | sent
  | closed
  | received (message : ι) (draw : δ)
  | outside (input : χ)

def Move.message {ι δ χ : Type} : Move ι δ χ → Option ι
  | .received m _ => some m
  | _ => none

/-! ## A task alone -/

namespace Task

variable {ι ο δ χ σ : Type} (T : Task ι ο δ χ σ)

/-- The task run alone. -/
def solo : Machine σ (Move ι δ χ) where
  step s
    | .sent => T.sent s
    | .closed => T.closed s
    | .received m d => T.receive s m d
    | .outside x => T.outside s x
  Enabled s
    | .sent => ∃ m, T.intent s = .send m
    | .closed => ∃ m, T.intent s = .send m
    | .received _ _ => T.intent s = .select
    | .outside _ => T.intent s = .select

/-- The message that a move puts into the channel. -/
def puts (s : σ) : Move ι δ χ → List ο
  | .sent =>
    match T.intent s with
    | .send m => [m]
    | _ => []
  | _ => []

theorem puts_sent {s : σ} {m : ο} (h : T.intent s = .send m) :
    T.puts s (.sent : Move ι δ χ) = [m] := by
  unfold puts
  simp only [h]

end Task

/-! ## Coupled tasks -/

structure State (σ τ ι ο : Type) where
  left : σ
  right : τ
  toRight : List ο
  toLeft : List ι

inductive Event (δ χ δ' χ' : Type) where
  | leftSend
  | leftReceive (draw : δ)
  | leftOutside (input : χ)
  | rightSend
  | rightReceive (draw : δ')
  | rightOutside (input : χ')

section System

variable {ι ο δ χ δ' χ' σ τ : Type}

def State.swap (s : State σ τ ι ο) : State τ σ ο ι :=
  { left := s.right, right := s.left, toRight := s.toLeft, toLeft := s.toRight }

def Event.swap : Event δ χ δ' χ' → Event δ' χ' δ χ
  | .leftSend => .rightSend
  | .leftReceive d => .rightReceive d
  | .leftOutside x => .rightOutside x
  | .rightSend => .leftSend
  | .rightReceive d => .leftReceive d
  | .rightOutside x => .leftOutside x

/-- A task sends, into a channel that the other one reads as long as it is not
over. -/
def send (T : Task ι ο δ χ σ) (otherOver : Bool) (s : σ) (queue : List ο) : σ × List ο :=
  match T.intent s with
  | .send m => if otherOver then (T.closed s, queue) else (T.sent s, queue ++ [m])
  | _ => (s, queue)

/-- A task takes the first message of its channel. -/
def receive (T : Task ι ο δ χ σ) (d : δ) (s : σ) (queue : List ι) : σ × List ι :=
  match queue with
  | m :: rest => (T.receive s m d, rest)
  | [] => (s, [])

variable (L : Task ι ο δ χ σ) (R : Task ο ι δ' χ' τ)

/-- One step of one of the tasks. -/
def step (s : State σ τ ι ο) : Event δ χ δ' χ' → State σ τ ι ο
  | .leftSend =>
    let (left, toRight) := send L (R.intent s.right).isOver s.left s.toRight
    { s with left, toRight }
  | .leftReceive d =>
    let (left, toLeft) := receive L d s.left s.toLeft
    { s with left, toLeft }
  | .leftOutside x => { s with left := L.outside s.left x }
  | .rightSend =>
    let (right, toLeft) := send R (L.intent s.left).isOver s.right s.toLeft
    { s with right, toLeft }
  | .rightReceive d =>
    let (right, toRight) := receive R d s.right s.toRight
    { s with right, toRight }
  | .rightOutside x => { s with right := R.outside s.right x }

/-- A task can send: there is room, or the channel is closed. -/
def CanSend (T : Task ι ο δ χ σ) (room : Nat) (otherOver : Bool) (s : σ) (queue : List ο) :
    Prop :=
  (∃ m, T.intent s = .send m) ∧ (otherOver = true ∨ queue.length < room)

/-- The coupled tasks, with room for `roomRight` messages to the right and
`roomLeft` messages to the left. -/
def system (roomRight roomLeft : Nat) : Machine (State σ τ ι ο) (Event δ χ δ' χ') where
  step := step L R
  Enabled s
    | .leftSend => CanSend L roomRight (R.intent s.right).isOver s.left s.toRight
    | .leftReceive _ => L.intent s.left = .select ∧ s.toLeft ≠ []
    | .leftOutside _ => L.intent s.left = .select
    | .rightSend => CanSend R roomLeft (L.intent s.left).isOver s.right s.toLeft
    | .rightReceive _ => R.intent s.right = .select ∧ s.toRight ≠ []
    | .rightOutside _ => R.intent s.right = .select

/-- The move of the left task in a step. -/
def leftMoves (s : State σ τ ι ο) : Event δ χ δ' χ' → List (Move ι δ χ)
  | .leftSend => [if (R.intent s.right).isOver then .closed else .sent]
  | .leftReceive d => (s.toLeft.head?.map fun m => .received m d).toList
  | .leftOutside x => [.outside x]
  | _ => []

/-- The move of the right task. -/
def rightMoves (s : State σ τ ι ο) (e : Event δ χ δ' χ') : List (Move ο δ' χ') :=
  leftMoves L s.swap e.swap

variable {L R} {roomRight roomLeft : Nat}

/-! ## The other way round -/

theorem step_swap (s : State σ τ ι ο) (e : Event δ χ δ' χ') :
    step R L s.swap e.swap = (step L R s e).swap := by
  cases e <;> rfl

theorem run_swap (s : State σ τ ι ο) (es : List (Event δ χ δ' χ')) :
    (system R L roomLeft roomRight).run s.swap (es.map Event.swap) =
      ((system L R roomRight roomLeft).run s es).swap := by
  induction es generalizing s with
  | nil => rfl
  | cons e es ih =>
    show (system R L roomLeft roomRight).run (step R L s.swap e.swap) (es.map Event.swap) = _
    rw [step_swap, ih]
    rfl

theorem valid_swap {s : State σ τ ι ο} {es : List (Event δ χ δ' χ')}
    (h : (system L R roomRight roomLeft).Valid s es) :
    (system R L roomLeft roomRight).Valid s.swap (es.map Event.swap) := by
  induction es generalizing s with
  | nil => trivial
  | cons e es ih =>
    obtain ⟨henabled, hrest⟩ := h
    have hnext := ih hrest
    refine ⟨?_, ?_⟩
    · cases e <;> exact henabled
    · show (system R L roomLeft roomRight).Valid (step R L s.swap e.swap) _
      rw [step_swap]
      exact hnext

theorem trace_swap (s : State σ τ ι ο) (es : List (Event δ χ δ' χ')) :
    (system R L roomLeft roomRight).trace (leftMoves L) s.swap (es.map Event.swap) =
      (system L R roomRight roomLeft).trace (rightMoves L) s es := by
  induction es generalizing s with
  | nil => rfl
  | cons e es ih =>
    show leftMoves L s.swap e.swap ++ (system R L roomLeft roomRight).trace (leftMoves L)
      (step R L s.swap e.swap) (es.map Event.swap) = _
    rw [step_swap, ih]
    rfl

theorem map_swap_swap (es : List (Event δ χ δ' χ')) :
    (es.map Event.swap).map Event.swap = es := by
  rw [List.map_map]
  refine (List.map_congr_left fun e _ => ?_).trans (List.map_id es)
  cases e <;> rfl

/-! ## One step -/

theorem send_of_over {s : σ} {m : ο} (h : L.intent s = .send m) (queue : List ο) :
    send L true s queue = (L.closed s, queue) := by
  unfold send
  simp only [h]
  rfl

theorem send_of_not_over {s : σ} {m : ο} (h : L.intent s = .send m) (queue : List ο) :
    send L false s queue = (L.sent s, queue ++ [m]) := by
  unfold send
  simp only [h]
  rfl

theorem left_step {s : State σ τ ι ο} {e : Event δ χ δ' χ'}
    (henabled : (system L R roomRight roomLeft).Enabled s e) :
    L.solo.Valid s.left (leftMoves R s e) ∧
      (step L R s e).left = L.solo.run s.left (leftMoves R s e) := by
  obtain ⟨left, right, toRight, toLeft⟩ := s
  cases e with
  | leftSend =>
    obtain ⟨⟨m, hm⟩, -⟩ := henabled
    show L.solo.Valid left [if (R.intent right).isOver then .closed else .sent] ∧
      (send L (R.intent right).isOver left toRight).1 =
        L.solo.run left [if (R.intent right).isOver then .closed else .sent]
    cases hover : (R.intent right).isOver with
    | true =>
      rw [send_of_over hm]
      exact ⟨⟨⟨m, hm⟩, trivial⟩, rfl⟩
    | false =>
      rw [send_of_not_over hm]
      exact ⟨⟨⟨m, hm⟩, trivial⟩, rfl⟩
  | leftReceive d =>
    obtain ⟨hselect, hne⟩ := henabled
    cases toLeft with
    | nil => exact absurd rfl hne
    | cons m rest => exact ⟨⟨hselect, trivial⟩, rfl⟩
  | leftOutside x => exact ⟨⟨henabled, trivial⟩, rfl⟩
  | rightSend => exact ⟨trivial, rfl⟩
  | rightReceive d => exact ⟨trivial, rfl⟩
  | rightOutside x => exact ⟨trivial, rfl⟩

/-- What is in the channel and what is put into it is what is taken out and
what stays. -/
theorem toRight_step {s : State σ τ ι ο} {e : Event δ χ δ' χ'}
    (henabled : (system L R roomRight roomLeft).Enabled s e) :
    s.toRight ++ L.solo.trace L.puts s.left (leftMoves R s e) =
      (rightMoves L s e).filterMap Move.message ++ (step L R s e).toRight := by
  obtain ⟨left, right, toRight, toLeft⟩ := s
  cases e with
  | leftSend =>
    obtain ⟨⟨m, hm⟩, -⟩ := henabled
    show toRight ++ L.solo.trace L.puts left [_] =
      (send L (R.intent right).isOver left toRight).2
    cases hover : (R.intent right).isOver with
    | true =>
      rw [send_of_over hm]
      exact List.append_nil toRight
    | false =>
      rw [send_of_not_over hm]
      show toRight ++ (L.puts left .sent ++ []) = toRight ++ [m]
      rw [L.puts_sent hm, List.append_nil]
  | leftReceive d =>
    cases toLeft with
    | nil => exact List.append_nil toRight
    | cons m rest => exact List.append_nil toRight
  | leftOutside x => exact List.append_nil toRight
  | rightSend =>
    have hnone : [if (L.intent left).isOver then Move.closed else (.sent : Move ο δ' χ')].filterMap
        Move.message = [] := by
      cases (L.intent left).isOver <;> rfl
    exact (List.append_nil toRight).trans (congrArg (· ++ toRight) hnone.symm)
  | rightReceive d =>
    obtain ⟨-, hne⟩ := henabled
    cases toRight with
    | nil => exact absurd rfl hne
    | cons m rest => exact List.append_nil (m :: rest)
  | rightOutside x => exact List.append_nil toRight

/-- The channel to the right keeps to its room. -/
theorem length_toRight_step {s : State σ τ ι ο} {e : Event δ χ δ' χ'}
    (henabled : (system L R roomRight roomLeft).Enabled s e)
    (h : s.toRight.length ≤ roomRight) : (step L R s e).toRight.length ≤ roomRight := by
  obtain ⟨left, right, toRight, toLeft⟩ := s
  cases e with
  | leftSend =>
    obtain ⟨⟨m, hm⟩, hroom⟩ := henabled
    show (send L (R.intent right).isOver left toRight).2.length ≤ roomRight
    cases hover : (R.intent right).isOver with
    | true =>
      rw [send_of_over hm]
      exact h
    | false =>
      rw [send_of_not_over hm]
      simp only [hover, Bool.false_eq_true, false_or] at hroom
      simp only [List.length_append, List.length_singleton]
      omega
  | rightReceive d =>
    show (receive R d right toRight).2.length ≤ roomRight
    cases toRight with
    | nil => exact Nat.zero_le roomRight
    | cons m rest =>
      simp only [List.length_cons] at h
      show rest.length ≤ roomRight
      omega
  | leftReceive d => exact h
  | leftOutside x => exact h
  | rightSend => exact h
  | rightOutside x => exact h

/-! ## Runs -/

section Runs

variable {s : State σ τ ι ο} {es : List (Event δ χ δ' χ')}

/-- The left task in a coupled run is the task alone. -/
theorem left_run (hvalid : (system L R roomRight roomLeft).Valid s es) :
    L.solo.Valid s.left ((system L R roomRight roomLeft).trace (leftMoves R) s es) ∧
      ((system L R roomRight roomLeft).run s es).left =
        L.solo.run s.left ((system L R roomRight roomLeft).trace (leftMoves R) s es) := by
  induction es generalizing s with
  | nil => exact ⟨trivial, rfl⟩
  | cons e es ih =>
    obtain ⟨henabled, hrest⟩ := hvalid
    obtain ⟨hvalid₁, hleft₁⟩ := left_step henabled
    obtain ⟨hvalid₂, hleft₂⟩ := ih hrest
    show L.solo.Valid s.left (_ ++ _) ∧ _ = L.solo.run s.left (_ ++ _)
    rw [Machine.valid_append, Machine.run_append, ← hleft₁]
    exact ⟨⟨hvalid₁, hvalid₂⟩, hleft₂⟩

/-- The messages that the left task has put into the channel are those that the
right task has taken, in this order, and those that are in the channel. -/
theorem toRight_run (hvalid : (system L R roomRight roomLeft).Valid s es) :
    s.toRight ++ L.solo.trace L.puts s.left
        ((system L R roomRight roomLeft).trace (leftMoves R) s es) =
      ((system L R roomRight roomLeft).trace (rightMoves L) s es).filterMap Move.message ++
        ((system L R roomRight roomLeft).run s es).toRight := by
  induction es generalizing s with
  | nil => exact List.append_nil s.toRight
  | cons e es ih =>
    obtain ⟨henabled, hrest⟩ := hvalid
    show s.toRight ++ L.solo.trace L.puts s.left (leftMoves R s e ++ _) =
      (rightMoves L s e ++ _).filterMap Move.message ++ _
    rw [Machine.trace_append, ← (left_step henabled).2, ← List.append_assoc,
      toRight_step henabled, List.append_assoc, List.filterMap_append, List.append_assoc]
    exact congrArg _ (ih hrest)

theorem length_toRight_run (hvalid : (system L R roomRight roomLeft).Valid s es)
    (h : s.toRight.length ≤ roomRight) :
    ((system L R roomRight roomLeft).run s es).toRight.length ≤ roomRight := by
  have hstep : ∀ (s : State σ τ ι ο) (e : Event δ χ δ' χ'), s.toRight.length ≤ roomRight →
      (system L R roomRight roomLeft).Enabled s e → (step L R s e).toRight.length ≤ roomRight :=
    fun _ _ hs henabled => length_toRight_step henabled hs
  exact Machine.invariant hstep h hvalid

theorem right_run (hvalid : (system L R roomRight roomLeft).Valid s es) :
    R.solo.Valid s.right ((system L R roomRight roomLeft).trace (rightMoves L) s es) ∧
      ((system L R roomRight roomLeft).run s es).right =
        R.solo.run s.right ((system L R roomRight roomLeft).trace (rightMoves L) s es) := by
  have hswap := left_run (valid_swap hvalid)
  rw [run_swap, trace_swap] at hswap
  exact hswap

theorem toLeft_run (hvalid : (system L R roomRight roomLeft).Valid s es) :
    s.toLeft ++ R.solo.trace R.puts s.right
        ((system L R roomRight roomLeft).trace (rightMoves L) s es) =
      ((system L R roomRight roomLeft).trace (leftMoves R) s es).filterMap Move.message ++
        ((system L R roomRight roomLeft).run s es).toLeft := by
  have hswap := toRight_run (valid_swap hvalid)
  rw [run_swap, trace_swap, ← trace_swap s.swap, map_swap_swap] at hswap
  exact hswap

theorem length_toLeft_run (hvalid : (system L R roomRight roomLeft).Valid s es)
    (h : s.toLeft.length ≤ roomLeft) :
    ((system L R roomRight roomLeft).run s es).toLeft.length ≤ roomLeft := by
  have hswap := length_toRight_run (valid_swap hvalid) h
  rw [run_swap] at hswap
  exact hswap

/-- A task that is over stays over. -/
theorem right_over_step {s : State σ τ ι ο} {e : Event δ χ δ' χ'}
    (henabled : (system L R roomRight roomLeft).Enabled s e) (h : R.intent s.right = .finished) :
    (step L R s e).right = s.right := by
  cases e with
  | leftSend => rfl
  | leftReceive d => rfl
  | leftOutside x => rfl
  | rightSend =>
    obtain ⟨⟨m, hm⟩, -⟩ := henabled
    rw [h] at hm
    cases hm
  | rightReceive d => exact absurd (h.symm.trans henabled.1) nofun
  | rightOutside x => exact absurd (h.symm.trans henabled) nofun

theorem right_over_run (hvalid : (system L R roomRight roomLeft).Valid s es)
    (h : R.intent s.right = .finished) :
    R.intent ((system L R roomRight roomLeft).run s es).right = .finished := by
  have hstep : ∀ (s : State σ τ ι ο) (e : Event δ χ δ' χ'), R.intent s.right = .finished →
      (system L R roomRight roomLeft).Enabled s e → R.intent (step L R s e).right = .finished := by
    intro s e hs henabled
    rw [right_over_step henabled hs]
    exact hs
  exact Machine.invariant hstep h hvalid

/-- As long as the right task is not over, the left one finds its channel
open. -/
theorem closed_not_mem_left (hvalid : (system L R roomRight roomLeft).Valid s es)
    (hright : R.intent ((system L R roomRight roomLeft).run s es).right ≠ .finished) :
    Move.closed ∉ (system L R roomRight roomLeft).trace (leftMoves R) s es := by
  induction es generalizing s with
  | nil => exact List.not_mem_nil
  | cons e es ih =>
    have hnow : R.intent s.right ≠ .finished := fun h => hright (right_over_run hvalid h)
    obtain ⟨-, hrest⟩ := hvalid
    refine fun hmem => (List.mem_append.mp hmem).elim ?_ (ih hrest hright)
    intro hmem
    cases e with
    | leftSend =>
      have hclosed := List.mem_singleton.mp hmem
      cases hi : R.intent s.right with
      | finished => exact hnow hi
      | send m =>
        rw [hi] at hclosed
        cases hclosed
      | select =>
        rw [hi] at hclosed
        cases hclosed
    | leftReceive d =>
      obtain ⟨m, -, hm⟩ := Option.map_eq_some_iff.mp (Option.mem_toList.mp hmem)
      cases hm
    | leftOutside x => cases List.mem_singleton.mp hmem
    | rightSend => exact List.not_mem_nil hmem
    | rightReceive d => exact List.not_mem_nil hmem
    | rightOutside x => exact List.not_mem_nil hmem

theorem closed_not_mem_right (hvalid : (system L R roomRight roomLeft).Valid s es)
    (hleft : L.intent ((system L R roomRight roomLeft).run s es).left ≠ .finished) :
    Move.closed ∉ (system L R roomRight roomLeft).trace (rightMoves L) s es := by
  have hswap := closed_not_mem_left (valid_swap hvalid) (by rw [run_swap]; exact hleft)
  rwa [trace_swap] at hswap

end Runs

/-! ## Stuck tasks -/

/-- Both tasks are about to send into a full channel. -/
structure Stuck (L : Task ι ο δ χ σ) (R : Task ο ι δ' χ' τ) (roomRight roomLeft : Nat)
    (s : State σ τ ι ο) : Prop where
  left : ∃ m, L.intent s.left = .send m
  right : ∃ m, R.intent s.right = .send m
  toRight : roomRight ≤ s.toRight.length
  toLeft : roomLeft ≤ s.toLeft.length

theorem Stuck.blocks {s : State σ τ ι ο} (h : Stuck L R roomRight roomLeft s)
    (e : Event δ χ δ' χ') : ¬ (system L R roomRight roomLeft).Enabled s e := by
  obtain ⟨⟨m, hm⟩, ⟨m', hm'⟩, htoRight, htoLeft⟩ := h
  intro henabled
  cases e with
  | leftSend =>
    rcases henabled.2 with hover | hroom
    · rw [hm'] at hover
      cases hover
    · omega
  | rightSend =>
    rcases henabled.2 with hover | hroom
    · rw [hm] at hover
      cases hover
    · omega
  | leftReceive d => exact absurd (hm.symm.trans henabled.1) nofun
  | leftOutside x => exact absurd (hm.symm.trans henabled) nofun
  | rightReceive d => exact absurd (hm'.symm.trans henabled.1) nofun
  | rightOutside x => exact absurd (hm'.symm.trans henabled) nofun

/-- Two tasks that are not over can take no step exactly when they are stuck. -/
theorem stuck_iff [Nonempty χ] [Nonempty χ'] {s : State σ τ ι ο}
    (hleft : L.intent s.left ≠ .finished) (hright : R.intent s.right ≠ .finished) :
    (∀ e, ¬ (system L R roomRight roomLeft).Enabled s e) ↔ Stuck L R roomRight roomLeft s := by
  refine ⟨fun hnone => ?_, fun h => h.blocks⟩
  have hsendLeft : ∃ m, L.intent s.left = .send m := by
    cases hi : L.intent s.left with
    | send m => exact ⟨m, rfl⟩
    | select =>
      obtain ⟨x⟩ := ‹Nonempty χ›
      exact absurd hi (hnone (.leftOutside x))
    | finished => exact absurd hi hleft
  have hsendRight : ∃ m, R.intent s.right = .send m := by
    cases hi : R.intent s.right with
    | send m => exact ⟨m, rfl⟩
    | select =>
      obtain ⟨x⟩ := ‹Nonempty χ'›
      exact absurd hi (hnone (.rightOutside x))
    | finished => exact absurd hi hright
  refine ⟨hsendLeft, hsendRight, ?_, ?_⟩
  · by_contra hroom
    exact hnone .leftSend ⟨hsendLeft, .inr (by omega)⟩
  · by_contra hroom
    exact hnone .rightSend ⟨hsendRight, .inr (by omega)⟩

/-! ## A flood

The left task answers every message, and the right one reports whatever comes
from outside.  If enough comes from outside before the right task turns to its
own channel, the two get stuck. -/

section Flood

variable {A : σ → Prop} {N : τ → Prop} {m : ι} {d : δ} {x : χ'}

/-- The right task gets only `x` from outside, and never turns to its channel. -/
def Event.Floods (x : χ') : Event δ χ δ' χ' → Prop
  | .rightOutside y => y = x
  | .rightReceive _ => False
  | _ => True

/-- The left task, when it is idle, answers `m` and is idle again. -/
structure Responds (L : Task ι ο δ χ σ) (A : σ → Prop) (m : ι) (d : δ) : Prop where
  idle : ∀ s, A s → L.intent s = .select
  sends : ∀ s, A s → ∃ o, L.intent (L.receive s m d) = .send o
  again : ∀ s, A s → A (L.sent (L.receive s m d))

/-- The right task, when it is idle, reports `x` as `m` and is idle again. -/
structure Reports (R : Task ο ι δ' χ' τ) (N : τ → Prop) (x : χ') (m : ι) : Prop where
  idle : ∀ t, N t → R.intent t = .select
  sends : ∀ t, N t → R.intent (R.outside t x) = .send m
  again : ∀ t, N t → N (R.sent (R.outside t x))

variable {s : State σ τ ι ο} (hL : Responds L A m d) (hR : Reports R N x m)

include hR in
/-- One report goes into the channel. -/
theorem reaches_report (hright : N s.right) (hopen : (L.intent s.left).isOver = false)
    (hroom : s.toLeft.length < roomLeft) :
    (system L R roomRight roomLeft).Reaches (Event.Floods x) s
      { s with right := R.sent (R.outside s.right x), toLeft := s.toLeft ++ [m] } := by
  have hsend : send R (L.intent s.left).isOver (R.outside s.right x) s.toLeft =
      (R.sent (R.outside s.right x), s.toLeft ++ [m]) := by
    rw [hopen]
    exact send_of_not_over (hR.sends _ hright) _
  have houtside : (system L R roomRight roomLeft).Reaches (Event.Floods x) s
      { s with right := R.outside s.right x } := .step (.rightOutside x) rfl (hR.idle _ hright) rfl
  have hstep : step L R { s with right := R.outside s.right x } .rightSend =
      { s with right := R.sent (R.outside s.right x), toLeft := s.toLeft ++ [m] } := by
    show { s with
      right := (send R (L.intent s.left).isOver (R.outside s.right x) s.toLeft).1
      toLeft := (send R (L.intent s.left).isOver (R.outside s.right x) s.toLeft).2 } = _
    rw [hsend]
  exact houtside.trans (.step .rightSend trivial ⟨⟨m, hR.sends _ hright⟩, .inr hroom⟩ hstep)

include hL hR in
/-- One report is in the hands of the left task, which is about to answer. -/
theorem reaches_receive (hleft : A s.left) (hright : N s.right) (hempty : s.toLeft = [])
    (hroom : 0 < roomLeft) :
    ∃ s', (system L R roomRight roomLeft).Reaches (Event.Floods x) s s' ∧ (∃ o, L.intent s'.left = .send o) ∧
      A (L.sent s'.left) ∧ N s'.right ∧ s'.toLeft = [] ∧ s'.toRight = s.toRight := by
  obtain ⟨left, right, toRight, toLeft⟩ := s
  cases hempty
  have hidle := hL.idle left hleft
  refine ⟨{ left := L.receive left m d, right := R.sent (R.outside right x), toRight, toLeft := [] },
    (reaches_report hR hright (by rw [hidle]; rfl) hroom).trans ?_, hL.sends _ hleft,
    hL.again _ hleft, hR.again _ hright, rfl, rfl⟩
  exact .step (.leftReceive d) trivial ⟨hidle, List.cons_ne_nil m []⟩ rfl

include hL hR in
/-- The answers fill their channel, if the right task does not turn to it. -/
theorem reaches_answers (hleft : A s.left) (hright : N s.right) (hempty : s.toLeft = [])
    (hnone : s.toRight = []) (hroom : 0 < roomLeft) {k : Nat} (hk : k ≤ roomRight) :
    ∃ s', (system L R roomRight roomLeft).Reaches (Event.Floods x) s s' ∧ A s'.left ∧ N s'.right ∧
      s'.toLeft = [] ∧ s'.toRight.length = k := by
  induction k with
  | zero => exact ⟨s, .refl s, hleft, hright, hempty, by rw [hnone]; rfl⟩
  | succ k ih =>
    obtain ⟨s₁, hreach₁, hleft₁, hright₁, hempty₁, hlength⟩ := ih (by omega)
    obtain ⟨⟨left, right, toRight, toLeft⟩, hreach₂, ⟨o, ho⟩, hagain, hright₂, hempty₂, htoRight⟩ :=
      reaches_receive hL hR hleft₁ hright₁ hempty₁ hroom
    have hsend : send L (R.intent right).isOver left toRight = (L.sent left, toRight ++ [o]) := by
      rw [hR.idle _ hright₂]
      exact send_of_not_over ho _
    have hlength₂ : toRight.length = k := (congrArg List.length htoRight).trans hlength
    have hstep : step L R { left, right, toRight, toLeft } .leftSend =
        { left := L.sent left, right, toRight := toRight ++ [o], toLeft } := by
      show State.mk (send L (R.intent right).isOver left toRight).1 right
        (send L (R.intent right).isOver left toRight).2 toLeft = _
      rw [hsend]
    refine ⟨{ left := L.sent left, right, toRight := toRight ++ [o], toLeft },
      (hreach₁.trans hreach₂).trans (.step .leftSend trivial ⟨⟨o, ho⟩, .inr ?_⟩ hstep),
      hagain, hright₂, hempty₂, ?_⟩
    · show toRight.length < roomRight
      omega
    · simp only [List.length_append, List.length_singleton]
      omega

include hR in
/-- The reports fill theirs, while the left task waits to send. -/
theorem reaches_reports (hleft : ∃ o, L.intent s.left = .send o) (hright : N s.right)
    (hempty : s.toLeft = []) {k : Nat} (hk : k ≤ roomLeft) :
    ∃ s', (system L R roomRight roomLeft).Reaches (Event.Floods x) s s' ∧ s'.left = s.left ∧ N s'.right ∧
      s'.toRight = s.toRight ∧ s'.toLeft.length = k := by
  induction k with
  | zero => exact ⟨s, .refl s, rfl, hright, rfl, by rw [hempty]; rfl⟩
  | succ k ih =>
    obtain ⟨s₁, hreach, hleft₁, hright₁, htoRight, hlength⟩ := ih (by omega)
    have hopen : (L.intent s₁.left).isOver = false := by
      obtain ⟨o, ho⟩ := hleft
      rw [hleft₁, ho]
      rfl
    refine ⟨_, hreach.trans (reaches_report hR hright₁ hopen (by omega)), hleft₁,
      hR.again _ hright₁, htoRight, ?_⟩
    simp only [List.length_append, List.length_singleton]
    omega

include hL hR in
/-- Enough reports in a row, and the two tasks are stuck. -/
theorem exists_stuck (hleft : A s.left) (hright : N s.right) (hempty : s.toLeft = [])
    (hnone : s.toRight = []) (hroom : 0 < roomLeft) :
    ∃ s', (system L R roomRight roomLeft).Reaches (Event.Floods x) s s' ∧ Stuck L R roomRight roomLeft s' := by
  obtain ⟨s₁, hreach₁, hleft₁, hright₁, hempty₁, hlength₁⟩ :=
    reaches_answers hL hR hleft hright hempty hnone hroom (Nat.le_refl roomRight)
  obtain ⟨s₂, hreach₂, hsends₂, -, hright₂, hempty₂, htoRight₂⟩ :=
    reaches_receive hL hR hleft₁ hright₁ hempty₁ hroom
  obtain ⟨s₃, hreach₃, hleft₃, hright₃, htoRight₃, hlength₃⟩ :=
    reaches_reports hR hsends₂ hright₂ hempty₂ (Nat.le_refl roomLeft)
  refine ⟨{ s₃ with right := R.outside s₃.right x },
    ((hreach₁.trans hreach₂).trans hreach₃).trans
      (.step (.rightOutside x) rfl (hR.idle _ hright₃) rfl), ?_, ⟨m, hR.sends _ hright₃⟩, ?_, ?_⟩
  · show ∃ o, L.intent s₃.left = .send o
    rw [hleft₃]
    exact hsends₂
  · show roomRight ≤ s₃.toRight.length
    rw [htoRight₃, htoRight₂]
    omega
  · show roomLeft ≤ s₃.toLeft.length
    omega

end Flood

end System
end Coupled
