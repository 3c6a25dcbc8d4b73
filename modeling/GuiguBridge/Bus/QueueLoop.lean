import GuiguBridge.Bus.FailStop
import GuiguBridge.Bus.Serving

/-!
# The worker's loop as a state machine

Tasks move from a bounded channel into the worker's queue between two steps of `Worker::run`,
while producers submit more (`src/src/bus/worker.rs`).

* `TaskChannel`, `TaskChannel.Contract` — the channel: what was submitted, how much of it was
  taken, whether every sender is gone, and what its calls answer; any call of a service may come
  after more submissions;
* `admitLoop`, `round`, `loopRun` — the loop of `run` as a state machine;
* `runLoop_eq` — **the state machine is the loop**.
-/

namespace GuiguBridge

open Prog

/-! ### The channel -/

/-- A task channel as the world holds it: the tasks submitted so far, how many of them were
taken out, and whether it is closed to further ones. -/
structure TaskChannel (σ : Type) where
  submitted : σ → List AgentTask
  taken : σ → Nat
  closed : σ → Bool

namespace TaskChannel

variable {σ : Type} (channel : TaskChannel σ)

/-- Producers submitted, nothing was taken out. -/
structure Submits (c c' : σ) : Prop where
  submitted : channel.submitted c <+: channel.submitted c'
  closed : channel.closed c = true →
    channel.closed c' = true ∧ channel.submitted c' = channel.submitted c
  taken : channel.taken c' = channel.taken c

/-- Producers submitted, and the next task was taken out. -/
structure Takes (c : σ) (task : AgentTask) (c' : σ) : Prop where
  submitted : channel.submitted c <+: channel.submitted c'
  closed : channel.closed c = true →
    channel.closed c' = true ∧ channel.submitted c' = channel.submitted c
  next : (channel.submitted c')[channel.taken c]? = some task
  taken : channel.taken c' = channel.taken c + 1

/-- Closed, and everything submitted was taken out. -/
structure Exhausted (c : σ) : Prop where
  closed : channel.closed c = true
  taken : channel.taken c = (channel.submitted c).length

/-- What the channel promises its receiver: the order of submission, and that it reports its
end only after the last task. -/
structure Contract (w : Worker σ) : Prop where
  capacity_pos : 0 < w.services.maxCapacity
  calls : w.Calls channel.Submits
  tryRecv : ∀ c, match (w.services.tryRecv c).1 with
    | .task task => channel.Takes c task (w.services.tryRecv c).2
    | .empty => channel.Submits c (w.services.tryRecv c).2
    | .disconnected => channel.Submits c (w.services.tryRecv c).2 ∧
        channel.Exhausted (w.services.tryRecv c).2
  recv : ∀ c, match (w.services.recv c).1 with
    | some task => channel.Takes c task (w.services.recv c).2
    | none => channel.Submits c (w.services.recv c).2 ∧
        channel.Exhausted (w.services.recv c).2

end TaskChannel

/-! ### The loop as a state machine -/

namespace Worker

/-- The variables of `Worker::run`. -/
structure LoopState (σ : Type) where
  state : WorkerState σ
  queue : List QueuedTask
  arrival : Nat
  closed : Bool

/-- A task leaves the channel and enters the queue. -/
def LoopState.enqueue {σ : Type} (l : LoopState σ) (task : AgentTask) (world : σ) :
    LoopState σ where
  state := { l.state with world := world, received := l.state.received ++ [task] }
  queue := l.queue ++ [⟨task.priority, l.arrival, task⟩]
  arrival := l.arrival + 1
  closed := l.closed

/-- The world moved on. -/
def LoopState.at {σ : Type} (l : LoopState σ) (world : σ) : LoopState σ :=
  { l with state := { l.state with world := world } }

/-- The queue a task was taken from, and the task. -/
structure Taken where
  heap : List QueuedTask
  next : QueuedTask

/-- What one round of the loop does. -/
inductive Round (σ : Type) where
  | took (taken : Taken) (after : LoopState σ)
  | waited (after : LoopState σ)
  | stopped (taken : Taken) (error : WorkerError) (state : WorkerState σ)
  | drained (state : WorkerState σ)

/-- Where a run is: still running, stopped by an error, or returned. -/
inductive Ending (σ : Type) where
  | running (l : LoopState σ)
  | stopped (error : WorkerError) (state : WorkerState σ)
  | drained (state : WorkerState σ)

/-- What a run of so many rounds ends with. -/
def Ending.result {σ : Type} : Ending σ → Except WorkerError RunEnd × WorkerState σ
  | .running l => (.ok .outOfFuel, l.state)
  | .stopped error s => (.error error, s)
  | .drained s => (.ok .drained, s)

/-- The tasks a run took, in order, and where it is. -/
structure LoopRun (σ : Type) where
  takes : List Taken
  ending : Ending σ

def LoopRun.processed {σ : Type} (run : LoopRun σ) : List QueuedTask := run.takes.map Taken.next

variable {σ : Type} (w : Worker σ)

/-- The loop of `admit_ready`. -/
def admitLoop : Nat → LoopState σ → LoopState σ
  | 0, l => l
  | budget + 1, l =>
    match w.services.tryRecv l.state.world with
    | (.task task, world) => admitLoop budget (l.enqueue task world)
    | (.empty, world) => l.at world
    | (.disconnected, world) => { l.at world with closed := true }

/-- The first step of a round. -/
def admitted (l : LoopState σ) : LoopState σ :=
  if l.closed then l else w.admitLoop (w.services.maxCapacity - l.queue.length) l

theorem admitLoop_eq (budget : Nat) (l : LoopState σ) (hopen : l.closed = false) :
    w.admitReady budget l.queue l.arrival l.state =
      (.ok ((w.admitLoop budget l).queue, (w.admitLoop budget l).arrival,
        (w.admitLoop budget l).closed), (w.admitLoop budget l).state) := by
  induction budget generalizing l with
  | zero =>
    show (_, _) = _
    rw [admitLoop, hopen]
  | succ budget ih =>
    have hcall : service w.services.tryRecv l.state =
        (.ok (w.services.tryRecv l.state.world).1,
          { l.state with world := (w.services.tryRecv l.state.world).2 }) := rfl
    rw [admitReady, bind_of_ok hcall, admitLoop]
    cases hanswer : w.services.tryRecv l.state.world with
    | mk answer world =>
      cases answer with
      | task task => exact ih (l.enqueue task world) hopen
      | empty =>
        show (_, _) = (Except.ok (_, _, l.closed), _)
        rw [hopen]
        rfl
      | disconnected => rfl

theorem admitted_eq (l : LoopState σ) :
    w.admitAvailable l.queue l.arrival l.closed l.state =
      (.ok ((w.admitted l).queue, (w.admitted l).arrival, (w.admitted l).closed),
        (w.admitted l).state) := by
  unfold admitAvailable admitted
  cases hclosed : l.closed with
  | true =>
    show (_, _) = _
    rw [if_pos rfl, hclosed]
  | false =>
    simp only [Bool.false_eq_true, if_false]
    exact w.admitLoop_eq _ l hclosed

variable [Externals]

/-- One round of the loop of `Worker::run`. -/
def round (l : LoopState σ) : Round σ :=
  let l := w.admitted l
  match popQueue l.queue with
  | some (next, rest) =>
    match w.process next.task l.state with
    | (.ok (), s) => .took ⟨l.queue, next⟩ { l with state := s, queue := rest }
    | (.error error, s) =>
      if error.isRecoveryNeeded then .took ⟨l.queue, next⟩ { l with state := s, queue := rest }
      else .stopped ⟨l.queue, next⟩ error s
  | none =>
    if l.closed then .drained l.state
    else match w.services.recv l.state.world with
      | (some task, world) => .waited ({ l with queue := [] }.enqueue task world)
      | (none, world) => .drained (l.at world).state

/-- At most so many rounds. -/
def loopRun : Nat → LoopState σ → LoopRun σ
  | 0, l => ⟨[], .running l⟩
  | fuel + 1, l =>
    match w.round l with
    | .took taken after =>
      { loopRun fuel after with takes := taken :: (loopRun fuel after).takes }
    | .waited after => loopRun fuel after
    | .stopped taken error s => ⟨[taken], .stopped error s⟩
    | .drained s => ⟨[], .drained s⟩

/-- **The state machine is the loop.** -/
theorem runLoop_eq (fuel : Nat) (l : LoopState σ) :
    w.runLoop fuel l.queue l.arrival l.closed l.state = (w.loopRun fuel l).ending.result := by
  induction fuel generalizing l with
  | zero => rfl
  | succ fuel ih =>
    rw [runLoop, bind_of_ok (w.admitted_eq l), loopRun]
    dsimp only
    unfold round
    dsimp only
    cases hpop : popQueue (w.admitted l).queue with
    | some popped =>
      obtain ⟨next, rest⟩ := popped
      dsimp only
      have hattempt : Prog.attempt (w.process next.task) (w.admitted l).state =
          (.ok (w.process next.task (w.admitted l).state).1,
            (w.process next.task (w.admitted l).state).2) := rfl
      rw [bind_of_ok hattempt]
      cases hprocess : w.process next.task (w.admitted l).state with
      | mk result s =>
        cases result with
        | ok value => exact ih { w.admitted l with state := s, queue := rest }
        | error error =>
          dsimp only
          cases hrec : error.isRecoveryNeeded with
          | true => exact ih { w.admitted l with state := s, queue := rest }
          | false => rfl
    | none =>
      dsimp only
      cases hclosed : (w.admitted l).closed with
      | true => rfl
      | false =>
        have hcall : service w.services.recv (w.admitted l).state =
            (.ok (w.services.recv (w.admitted l).state.world).1,
              { (w.admitted l).state with
                world := (w.services.recv (w.admitted l).state.world).2 }) := rfl
        simp only [Bool.false_eq_true, if_false]
        rw [bind_of_ok hcall]
        cases hanswer : w.services.recv (w.admitted l).state.world with
        | mk answer world =>
          cases answer with
          | none => rfl
          | some task =>
            exact ih (LoopState.enqueue ⟨(w.admitted l).state, [], (w.admitted l).arrival, false⟩
              task world)

end Worker

end GuiguBridge
