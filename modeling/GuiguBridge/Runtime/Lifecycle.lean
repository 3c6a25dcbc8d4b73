import GuiguBridge.Storage.Admission

/-!
# The durable lifecycle

`SqliteTaskLifecycle::transition` (`src/src/runtime/mod.rs`): the worker's events enter the
store one by one.  An event that is already there is a replay; otherwise the version of the
task, the state of its admission and the event log move together, or not at all.

* `lifecycleTransition` — the admission states an event may start from and the one it leads
  to;
* `transition` — the call, and `transition_cases`, everything it can do.
-/

namespace GuiguBridge

open Relational

inductive LifecycleResult where
  | committed | replay | stale
  deriving DecidableEq

/-- `DispatchError`: why a stage of a dispatch, or a lifecycle call, gave no result. -/
inductive DispatchError where
  | notAccepted (reason : String)
  | executionFailed (reason : String)
  | unsupportedPrepared
  | acceptanceUnknown
  | recoveryNeeded
  deriving DecidableEq

/-- `MAX_DETAIL_BYTES`. -/
def maxDetailBytes : Nat := 256

/-- `acp::bounded`: a text cut to its byte limit at a character boundary. -/
def bounded (text : String) : String :=
  if text.utf8ByteSize ≤ maxDetailBytes then text
  else String.ofList (takeBytes maxDetailBytes text.toList)

/-- `runtime_dispatch_error`. -/
def runtimeDispatchError (text : String) : DispatchError := .executionFailed (bounded text)

/-- `lifecycle_transition`: from which admission states, and to which. -/
def lifecycleTransition : TaskStatus → Option (List AdmissionState × AdmissionState)
  | .dispatched => some ([.ready, .enqueued], .dispatching)
  | .running => some ([.dispatching], .running)
  | .completed => some ([.running], .terminal)
  | .failed => some ([.ready, .enqueued, .dispatching, .running], .terminal)
  | .timedOut => some ([.ready, .enqueued, .dispatching, .running], .terminal)
  | .cancelled => some ([.ready, .enqueued, .dispatching, .running], .terminal)
  | .queued => none

/-- The admission of a task that no worker has started on. -/
def AdmissionState.waiting : AdmissionState → Bool
  | .ready | .enqueued => true
  | _ => false

theorem AdmissionState.open_of_waiting {state : AdmissionState} (h : state.waiting = true) :
    state ≠ .terminal := by
  rintro rfl
  cases h

/-- An event leads to the terminal admission exactly when its status is terminal, never starts
there, and leaves the task with a worker. -/
theorem lifecycleTransition_terminal {status : TaskStatus} {from_ : List AdmissionState}
    {to_ : AdmissionState} (h : lifecycleTransition status = some (from_, to_)) :
    (to_ = .terminal ↔ status.isTerminal = true) ∧ .terminal ∉ from_ ∧
      to_.waiting = false := by
  cases status <;> simp [lifecycleTransition] at h <;> obtain ⟨rfl, rfl⟩ := h <;>
    simp [TaskStatus.isTerminal, AdmissionState.waiting]

section

variable [Externals]

/-- The admission of the task moves as the event's status asks. -/
def moveAdmission {ρ : Type} (event : TaskEvent) (from_ : List AdmissionState)
    (to_ : AdmissionState) : Tx Db ρ Nat :=
  Tx.update Db.taskAdmissionsL
    (fun a => decide (a.task_id = event.task_id ∧ a.state ∈ from_))
    (fun a => { a with state := to_, revision := a.revision + 1,
                       updated_at := ts event.timestamp })

/-- `SELECT 1 FROM task_events WHERE event_id=? AND task_id=? AND seq=?`. -/
def Db.replays (db : Db) (event : TaskEvent) (seq : Nat) : Bool :=
  db.taskEvents.rows.any fun e =>
    decide (e.event_id = event.id ∧ e.task_id = event.task_id ∧ e.seq = seq)

/-- `SqliteTaskLifecycle::transition`. -/
def transition (event : TaskEvent) (db : Db) : Except DispatchError LifecycleResult × Db :=
  Tx.commit id (do
    let seq ← Tx.orElse (toI64 event.seq)
      (.error (runtimeDispatchError "runtime row is malformed"))
    let replay ← Tx.read fun db => db.replays event seq
    Tx.require (!replay) (.ok .replay)
    Tx.require (2 ≤ event.seq)
      (.error (runtimeDispatchError "durable lifecycle does not own queued events"))
    let expected ← Tx.orElse (toI64 (event.seq - 2))
      (.error (runtimeDispatchError "runtime row is malformed"))
    let n ← advanceVersion event.task_id expected
    Tx.require (n = 1) (.ok .stale)
    let move ← Tx.orElse (lifecycleTransition event.status)
      (.error (runtimeDispatchError "invalid lifecycle transition"))
    let n ← moveAdmission event move.1 move.2
    Tx.require (n = 1) (.ok .stale)
    insertEvent (eventToRow event seq event.status)
      (.error (runtimeDispatchError Externals.sqlErrorText))
    pure (.ok .committed)) db

/-- Everything a committed transition wrote. -/
structure TransitionStep (event : TaskEvent) (db db' : Db) : Prop where
  seq_ge : 2 ≤ event.seq
  version : ∃ row, db.tasks.get event.task_id = some row ∧ row.version = event.seq - 2 ∧
    db.tasks.Puts event.task_id { row with version := event.seq - 2 + 1 } db'.tasks
  admission : ∃ from_ to_ a, lifecycleTransition event.status = some (from_, to_) ∧
    db.taskAdmissions.get event.task_id = some a ∧ a.state ∈ from_ ∧
    db.taskAdmissions.Puts event.task_id
      { a with state := to_, revision := a.revision + 1, updated_at := ts event.timestamp }
      db'.taskAdmissions
  appended : db.taskEvents.insert (eventToRow event event.seq event.status) =
    some db'.taskEvents
  frame : db' = { db with tasks := db'.tasks, taskEvents := db'.taskEvents,
                          taskAdmissions := db'.taskAdmissions }

/-- `transition` either leaves the store as it was or commits a `TransitionStep`. -/
theorem transition_cases {event : TaskEvent} {db db' : Db}
    {r : Except DispatchError LifecycleResult} (h : transition event db = (r, db')) :
    (db' = db ∧ r ≠ .ok .committed) ∨ (r = .ok .committed ∧ TransitionStep event db db') := by
  rcases Tx.commit_cases h with hok | ⟨hdb, e, he, rfl⟩
  · simp only [Tx.bind_ok, Tx.orElse_ok, Tx.read_ok, Tx.require_ok, Tx.pure_ok] at hok
    obtain ⟨q, _, ⟨hq, rfl⟩, _, _, ⟨-, rfl⟩, _, _, ⟨-, rfl⟩, hmore⟩ := hok
    obtain ⟨_, _, ⟨hge, rfl⟩, x, _, ⟨hx, rfl⟩, n, s₁, hver, hmore⟩ := hmore
    obtain ⟨_, _, ⟨hn, rfl⟩, move, _, ⟨hmove, rfl⟩, m, s₂, hadm, hmore⟩ := hmore
    obtain ⟨_, _, ⟨hm, rfl⟩, _, s₃, hev, hr, hdb⟩ := hmore
    obtain ⟨rfl, -⟩ := toI64_eq_some hq
    obtain ⟨rfl, -⟩ := toI64_eq_some hx
    obtain ⟨row, t, rfl, hrow, hrv, htput⟩ := advanceVersion_ok hver (of_decide_eq_true hn)
    obtain ⟨haff, rfl⟩ := Tx.update_ok.1 hadm
    obtain ⟨a, ha, hp, haput⟩ := Table.update_puts (fun r hp => (of_decide_eq_true hp).1)
      (haff.trans (of_decide_eq_true hm))
    obtain ⟨ev, rfl, hins⟩ := insertEvent_ok hev
    subst hdb
    exact Or.inr ⟨hr.symm,
      { seq_ge := of_decide_eq_true hge
        version := ⟨row, hrow, hrv, htput⟩
        admission := ⟨move.1, move.2, a, hmove, ha, (of_decide_eq_true hp).2, haput⟩
        appended := hins
        frame := rfl }⟩
  · refine Or.inl ⟨hdb, ?_⟩
    -- no early return of the body reports success
    refine Tx.Aborts.of_error (P := fun e => id e ≠ .ok .committed) he ?_
    refine Tx.aborts_bind (Tx.aborts_orElse nofun) fun _ => ?_
    refine Tx.aborts_bind (Tx.aborts_read _) fun _ => ?_
    refine Tx.aborts_bind (Tx.aborts_require nofun) fun _ => ?_
    refine Tx.aborts_bind (Tx.aborts_require nofun) fun _ => ?_
    refine Tx.aborts_bind (Tx.aborts_orElse nofun) fun _ => ?_
    refine Tx.aborts_bind (Tx.aborts_update _ _ _ _) fun _ => ?_
    refine Tx.aborts_bind (Tx.aborts_require nofun) fun _ => ?_
    refine Tx.aborts_bind (Tx.aborts_orElse nofun) fun _ => ?_
    refine Tx.aborts_bind (Tx.aborts_update _ _ _ _) fun _ => ?_
    refine Tx.aborts_bind (Tx.aborts_require nofun) fun _ => ?_
    exact Tx.aborts_bind (insertEvent_aborts nofun) fun _ => Tx.aborts_pure _

end

end GuiguBridge
