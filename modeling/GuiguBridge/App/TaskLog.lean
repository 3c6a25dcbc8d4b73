import GuiguBridge.App.Frame

/-!
# Tasks, events and admissions across the bridge

Every component that writes the rows of a task, read as one relation.

* `BridgeCall.admits` — the three rows that a call brings for a new task, and
  `BridgeCall.appends`, the event that a call adds to an old one;
* `BridgeLog` — what one call does to the tasks, the events and the admissions: nothing, **one
  move of an open admission to its next revision**, the rows of a new task, or one event
  together with the move of its admission;
* `bridge_log` — every call is one.
-/

namespace GuiguBridge

open Relational

/-- The event that a call adds to the log of a task. -/
def BridgeCall.appends : BridgeCall → Option TaskEvent
  | .runtime (.transition event) => some event
  | .runtime (.finalizeTerminal _ _ _ _ _ _ event _) => some event
  | .closure context _ => some context.event
  | _ => none

section

variable [Externals]

/-- The rows of a new task that a call brings. -/
def BridgeCall.admits : BridgeCall → Option (TaskRow × EventRow × AdmissionRow)
  | .runtime (.admitTask task event runtime_instance context) =>
    some (taskToRow task.toAgentTask, queuedEvent task.task_id event,
      enqueuedAdmission task.task_id runtime_instance (ts event.timestamp)
        (matrixContext context))
  | .queue (.admitQueuedWorkflow input event_id _ _ _ _) =>
    some (taskToRow input.task, input.eventRow event_id, input.admissionRow)
  | .gateway (.admitTaskReady envelope conversation_id now runtime_instance _ _ _ _ _) =>
    some (envelope.taskRow conversation_id, envelope.queuedRow now,
      envelope.readyAdmission now runtime_instance)
  | .admitRetry input => some (input.taskRow, input.eventRow, input.admissionRow)
  | .admitWorkflow input event_id =>
    some (taskToRow input.task, input.eventRow event_id, input.admissionRow)
  | _ => none

/-- A new task is queued, and its admission is open. -/
theorem BridgeCall.admits_queued {call : BridgeCall} {row : TaskRow} {e : EventRow}
    {a : AdmissionRow} (h : call.admits = some (row, e, a)) :
    e.status = .queued ∧ a.state ≠ .terminal ∧ e.task_id = row.task_id ∧
      a.task_id = row.task_id := by
  unfold BridgeCall.admits at h
  split at h <;> cases h <;> exact ⟨rfl, nofun, rfl, rfl⟩

/-- What one call does to the tasks, their events and their admissions. -/
inductive BridgeLog (db : Db) (call : BridgeCall) (db' : Db) : Prop where
  | same (htasks : db'.tasks = db.tasks) (hevents : db'.taskEvents = db.taskEvents)
      (hadmissions : db'.taskAdmissions = db.taskAdmissions)
  | moved (task_id : TaskId) (a a' : AdmissionRow) (htasks : db'.tasks = db.tasks)
      (hevents : db'.taskEvents = db.taskEvents)
      (ha : db.taskAdmissions.get task_id = some a) (hopen : a.state ≠ .terminal)
      (hopen' : a'.state ≠ .terminal) (hrevision : a'.revision = a.revision + 1)
      (hputs : db.taskAdmissions.Puts task_id a' db'.taskAdmissions)
  | admitted (row : TaskRow) (e : EventRow) (a : AdmissionRow)
      (hcall : call.admits = some (row, e, a)) (h : Admitted row e a db db')
  | appended (event : TaskEvent) (a a' : AdmissionRow) (hcall : call.appends = some event)
      (htasks : VersionsMoved db.tasks db'.tasks)
      (hevent : db.taskEvents.insert (eventToRow event event.seq event.status) =
        some db'.taskEvents)
      (ha : db.taskAdmissions.get event.task_id = some a) (hopen : a.state ≠ .terminal)
      (hclose : a'.state = .terminal ↔ event.status.isTerminal = true)
      (hrevision : a'.revision = a.revision + 1)
      (hputs : db.taskAdmissions.Puts event.task_id a' db'.taskAdmissions)

/-! ### One writer at a time -/

section

variable {call : BridgeCall} {db db' : Db}

/-- A compare-and-set on an admission. -/
theorem updateAdmission_log {p : AdmissionRow → Bool} {f : AdmissionRow → AdmissionRow}
    {hf : ∀ a, (f a).task_id = a.task_id} (task_id : TaskId)
    (hp : ∀ a, p a = true → a.task_id = task_id ∧ a.state ≠ .terminal)
    (hopen : ∀ a, p a = true → (f a).state ≠ .terminal)
    (hrevision : ∀ a, (f a).revision = a.revision + 1) :
    BridgeLog db call (updateAdmission p f hf db).2 := by
  have hkey : ∀ a, p a = true → a.task_id = task_id := fun a h => (hp a h).1
  have hle := Table.affected_le_one (t := db.taskAdmissions) hkey
  rcases Nat.lt_or_ge 0 (db.taskAdmissions.affected p) with hpos | hzero
  · obtain ⟨a, ha, hpa⟩ := (Table.affected_eq_one_iff hkey).mp
      (show db.taskAdmissions.affected p = 1 by omega)
    have hputs : db.taskAdmissions.Puts task_id (f a)
        (db.taskAdmissions.updateWhere p f hf) := Table.puts_updateWhere hkey ha hpa
    exact .moved task_id a (f a) rfl rfl ha (hp a hpa).2 (hopen a hpa) (hrevision a) hputs
  · have hsame : (updateAdmission p f hf db).2.taskAdmissions = db.taskAdmissions :=
      Table.updateWhere_of_affected_zero hf (by omega)
    exact .same rfl rfl hsame

theorem claimAdmission_log (task_id : TaskId) (revision : Nat)
    (runtime_instance : Option String) (now : String) (db : Db) :
    BridgeLog db call (claimAdmission task_id revision runtime_instance now db).2 := by
  refine updateAdmission_log task_id ?_ (fun _ _ => nofun) (fun _ => rfl)
  intro a hp
  have hp := of_decide_eq_true hp
  exact ⟨hp.1, by rw [hp.2.1]; nofun⟩

theorem reclaimStoppedAdmission_log (task_id : TaskId) (revision : Nat)
    (runtime_instance : String) (now : String) (db : Db) :
    BridgeLog db call (reclaimStoppedAdmission task_id revision runtime_instance now db).2 := by
  have hguard : ∀ a : AdmissionRow, (decide (a.task_id = task_id ∧ a.state = .enqueued ∧
      a.revision = revision) && db.stoppedInstance a.runtime_instance) = true →
      a.task_id = task_id ∧ a.state ≠ .terminal := by
    intro a hp
    have hp := of_decide_eq_true (Bool.and_eq_true_iff.mp hp).1
    exact ⟨hp.1, by rw [hp.2.1]; nofun⟩
  exact updateAdmission_log task_id hguard (fun a hp => (hguard a hp).2) (fun _ => rfl)

theorem releaseAdmission_log (task_id : TaskId) (revision : Nat) (now : String) (db : Db) :
    BridgeLog db call (releaseAdmission task_id revision now db).2 := by
  refine updateAdmission_log task_id ?_ (fun _ _ => nofun) (fun _ => rfl)
  intro a hp
  have hp := of_decide_eq_true hp
  exact ⟨hp.1, by rw [hp.2.1]; nofun⟩

theorem enqueueReady_log (task_id : TaskId) (runtime : String) (revision : Nat) (now : String)
    (db : Db) : BridgeLog db call (enqueueReady task_id runtime revision now db).2 := by
  refine updateAdmission_log task_id ?_ (fun _ _ => nofun) (fun _ => rfl)
  intro a hp
  have hp := of_decide_eq_true hp
  exact ⟨hp.1, by rw [hp.2.1]; nofun⟩

theorem restoreReady_log (task_id : TaskId) (runtime : String) (revision : Nat) (now : String)
    (db : Db) : BridgeLog db call (restoreReady task_id runtime revision now db).2 := by
  refine updateAdmission_log task_id ?_ (fun _ _ => nofun) (fun _ => rfl)
  intro a hp
  have hp := of_decide_eq_true hp
  exact ⟨hp.1, by rw [hp.2.1]; nofun⟩

theorem admitTask_log {task : NewTask} {event : TaskEvent} {runtime_instance : String}
    {context : Option AdmissionContext} {r : Except ReliabilityError ReceiptOutcome}
    (h : admitTask task.toAgentTask event runtime_instance context db = (r, db')) :
    BridgeLog db (.runtime (.admitTask task event runtime_instance context)) db' := by
  rcases admitTask_cases h with rfl | ⟨-, t, ev, ad, rc, rfl, ht, hev, had⟩
  · exact .same rfl rfl rfl
  · exact .admitted _ _ _ rfl ⟨ht, hev, had⟩

theorem transition_log {event : TaskEvent} {r : Except DispatchError LifecycleResult}
    (h : transition event db = (r, db')) : BridgeLog db (.runtime (.transition event)) db' := by
  rcases transition_cases h with ⟨rfl, -⟩ | ⟨-, h⟩
  · exact .same rfl rfl rfl
  · obtain ⟨row, hrow, -, htask⟩ := h.version
    obtain ⟨from_, to_, a, hmove, ha, hmem, hputs⟩ := h.admission
    obtain ⟨hto, hfrom, -⟩ := lifecycleTransition_terminal hmove
    refine .appended event a _ rfl (.of_puts hrow htask) h.appended ha ?_ hto rfl hputs
    intro hterm
    exact hfrom (hterm ▸ hmem)

omit [Externals] in
theorem AdmissionState.closable.open {state : AdmissionState} (h : state.closable) :
    state ≠ .terminal := by
  rcases h with rfl | rfl | rfl <;> nofun

theorem finalizeTerminal_log {seen : Db} {lease : Lease} {revision : Nat} {generation : String}
    {state : ContinuationState} {observed_bytes : Nat} {event : TaskEvent} {now : DateTime}
    {r : Except RuntimeError FinalizeResult}
    (h : finalizeTerminal seen lease revision generation state observed_bytes event now db =
      (r, db')) :
    BridgeLog db (.runtime (.finalizeTerminal seen lease revision generation state
      observed_bytes event now)) db' := by
  rcases finalizeTerminal_cases h with ⟨rfl, -⟩ | ⟨-, h⟩
  · exact .same rfl rfl rfl
  · obtain ⟨row, hrow, -, htask⟩ := h.version
    obtain ⟨a, ha, hcl, hputs⟩ := h.admission
    refine .appended event a _ rfl (.of_puts hrow htask) h.appended ha hcl.open ?_ rfl
      hputs
    exact iff_of_true rfl h.terminal

theorem closure_log (fs : FileSystem) (context : ClosureContext) (lease_mode : LeaseMode)
    (db : Db) :
    BridgeLog db (.closure context lease_mode)
      (bridgeStep fs db (.closure context lease_mode)) := by
  rcases closure_cases fs context lease_mode db with h | h
  · rw [h]
    exact .same rfl rfl rfl
  · obtain ⟨a, ha, hcl, hputs⟩ := h.admission
    rw [← h.same_task] at ha hputs
    exact .appended context.event a _ rfl h.tasks h.appended ha hcl.open
      (iff_of_true rfl h.terminal) rfl hputs

theorem WorkflowWrite.log {input : WorkflowAdmission} {event_id : EventId}
    {outcome : ReceiptOutcome} (h : WorkflowWrite input event_id db db' outcome)
    (hcall : call.admits = some (taskToRow input.task, input.eventRow event_id,
      input.admissionRow)) : BridgeLog db call db' := by
  cases h with
  | replayed task_id result_code htasks hevents hadmissions =>
    exact .same htasks hevents hadmissions
  | admitted hnew h => exact .admitted _ _ _ hcall h
  | revised auth a hauth htasks hevents ha hrevision hopen hputs =>
    exact .moved input.task_id a
      { a with revision := a.revision + 1, updated_at := input.now } htasks hevents ha hopen hopen
      rfl hputs

theorem admitRetry_log {input : RetryTaskInput} {r : Except ReliabilityError ReceiptOutcome}
    (h : admitRetry input db = (r, db')) : BridgeLog db (.admitRetry input) db' := by
  rcases admitRetry_cases h with rfl | ⟨-, h, -⟩
  · exact .same rfl rfl rfl
  · exact .admitted _ _ _ rfl h

theorem admitWorkflow_log {input : WorkflowAdmission} {event_id : EventId}
    {r : Except ReliabilityError ReceiptOutcome}
    (h : admitWorkflow input event_id db = (r, db')) :
    BridgeLog db (.admitWorkflow input event_id) db' := by
  rcases admitWorkflow_writes h with ⟨rfl, -⟩ | ⟨outcome, -, h⟩
  · exact .same rfl rfl rfl
  · exact h.log rfl

theorem admitQueuedWorkflow_log {input : WorkflowAdmission} {event_id : EventId}
    {queue_id : Uuid} {room_id : String} {thread_root : Option String} {capacity : Int}
    {r : Except ReliabilityError QueueReservation}
    (h : admitQueuedWorkflow input event_id queue_id room_id thread_root capacity db =
      (r, db')) :
    BridgeLog db (.queue (.admitQueuedWorkflow input event_id queue_id room_id thread_root
      capacity)) db' := by
  rcases admitQueuedWorkflow_writes h with ⟨rfl, -⟩ | ⟨reservation, outcome, -, -, h⟩
  · exact .same rfl rfl rfl
  · exact h.log rfl

/-- A call that does not write the tables of the log. -/
theorem BridgeLog.of_frame {writes : List DbTable} (h : Db.Frame writes db db')
    (htasks : writes.contains .tasks = false) (hevents : writes.contains .taskEvents = false)
    (hadmissions : writes.contains .taskAdmissions = false) : BridgeLog db call db' :=
  .same (h .tasks htasks) (h .taskEvents hevents) (h .taskAdmissions hadmissions)

end

/-! ### Every call -/

/-- **Every call is a step of the log.** -/
theorem bridge_log (fs : FileSystem) (db : Db) (call : BridgeCall) :
    BridgeLog db call (bridgeStep fs db call) := by
  cases call with
  | runtime call =>
    cases call with
    | admitTask task event runtime_instance context => exact admitTask_log rfl
    | claimAdmission task_id revision runtime_instance now =>
      exact claimAdmission_log task_id revision runtime_instance now db
    | reclaimStoppedAdmission task_id revision runtime_instance now =>
      exact reclaimStoppedAdmission_log task_id revision runtime_instance now db
    | releaseAdmission task_id revision now => exact releaseAdmission_log task_id revision now db
    | transition event => exact transition_log rfl
    | finalizeTerminal seen lease revision generation state observed_bytes event now =>
      exact finalizeTerminal_log rfl
    | _ => exact .of_frame (bridgeStep_frame fs db _) rfl rfl rfl
  | queue call =>
    cases call with
    | admitQueuedWorkflow input event_id queue_id room_id thread_root capacity =>
      exact admitQueuedWorkflow_log rfl
    | _ => exact .of_frame (bridgeStep_frame fs db _) rfl rfl rfl
  | gateway call =>
    cases call with
    | admitTaskReady envelope conversation_id now runtime_instance sender_user event_id room_id
        thread_root generation =>
      rcases admitTaskReady_cases (Prod.mk.eta (p := admitTaskReady envelope conversation_id now
        runtime_instance sender_user event_id room_id thread_root generation db)).symm with
        ⟨hdb, -⟩ | ⟨-, h⟩
      · have hstep : bridgeStep fs db (.gateway (.admitTaskReady envelope conversation_id now
            runtime_instance sender_user event_id room_id thread_root generation)) = db := hdb
        rw [hstep]
        exact .same rfl rfl rfl
      · exact .admitted _ _ _ rfl h.admitted
    | _ => exact .of_frame (bridgeStep_frame fs db _) rfl rfl rfl
  | admitRetry input => exact admitRetry_log rfl
  | admitWorkflow input event_id => exact admitWorkflow_log rfl
  | closure context lease_mode => exact closure_log fs context lease_mode db
  | enqueueReady task_id runtime revision now =>
    exact enqueueReady_log task_id runtime revision now db
  | restoreReady task_id runtime revision now =>
    exact restoreReady_log task_id runtime revision now db
  | _ => exact .of_frame (bridgeStep_frame fs db _) rfl rfl rfl

end

end GuiguBridge
