import GuiguBridge.Runtime.TerminalClosure

/-!
# Admission

How a task enters the store and which runtime may run it (`src/src/storage/reliability.rs`).

* `admitTask` — the task, its first event and its admission in one transaction, bound to the
  transport receipt of the message it came from; **a message seen before is a replay and
  writes nothing**;
* `claimAdmission`, `reclaimStoppedAdmission`, `releaseAdmission` — the compare-and-sets that
  move an admission between runtimes;
* `beginRuntime`, `stoppingRuntime`, `stopRuntime`, `heartbeatRuntime` — the epochs of the
  runtimes;
* `classifyAdmissions` — which tasks a starting runtime may take.
-/

namespace GuiguBridge

open Relational

inductive ReliabilityError where
  | sql (source : StorageError)
  | malformed
  | notTerminal
  | sourceMismatch
  | workflowConflict
  | workflowUnauthorized
  | queueFull
  deriving DecidableEq

inductive ReceiptOutcome where
  | inserted
  | replay (task_id : Option TaskId) (result_code : String)
  deriving DecidableEq

/-- `AdmissionContext`: the message a task came from. -/
structure AdmissionContext where
  transport : String
  external_event_id : String
  room_id : String
  thread_root : Option String
  reply_event_id : String
  monitor_room : Option String
  monitor_generation : Nat
  deriving DecidableEq

section

variable [Externals]

/-! ### Admission of a task -/

/-- The receipt that reserves a message for its task. -/
def reservedReceipt (task : AgentTask) (event : TaskEvent) (context : AdmissionContext) :
    TransportReceiptRow :=
  { transport := context.transport, external_event_id := context.external_event_id,
    room_id := context.room_id, thread_ref := context.thread_root,
    reply_event_id := some context.reply_event_id,
    conversation_id := some task.conversation_id, selected_endpoint_id := some task.to_agent,
    task_id := none, source_task_id := none, retry_task_id := none,
    receipt_kind := .ordinary, route_kind := "message", state := .reserved,
    result_code := "reserved", admin_actor := none, command_reply_body := none,
    created_at := ts event.timestamp, updated_at := ts event.timestamp }

/-- Reserve the receipt; a message seen before ends the call as a replay. -/
def reserveReceipt (task : AgentTask) (event : TaskEvent) (context : AdmissionContext) :
    Tx Db (Except ReliabilityError ReceiptOutcome) Unit := do
  let inserted ← Tx.insertOrIgnore Db.transportReceiptsL (reservedReceipt task event context)
  if inserted = 1 then pure ()
  else do
    let row ← Tx.read fun db =>
      db.transportReceipts.get (context.transport, context.external_event_id)
    let row ← Tx.orElse row (.error (.sql .rowNotFound))
    Tx.require (row.receipt_kind = .ordinary) (.error .malformed)
    Tx.abort (.ok (.replay row.task_id row.result_code))

/-- Bind the reserved receipt to the task. -/
def bindReceipt (task_id : TaskId) (at_ : String) (context : AdmissionContext) :
    Tx Db (Except ReliabilityError ReceiptOutcome) Unit := do
  let n ← Tx.update Db.transportReceiptsL
    (fun r => decide (r.transport = context.transport ∧
      r.external_event_id = context.external_event_id ∧ r.state = .reserved ∧
      r.task_id = none))
    (fun r => { r with task_id := some task_id, state := .admitted,
                       result_code := "admitted", updated_at := at_ })
  Tx.require (n = 1) (.error .malformed)

/-- Only a Matrix message has a room that the outcome of its task is reported to. -/
def matrixContext (context : Option AdmissionContext) : Option AdmissionContext :=
  context.filter fun value =>
    value.transport = "matrix" ∨ value.transport = "matrix-workflow"

/-- The admission that `admit_task` writes. -/
def enqueuedAdmission (task_id : TaskId) (runtime_instance : String) (at_ : String)
    (context : Option AdmissionContext) : AdmissionRow :=
  { task_id := task_id, state := .enqueued, revision := 0,
    runtime_instance := some runtime_instance,
    reply_room := context.map (·.room_id),
    reply_thread_root := context.bind (·.thread_root),
    reply_event_id := context.map (·.reply_event_id),
    monitor_room := context.bind (·.monitor_room),
    monitor_generation := context.map fun value => min value.monitor_generation (2 ^ 63 - 1),
    render_version := some "v1", created_at := at_, updated_at := at_ }

/-- The first event of a task. -/
def queuedEvent (task_id : TaskId) (event : TaskEvent) : EventRow :=
  { event_id := event.id, task_id := task_id, seq := 1, status := .queued,
    timestamp := ts event.timestamp, payload := payloadText event.payload }

/-- Run a step of the receipt when the task came with one. -/
def withContext {ρ : Type} (context : Option AdmissionContext)
    (step : AdmissionContext → Tx Db ρ Unit) : Tx Db ρ Unit :=
  match context with
  | some context => step context
  | none => pure ()

/-- `ReliabilityStore::admit_task`. -/
def admitTask (task : AgentTask) (event : TaskEvent) (runtime_instance : String)
    (context : Option AdmissionContext) (db : Db) :
    Except ReliabilityError ReceiptOutcome × Db :=
  Tx.commit id (do
    withContext context (reserveReceipt task event)
    let version ← Tx.orElse (toI64 task.version) (.error .malformed)
    Tx.insert Db.tasksL { taskToRow task with version := version }
      (.error (.sql .constraint))
    insertEvent (queuedEvent task.task_id event) (.error (.sql .constraint))
    Tx.insert Db.taskAdmissionsL
      (enqueuedAdmission task.task_id runtime_instance (ts event.timestamp)
        (matrixContext context))
      (.error (.sql .constraint))
    withContext context (bindReceipt task.task_id (ts event.timestamp))
    pure (.ok .inserted)) db

omit [Externals] in
/-- The receipt steps of an admission touch the transport receipts only. -/
theorem withContext_ok {context : Option AdmissionContext}
    {step : AdmissionContext → Tx Db (Except ReliabilityError ReceiptOutcome) Unit}
    (hstep : ∀ c s s' u, step c s = .ok (u, s') → ∃ t, s' = { s with transportReceipts := t })
    {s s' : Db} {u : Unit} (h : withContext context step s = .ok (u, s')) :
    ∃ t, s' = { s with transportReceipts := t } := by
  cases context with
  | none =>
    obtain ⟨-, rfl⟩ := Tx.pure_ok.1 h
    exact ⟨_, rfl⟩
  | some context => exact hstep context s s' u h

theorem reserveReceipt_ok {task : AgentTask} {event : TaskEvent} {context : AdmissionContext}
    {s s' : Db} {u : Unit} (h : reserveReceipt task event context s = .ok (u, s')) :
    ∃ t, s' = { s with transportReceipts := t } := by
  simp only [reserveReceipt, Tx.bind_ok, Tx.insertOrIgnore_ok, Tx.ite_ok, Tx.pure_ok,
    Tx.abort_ok] at h
  obtain ⟨n, s₁, hins, ⟨-, -, rfl⟩ | ⟨-, _, _, _, _, _, _, _, _, _, hf⟩⟩ := h
  · rcases hins with ⟨-, t, -, rfl⟩ | ⟨-, -, rfl⟩
    · exact ⟨t, rfl⟩
    · exact ⟨_, rfl⟩
  · exact hf.elim

omit [Externals] in
theorem bindReceipt_ok {task_id : TaskId} {at_ : String} {context : AdmissionContext}
    {s s' : Db} {u : Unit} (h : bindReceipt task_id at_ context s = .ok (u, s')) :
    ∃ t, s' = { s with transportReceipts := t } := by
  simp only [bindReceipt, Tx.bind_ok, Tx.require_ok] at h
  obtain ⟨_, _, ⟨-, rfl⟩, -, rfl⟩ := h
  exact ⟨_, rfl⟩

/-- `admit_task` either leaves the store as it was or inserts the task, its first event and
its admission. -/
theorem admitTask_cases {task : AgentTask} {event : TaskEvent} {runtime_instance : String}
    {context : Option AdmissionContext} {db db' : Db}
    {r : Except ReliabilityError ReceiptOutcome}
    (h : admitTask task event runtime_instance context db = (r, db')) :
    db' = db ∨
    (r = .ok .inserted ∧ ∃ t ev ad rc,
      db' = { db with tasks := t, taskEvents := ev, taskAdmissions := ad,
                      transportReceipts := rc } ∧
      db.tasks.insert (taskToRow task) = some t ∧
      db.taskEvents.insert (queuedEvent task.task_id event) = some ev ∧
      db.taskAdmissions.insert
        (enqueuedAdmission task.task_id runtime_instance (ts event.timestamp)
          (matrixContext context)) = some ad) := by
  rcases Tx.commit_cases h with hok | ⟨hdb, -⟩
  · simp only [Tx.bind_ok, Tx.orElse_ok, Tx.insert_ok, Tx.pure_ok] at hok
    obtain ⟨_, s₁, hres, v, _, ⟨hv, rfl⟩, _, _, ⟨t, ht, rfl⟩, hmore⟩ := hok
    obtain ⟨_, s₂, hev, _, _, ⟨ad, had, rfl⟩, _, s₃, hbind, hr, hdb⟩ := hmore
    obtain ⟨rc, rfl⟩ := withContext_ok (fun c s s' u => reserveReceipt_ok) hres
    obtain ⟨rfl, -⟩ := toI64_eq_some hv
    obtain ⟨ev, rfl, hins⟩ := insertEvent_ok hev
    obtain ⟨rc', rfl⟩ := withContext_ok (fun c s s' u => bindReceipt_ok) hbind
    subst hdb
    exact Or.inr ⟨hr.symm, t, ev, ad, rc', rfl, ht, hins, had⟩
  · exact Or.inl hdb

end

/-! ### Ownership of an admission -/

/-- A single compare-and-set on an admission; the call reports whether it took effect. -/
def updateAdmission (p : AdmissionRow → Bool) (f : AdmissionRow → AdmissionRow)
    (hf : ∀ a, (f a).task_id = a.task_id) (db : Db) : Bool × Db :=
  (decide (db.taskAdmissions.affected p = 1),
    { db with taskAdmissions := db.taskAdmissions.updateWhere p f hf })

/-- `ReliabilityStore::claim_admission`. -/
def claimAdmission (task_id : TaskId) (revision : Nat) (runtime_instance : Option String)
    (now : String) : Db → Bool × Db :=
  updateAdmission
    (fun a => decide (a.task_id = task_id ∧ a.state = .ready ∧ a.revision = revision))
    (fun a => { a with state := .enqueued, revision := a.revision + 1,
                       runtime_instance := runtime_instance, updated_at := now })
    (fun _ => rfl)

/-- `SELECT instance_token FROM runtime_instances WHERE state='stopped'` holds `token`. -/
def Db.stoppedInstance (db : Db) (token : Option String) : Bool :=
  db.runtimeInstances.rows.any fun r =>
    decide (some r.instance_token = token ∧ r.state = .stopped)

/-- `ReliabilityStore::reclaim_stopped_admission`. -/
def reclaimStoppedAdmission (task_id : TaskId) (revision : Nat) (runtime_instance : String)
    (now : String) (db : Db) : Bool × Db :=
  updateAdmission
    (fun a => decide (a.task_id = task_id ∧ a.state = .enqueued ∧ a.revision = revision) &&
      db.stoppedInstance a.runtime_instance)
    (fun a => { a with revision := a.revision + 1, runtime_instance := some runtime_instance,
                       updated_at := now })
    (fun _ => rfl) db

/-- `ReliabilityStore::release_admission`. -/
def releaseAdmission (task_id : TaskId) (revision : Nat) (now : String) : Db → Bool × Db :=
  updateAdmission
    (fun a => decide (a.task_id = task_id ∧ a.state = .enqueued ∧ a.revision = revision))
    (fun a => { a with state := .ready, revision := a.revision + 1, updated_at := now })
    (fun _ => rfl)

/-! ### The epochs of the runtimes

What the calls below do to the instances; the rows of `runtime_owner_evidence`, which they write
beside them, are in `Storage.OwnerEvidence`. -/

/-- A single statement on a runtime instance; the call reports whether it took effect. -/
def updateInstance (p : RuntimeInstanceRow → Bool)
    (f : RuntimeInstanceRow → RuntimeInstanceRow)
    (hf : ∀ r, (f r).instance_token = r.instance_token) (db : Db) : Bool × Db :=
  (decide (db.runtimeInstances.affected p = 1),
    { db with runtimeInstances := db.runtimeInstances.updateWhere p f hf })

/-- `ReliabilityStore::begin_runtime`; a unique index admits one active instance. -/
def beginRuntime (token fingerprint now : String) (db : Db) : Bool × Db :=
  if db.runtimeInstances.rows.any fun r => decide (r.state = .active) then (false, db)
  else
    match db.runtimeInstances.insert
      { instance_token := token, started_at := now, heartbeat_at := now, state := .active,
        process_fingerprint := fingerprint } with
    | some t => (true, { db with runtimeInstances := t })
    | none => (false, db)

theorem beginRuntime_frame (token fingerprint now : String) (db : Db) :
    ∃ t, (beginRuntime token fingerprint now db).2 = { db with runtimeInstances := t } := by
  unfold beginRuntime
  split
  · exact ⟨_, rfl⟩
  · split
    · exact ⟨_, rfl⟩
    · exact ⟨_, rfl⟩

/-- `ReliabilityStore::stopping_runtime`. -/
def stoppingRuntime (token now : String) : Db → Bool × Db :=
  updateInstance (fun r => decide (r.instance_token = token ∧ r.state = .active))
    (fun r => { r with state := .stopping, heartbeat_at := now }) (fun _ => rfl)

/-- `ReliabilityStore::stop_runtime`. -/
def stopRuntime (token now : String) : Db → Bool × Db :=
  updateInstance
    (fun r => decide (r.instance_token = token ∧ (r.state = .active ∨ r.state = .stopping)))
    (fun r => { r with state := .stopped, heartbeat_at := now }) (fun _ => rfl)

/-- The statement of `ReliabilityStore::publish_owner_heartbeat` on the instance. -/
def heartbeatRuntime (token now : String) : Db → Bool × Db :=
  updateInstance (fun r => decide (r.instance_token = token ∧ r.state = .active))
    (fun r => { r with heartbeat_at := now }) (fun _ => rfl)

/-! ### What a starting runtime finds -/

structure AdmissionRecovery where
  eligible : List (TaskId × Nat)
  covered : List TaskId
  blocked : Bool
  deriving DecidableEq

/-- The state of the runtime that an admission names, by the join on the instances. -/
def Db.ownerState (db : Db) (a : AdmissionRow) : Option InstanceState :=
  (a.runtime_instance.bind db.runtimeInstances.get).map (·.state)

/-- The admission may be taken: nobody has it, or the one that had it stopped. -/
def Db.eligible (db : Db) (a : AdmissionRow) : Bool :=
  decide (a.state = .ready) ||
    decide (a.state = .enqueued ∧ db.ownerState a = some .stopped)

/-- The admissions that `classify_admissions` reads, in the order of their creation. -/
def Db.openAdmissions (db : Db) : List AdmissionRow :=
  (db.taskAdmissions.rows.filter fun a =>
    decide (a.state ≠ .terminal ∧ a.state ≠ .recoveryNeeded)).mergeSort
      fun a b => decide (a.created_at ≤ b.created_at)

/-- One row of the loop of `classify_admissions`. -/
def classifyRow (db : Db) (result : AdmissionRecovery) (a : AdmissionRow) : AdmissionRecovery :=
  let result := { result with covered := result.covered ++ [a.task_id] }
  if db.eligible a then
    { result with eligible := result.eligible ++ [(a.task_id, a.revision)] }
  else { result with blocked := true }

/-- `ReliabilityStore::classify_admissions`. -/
def classifyAdmissions (db : Db) : AdmissionRecovery :=
  db.openAdmissions.foldl (classifyRow db) ⟨[], [], false⟩

end GuiguBridge
