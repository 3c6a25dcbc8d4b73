import GuiguBridge.Storage.Retry

/-!
# Workflow admission

A workflow envelope either brings a new task or acts on one that is there
(`admit_workflow_tx`, `admit_workflow` and `admit_queued_workflow` of
`src/src/storage/reliability.rs`, and their caller `route_workflow` of
`src/src/matrix/router.rs`).

* `authorizeWorkflow` — who may act on a task, and at which revision of its admission;
* `reserveEnvelope` — an envelope seen before, by its event or by its idempotency key, is a
  replay when it says the same and a conflict when it does not;
* `admitWorkflowTx` — the rows of a new task, or the next revision of an old one, and the
  delivery; `admitWorkflowTx_ok`, everything it can write;
* `admitQueuedWorkflow` — the same with a place in the bounded queue of the target;
* `routeWorkflow` — the admission that the router asks for.
-/

namespace GuiguBridge

open Relational

inductive WorkflowKind where
  | dispatch | ack | handoff | command
  deriving DecidableEq

/-- `kind_name`. -/
def WorkflowKind.name : WorkflowKind → String
  | .dispatch => "dispatch"
  | .ack => "ack"
  | .handoff => "handoff"
  | .command => "command"

inductive WorkflowRole where
  | coordinator | developer | reviewer | observer
  deriving DecidableEq

structure WorkflowAuthorization where
  endpoint : EndpointId
  role : WorkflowRole
  expected_revision : Nat
  deriving DecidableEq

structure WorkflowAdmission where
  transport : String
  external_event_id : String
  sender_endpoint_id : EndpointId
  target_endpoint_id : EndpointId
  task_id : TaskId
  correlation_id : String
  idempotency_key : String
  kind : String
  body_hash : String
  now : String
  task : AgentTask
  delivery_id : DeliveryId
  authorization : Option WorkflowAuthorization
  deriving DecidableEq

namespace WorkflowAdmission

/-- The row that reserves an envelope. -/
def envelopeRow (input : WorkflowAdmission) : WorkflowEnvelopeRow :=
  { transport := input.transport, external_event_id := input.external_event_id,
    sender_endpoint_id := input.sender_endpoint_id,
    target_endpoint_id := input.target_endpoint_id, task_id := input.task_id,
    correlation_id := input.correlation_id, idempotency_key := input.idempotency_key,
    schema := "workflow.v1", kind := input.kind, state := "reserved", outcome := none,
    body_hash := input.body_hash, created_at := input.now, updated_at := input.now }

/-- An envelope with the same idempotency key says the same. -/
def repeats (input : WorkflowAdmission) (row : WorkflowEnvelopeRow) : Bool :=
  decide (row.schema = "workflow.v1" ∧ row.kind = input.kind ∧ row.task_id = input.task_id ∧
    row.body_hash = input.body_hash ∧ row.target_endpoint_id = input.target_endpoint_id ∧
    row.correlation_id = input.correlation_id)

/-- The envelope of the same event says the same. -/
def replays (input : WorkflowAdmission) (row : WorkflowEnvelopeRow) : Bool :=
  input.repeats row && decide (row.sender_endpoint_id = input.sender_endpoint_id ∧
    row.idempotency_key = input.idempotency_key)

/-- The first event of a new task; its identity is freshly generated. -/
def eventRow (input : WorkflowAdmission) (event_id : EventId) : EventRow :=
  { event_id := event_id, task_id := input.task.task_id, seq := 1, status := .queued,
    timestamp := input.now, payload := "\"queued\"" }

/-- The admission of a new task: enqueued, and owned by no runtime. -/
def admissionRow (input : WorkflowAdmission) : AdmissionRow :=
  { task_id := input.task.task_id, state := .enqueued, revision := 0,
    runtime_instance := none, reply_room := none,
    reply_thread_root := some input.external_event_id,
    reply_event_id := some input.external_event_id, monitor_room := none,
    monitor_generation := some 0, render_version := some "v1", created_at := input.now,
    updated_at := input.now }

/-- The attempt that the delivery carries. -/
def attempt (input : WorkflowAdmission) : Nat :=
  match input.authorization with
  | none => 1
  | some auth => auth.expected_revision + 2

end WorkflowAdmission

/-- The role may act on the task of this row; the text of an endpoint is never empty. -/
def WorkflowAuthorization.allows (auth : WorkflowAuthorization) (correlation_id : String)
    (row : TaskRow) : Bool :=
  match auth.role with
  | .coordinator => true
  | .developer => decide (row.to_agent = auth.endpoint)
  | .reviewer => decide (row.to_agent = auth.endpoint) && correlation_id.startsWith "review:"
  | .observer => false

/-- The checks of an envelope that acts on a task. -/
def authorizeWorkflow (input : WorkflowAdmission) : Tx Db ReliabilityError Unit :=
  match input.authorization with
  | none => pure ()
  | some auth => do
    let row ← Tx.read fun db => db.tasks.get input.task_id
    let row ← Tx.orElse row .workflowUnauthorized
    Tx.require (auth.allows input.correlation_id row) .workflowUnauthorized
    let admission ← Tx.read fun db => db.taskAdmissions.get input.task_id
    let admission ← Tx.orElse admission .workflowUnauthorized
    Tx.require (admission.revision = auth.expected_revision) .workflowConflict
    Tx.require (admission.state ≠ .terminal ∧ admission.state ≠ .recoveryNeeded)
      .workflowUnauthorized

/-- What the caller learns of an envelope seen before. -/
def replayedEnvelope (row : WorkflowEnvelopeRow) : ReceiptOutcome :=
  .replay (some row.task_id) (row.outcome.getD "reserved")

/-- Reserve the envelope; `some` outcome ends the admission as a replay.  The event is the
target of the conflict clause and is looked at first. -/
def reserveEnvelope (input : WorkflowAdmission) :
    Tx Db ReliabilityError (Option ReceiptOutcome) := do
  let byEvent ← Tx.read fun db =>
    db.workflowEnvelopes.get (input.transport, input.external_event_id)
  let byKey ← Tx.read fun db => db.workflowEnvelopes.rows.find? fun r =>
    decide (r.sender_endpoint_id = input.sender_endpoint_id ∧
      r.idempotency_key = input.idempotency_key)
  match byEvent, byKey with
  | some row, _ => do
    Tx.require (input.replays row) .workflowConflict
    pure (some (replayedEnvelope row))
  | none, some row => do
    Tx.require (input.repeats row) .workflowConflict
    pure (some (replayedEnvelope row))
  | none, none => do
    Tx.insert Db.workflowEnvelopesL input.envelopeRow (.sql .constraint)
    pure none

/-- An old task moves to its next revision. -/
def reviseAdmission (input : WorkflowAdmission) (revision : Nat) :
    Tx Db ReliabilityError Nat :=
  Tx.update Db.taskAdmissionsL
    (fun a => decide (a.task_id = input.task_id ∧ a.revision = revision))
    (fun a => { a with revision := a.revision + 1, updated_at := input.now })

section

variable [Externals]

/-- A new task gets its three rows; an old one moves to its next revision. -/
def admitWorkflowTask (input : WorkflowAdmission) (event_id : EventId) :
    Tx Db ReliabilityError Unit :=
  match input.authorization with
  | none => do
    let version ← Tx.orElse (toI64 input.task.version) .malformed
    Tx.insert Db.tasksL { taskToRow input.task with version := version } (.sql .constraint)
    insertEvent (input.eventRow event_id) (.sql .constraint)
    Tx.insert Db.taskAdmissionsL input.admissionRow (.sql .constraint)
  | some auth => do
    let n ← reviseAdmission input auth.expected_revision
    Tx.require (n = 1) .workflowConflict

/-- The delivery and its disposition; `(task_id, attempt)` is unique in both tables. -/
def insertWorkflowDelivery (input : WorkflowAdmission) : Tx Db ReliabilityError Unit := do
  let taken ← Tx.read fun db => db.deliveries.rows.any fun d =>
    decide (d.task_id = input.task.task_id ∧ d.attempt = input.attempt)
  Tx.require (!taken) (.sql .constraint)
  Tx.insert Db.deliveriesL
    { delivery_id := input.delivery_id, task_id := input.task.task_id,
      attempt := input.attempt, target_endpoint_id := input.target_endpoint_id,
      dispatched_at := input.now, acknowledged_at := none } (.sql .constraint)
  let taken ← Tx.read fun db => db.deliveryDispositions.rows.any fun d =>
    decide (d.task_id = input.task.task_id ∧ d.attempt = input.attempt)
  Tx.require (!taken) (.sql .constraint)
  Tx.insert Db.deliveryDispositionsL
    { delivery_id := input.delivery_id, task_id := input.task.task_id,
      attempt := input.attempt, state := .prepared, session_id := none,
      child_fingerprint := none, reason_code := none } (.sql .constraint)

/-- `ReliabilityStore::admit_workflow_tx`. -/
def admitWorkflowTx (input : WorkflowAdmission) (event_id : EventId) :
    Tx Db ReliabilityError ReceiptOutcome := do
  authorizeWorkflow input
  let seen ← reserveEnvelope input
  match seen with
  | some outcome => pure outcome
  | none => do
    admitWorkflowTask input event_id
    insertWorkflowDelivery input
    pure .inserted

/-- `ReliabilityStore::admit_workflow`. -/
def admitWorkflow (input : WorkflowAdmission) (event_id : EventId) (db : Db) :
    Except ReliabilityError ReceiptOutcome × Db :=
  Tx.commit .error (do
    let outcome ← admitWorkflowTx input event_id
    pure (.ok outcome)) db

structure QueueReservation where
  queue_id : Uuid
  sequence : Nat
  state : QueueState
  deriving DecidableEq

/-- The states of the queue that count against its capacity. -/
def QueueState.active : QueueState → Bool
  | .queued | .claimed | .running | .paused => true
  | _ => false

/-- The place of the task in the queue of its target. -/
def WorkflowAdmission.queueRow (input : WorkflowAdmission) (queue_id : Uuid) (room_id : String)
    (thread_root : Option String) (sequence : Nat) : WorkQueueRow :=
  { queue_id := queue_id, task_id := input.task_id, delivery_id := input.delivery_id,
    target_endpoint_id := input.target_endpoint_id, room_id := room_id,
    thread_root := thread_root, sender_endpoint_id := input.sender_endpoint_id,
    idempotency_key := input.idempotency_key, body_hash := input.body_hash,
    lane := .ordinary, state := .queued, sequence := sequence, revision := 0,
    claimed_at := none, send_started := false, runtime_owner := none, owner_fence := none,
    reason := none, created_at := input.now, updated_at := input.now }

/-- The counter of the target is created or takes the new capacity, and gives out its next
sequence number. -/
def nextSequence (target : EndpointId) (capacity : Int) (now : String) :
    Tx Db ReliabilityError Nat := do
  Tx.require (1 ≤ capacity) (.sql .constraint)
  let _ ← Tx.insertOrIgnore Db.agentQueueCountersL
    { target_endpoint_id := target, next_sequence := 1, capacity := capacity,
      updated_at := now }
  let _ ← Tx.update Db.agentQueueCountersL (fun c => decide (c.target_endpoint_id = target))
    (fun c => { c with capacity := capacity, updated_at := now })
  let counter ← Tx.read fun db => db.agentQueueCounters.get target
  let counter ← Tx.orElse counter (.sql .rowNotFound)
  let _ ← Tx.update Db.agentQueueCountersL (fun c => decide (c.target_endpoint_id = target))
    (fun c => { c with next_sequence := c.next_sequence + 1, updated_at := now })
  pure counter.next_sequence

/-- The row of the queue; the key and the sequence number are unique for a target. -/
def insertQueueRow (row : WorkQueueRow) : Tx Db ReliabilityError Unit := do
  let taken ← Tx.read fun db => db.agentWorkQueue.rows.any fun q =>
    decide (q.target_endpoint_id = row.target_endpoint_id ∧
      (q.idempotency_key = row.idempotency_key ∨ q.sequence = row.sequence))
  Tx.require (!taken) (.sql .constraint)
  Tx.insert Db.agentWorkQueueL row (.sql .constraint)

/-- The queue row of an admission: the one there is for a replay, a new one otherwise. -/
def reserveWorkflowQueue (input : WorkflowAdmission) (queue_id : Uuid) (room_id : String)
    (thread_root : Option String) (capacity : Int) :
    ReceiptOutcome → Tx Db ReliabilityError QueueReservation
  | .replay _ _ => do
    let row ← Tx.read fun db => db.agentWorkQueue.rows.find? fun q =>
      decide (q.target_endpoint_id = input.target_endpoint_id ∧
        q.idempotency_key = input.idempotency_key)
    let row ← Tx.orElse row .workflowConflict
    pure ⟨row.queue_id, row.sequence, row.state⟩
  | .inserted => do
    let active ← Tx.read fun db => db.agentWorkQueue.rows.countP fun q =>
      decide (q.target_endpoint_id = input.target_endpoint_id ∧ q.lane = .ordinary) &&
        q.state.active
    Tx.require ((active : Int) < capacity) .queueFull
    let sequence ← nextSequence input.target_endpoint_id capacity input.now
    insertQueueRow (input.queueRow queue_id room_id thread_root sequence)
    pure ⟨queue_id, sequence, .queued⟩

/-- `ReliabilityStore::admit_queued_workflow`. -/
def admitQueuedWorkflow (input : WorkflowAdmission) (event_id : EventId) (queue_id : Uuid)
    (room_id : String) (thread_root : Option String) (capacity : Int) (db : Db) :
    Except ReliabilityError QueueReservation × Db :=
  Tx.commit .error (do
    let outcome ← admitWorkflowTx input event_id
    let reservation ← reserveWorkflowQueue input queue_id room_id thread_root capacity outcome
    pure (.ok reservation)) db

/-! ### The router -/

/-- `Uuid::NAMESPACE_OID`. -/
def namespaceOid : Uuid := 0x6ba7b8129dad11d180b400c04fd430c8#128

/-- `WorkflowEnvelope`, as far as the router reads it. -/
structure WorkflowEnvelope where
  kind : WorkflowKind
  message_id : String
  sender : EndpointId
  recipient : EndpointId
  task_id : TaskId
  correlation_id : String
  idempotency_key : String
  body : String
  deriving DecidableEq

/-- The task that an envelope brings. -/
def WorkflowEnvelope.task (envelope : WorkflowEnvelope) (conversation_id : ConversationId) :
    AgentTask :=
  { task_id := envelope.task_id, root_task_id := envelope.task_id, parent_task_id := none,
    from_agent := envelope.sender, to_agent := envelope.recipient,
    conversation_id := conversation_id, reply_to := none, text := envelope.body,
    priority := .default, depth := 0, hops := 1, deadline := none, version := 0 }

/-- The admission that `route_workflow` asks for; only a dispatch brings a new task.  Its
instant is written by `to_rfc3339`. -/
def WorkflowEnvelope.admission (envelope : WorkflowEnvelope) (conversation_id : ConversationId)
    (role : WorkflowRole) (expected_revision : Nat) (delivery_id : DeliveryId)
    (now : DateTime) : WorkflowAdmission :=
  { transport := "matrix-workflow", external_event_id := envelope.message_id,
    sender_endpoint_id := envelope.sender, target_endpoint_id := envelope.recipient,
    task_id := envelope.task_id, correlation_id := envelope.correlation_id,
    idempotency_key := envelope.idempotency_key, kind := envelope.kind.name,
    body_hash := Externals.uuidText (Externals.newV5 namespaceOid envelope.body),
    now := Externals.toRfc3339 now, task := envelope.task conversation_id,
    delivery_id := delivery_id,
    authorization :=
      if envelope.kind = .dispatch then none
      else some ⟨envelope.sender, role, expected_revision⟩ }

/-- The call of the store that `route_workflow` makes. -/
def routeWorkflow (envelope : WorkflowEnvelope) (conversation_id : ConversationId)
    (role : WorkflowRole) (expected_revision : Nat) (delivery_id : DeliveryId)
    (event_id : EventId) (queue_id : Uuid) (now : DateTime) (db : Db) :
    Except ReliabilityError QueueReservation × Db :=
  admitQueuedWorkflow
    (envelope.admission conversation_id role expected_revision delivery_id now) event_id
    queue_id "workflow" (some envelope.correlation_id) 32 db

/-! ### What an admission writes -/

omit [Externals] in
theorem authorizeWorkflow_ok {input : WorkflowAdmission} {s s' : Db} {u : Unit}
    (h : authorizeWorkflow input s = .ok (u, s')) : s' = s := by
  unfold authorizeWorkflow at h
  cases hauth : input.authorization with
  | none =>
    rw [hauth] at h
    exact (Tx.pure_ok.1 h).2.symm
  | some auth =>
    rw [hauth] at h
    simp only [Tx.bind_ok, Tx.read_ok, Tx.orElse_ok, Tx.require_ok] at h
    obtain ⟨_, _, ⟨-, rfl⟩, _, _, ⟨-, rfl⟩, _, _, ⟨-, rfl⟩, hmore⟩ := h
    obtain ⟨_, _, ⟨-, rfl⟩, _, _, ⟨-, rfl⟩, _, _, ⟨-, rfl⟩, -, rfl⟩ := hmore
    rfl

omit [Externals] in
theorem reserveEnvelope_ok {input : WorkflowAdmission} {s s' : Db}
    {seen : Option ReceiptOutcome} (h : reserveEnvelope input s = .ok (seen, s')) :
    ∃ t, s' = { s with workflowEnvelopes := t } := by
  simp only [reserveEnvelope, Tx.bind_ok, Tx.read_ok] at h
  obtain ⟨byEvent, _, ⟨-, rfl⟩, byKey, _, ⟨-, rfl⟩, h⟩ := h
  cases byEvent with
  | some row =>
    simp only [Tx.bind_ok, Tx.require_ok, Tx.pure_ok] at h
    obtain ⟨_, _, ⟨-, rfl⟩, -, rfl⟩ := h
    exact ⟨_, rfl⟩
  | none =>
    cases byKey with
    | some row =>
      simp only [Tx.bind_ok, Tx.require_ok, Tx.pure_ok] at h
      obtain ⟨_, _, ⟨-, rfl⟩, -, rfl⟩ := h
      exact ⟨_, rfl⟩
    | none =>
      simp only [Tx.bind_ok, Tx.insert_ok, Tx.pure_ok] at h
      obtain ⟨_, _, ⟨t, -, rfl⟩, -, rfl⟩ := h
      exact ⟨t, rfl⟩

omit [Externals] in
theorem insertWorkflowDelivery_ok {input : WorkflowAdmission} {s s' : Db} {u : Unit}
    (h : insertWorkflowDelivery input s = .ok (u, s')) :
    ∃ d e, s' = { s with deliveries := d, deliveryDispositions := e } := by
  simp only [insertWorkflowDelivery, Tx.bind_ok, Tx.read_ok, Tx.require_ok, Tx.insert_ok] at h
  obtain ⟨_, _, ⟨-, rfl⟩, _, _, ⟨-, rfl⟩, _, _, ⟨d, -, rfl⟩, _, _, ⟨-, rfl⟩, _, _, ⟨-, rfl⟩, e,
    -, rfl⟩ := h
  exact ⟨d, e, rfl⟩

/-- What a workflow admission does to the tasks, their events and their admissions: nothing,
the rows of a new task, or the next revision of an old one. -/
inductive WorkflowStep (input : WorkflowAdmission) (event_id : EventId) (db db' : Db) :
    Prop where
  | replayed (htasks : db'.tasks = db.tasks) (hevents : db'.taskEvents = db.taskEvents)
      (hadmissions : db'.taskAdmissions = db.taskAdmissions)
  | admitted (hnew : input.authorization = none)
      (h : Admitted (taskToRow input.task) (input.eventRow event_id) input.admissionRow db db')
  | revised (a : AdmissionRow) (htasks : db'.tasks = db.tasks)
      (hevents : db'.taskEvents = db.taskEvents)
      (ha : db.taskAdmissions.get input.task_id = some a)
      (hputs : db.taskAdmissions.Puts input.task_id
        { a with revision := a.revision + 1, updated_at := input.now } db'.taskAdmissions)

/-- Only the three tables of a task matter to a step. -/
theorem WorkflowStep.congr {input : WorkflowAdmission} {event_id : EventId} {db db' s s' : Db}
    (h : WorkflowStep input event_id db db') (ht : s.tasks = db.tasks)
    (he : s.taskEvents = db.taskEvents) (ha : s.taskAdmissions = db.taskAdmissions)
    (ht' : s'.tasks = db'.tasks) (he' : s'.taskEvents = db'.taskEvents)
    (ha' : s'.taskAdmissions = db'.taskAdmissions) : WorkflowStep input event_id s s' := by
  cases h with
  | replayed htasks hevents hadmissions =>
    exact .replayed (by rw [ht', htasks, ht]) (by rw [he', hevents, he])
      (by rw [ha', hadmissions, ha])
  | admitted hnew h =>
    exact .admitted hnew ⟨by rw [ht, ht', h.task], by rw [he, he', h.event],
      by rw [ha, ha', h.admission]⟩
  | revised a htasks hevents hget hputs =>
    exact .revised a (by rw [ht', htasks, ht]) (by rw [he', hevents, he]) (by rw [ha, hget])
      (by rw [ha, ha']; exact hputs)

omit [Externals] in
theorem reviseAdmission_ok {input : WorkflowAdmission} {revision n : Nat} {s s' : Db}
    (h : reviseAdmission input revision s = .ok (n, s')) (hn : n = 1) :
    ∃ a t, s' = { s with taskAdmissions := t } ∧
      s.taskAdmissions.get input.task_id = some a ∧
      s.taskAdmissions.Puts input.task_id
        { a with revision := a.revision + 1, updated_at := input.now } t := by
  obtain ⟨haff, rfl⟩ := Tx.update_ok.1 h
  obtain ⟨a, ha, hp, hputs⟩ :=
    Table.update_puts (fun r hp => (of_decide_eq_true hp).1) (haff.trans hn)
  exact ⟨a, _, rfl, ha, hputs⟩

theorem admitWorkflowTask_ok {input : WorkflowAdmission} {event_id : EventId} {s s' : Db}
    {u : Unit} (h : admitWorkflowTask input event_id s = .ok (u, s')) :
    WorkflowStep input event_id s s' ∧
      ∃ t ev ad, s' = { s with tasks := t, taskEvents := ev, taskAdmissions := ad } := by
  unfold admitWorkflowTask at h
  cases hauth : input.authorization with
  | none =>
    rw [hauth] at h
    simp only [Tx.bind_ok, Tx.orElse_ok, Tx.insert_ok] at h
    obtain ⟨v, _, ⟨hv, rfl⟩, _, _, ⟨t, ht, rfl⟩, _, s₁, hev, ad, had, rfl⟩ := h
    obtain ⟨rfl, -⟩ := toI64_eq_some hv
    obtain ⟨ev, rfl, hins⟩ := insertEvent_ok hev
    exact ⟨.admitted hauth ⟨ht, hins, had⟩, t, ev, ad, rfl⟩
  | some auth =>
    rw [hauth] at h
    simp only [Tx.bind_ok, Tx.require_ok] at h
    obtain ⟨n, s₁, hrev, hn, rfl⟩ := h
    obtain ⟨a, t, rfl, ha, hputs⟩ := reviseAdmission_ok hrev (of_decide_eq_true hn)
    exact ⟨.revised a rfl rfl ha hputs, _, _, t, rfl⟩

/-- The tables that a workflow admission writes beside the rows of the task. -/
theorem admitWorkflowTx_ok {input : WorkflowAdmission} {event_id : EventId} {s s' : Db}
    {outcome : ReceiptOutcome} (h : admitWorkflowTx input event_id s = .ok (outcome, s')) :
    WorkflowStep input event_id s s' ∧
      ∃ t ev ad we d e, s' = { s with
        tasks := t, taskEvents := ev, taskAdmissions := ad, workflowEnvelopes := we,
        deliveries := d, deliveryDispositions := e } := by
  simp only [admitWorkflowTx, Tx.bind_ok] at h
  obtain ⟨_, s₁, hauth, seen, s₂, hres, h⟩ := h
  obtain rfl := authorizeWorkflow_ok hauth
  obtain ⟨we, rfl⟩ := reserveEnvelope_ok hres
  cases seen with
  | some outcome =>
    obtain ⟨-, rfl⟩ := Tx.pure_ok.1 h
    exact ⟨.replayed rfl rfl rfl, _, _, _, we, _, _, rfl⟩
  | none =>
    simp only [Tx.bind_ok, Tx.pure_ok] at h
    obtain ⟨_, s₃, htask, _, s₄, hdel, -, rfl⟩ := h
    obtain ⟨hstep, t, ev, ad, rfl⟩ := admitWorkflowTask_ok htask
    obtain ⟨d, e, rfl⟩ := insertWorkflowDelivery_ok hdel
    exact ⟨hstep.congr rfl rfl rfl rfl rfl rfl, t, ev, ad, we, d, e, rfl⟩

omit [Externals] in
theorem nextSequence_ok {target : EndpointId} {capacity : Int} {now : String} {s s' : Db}
    {n : Nat} (h : nextSequence target capacity now s = .ok (n, s')) :
    ∃ t, s' = { s with agentQueueCounters := t } := by
  simp only [nextSequence, Tx.bind_ok, Tx.require_ok, Tx.insertOrIgnore_ok, Tx.update_ok,
    Tx.read_ok, Tx.orElse_ok, Tx.pure_ok] at h
  obtain ⟨_, _, ⟨-, rfl⟩, _, s₁, hins, _, _, ⟨-, rfl⟩, hmore⟩ := h
  obtain ⟨_, _, ⟨-, rfl⟩, _, _, ⟨-, rfl⟩, _, _, ⟨-, rfl⟩, -, rfl⟩ := hmore
  rcases hins with ⟨-, t, -, rfl⟩ | ⟨-, -, rfl⟩
  · exact ⟨_, rfl⟩
  · exact ⟨_, rfl⟩

omit [Externals] in
theorem reserveWorkflowQueue_ok {input : WorkflowAdmission} {queue_id : Uuid}
    {room_id : String} {thread_root : Option String} {capacity : Int}
    {outcome : ReceiptOutcome} {s s' : Db} {reservation : QueueReservation}
    (h : reserveWorkflowQueue input queue_id room_id thread_root capacity outcome s =
      .ok (reservation, s')) :
    ∃ c q, s' = { s with agentQueueCounters := c, agentWorkQueue := q } := by
  cases outcome with
  | replay task_id result_code =>
    simp only [reserveWorkflowQueue, Tx.bind_ok, Tx.read_ok, Tx.orElse_ok, Tx.pure_ok] at h
    obtain ⟨_, _, ⟨-, rfl⟩, _, _, ⟨-, rfl⟩, -, rfl⟩ := h
    exact ⟨_, _, rfl⟩
  | inserted =>
    simp only [reserveWorkflowQueue, insertQueueRow, Tx.bind_ok, Tx.read_ok, Tx.require_ok,
      Tx.insert_ok, Tx.pure_ok] at h
    obtain ⟨_, _, ⟨-, rfl⟩, _, _, ⟨-, rfl⟩, sequence, s₁, hseq, _, _, ⟨_, _, ⟨-, rfl⟩, _, _,
      ⟨-, rfl⟩, q, -, rfl⟩, -, rfl⟩ := h
    obtain ⟨c, rfl⟩ := nextSequence_ok hseq
    exact ⟨c, q, rfl⟩

/-- What a workflow admission writes, with the outcome it reports: a replay writes nothing, a new
task gets its rows, and **an old one moves from the revision that the caller holds**. -/
inductive WorkflowWrite (input : WorkflowAdmission) (event_id : EventId) (db db' : Db) :
    ReceiptOutcome → Prop where
  | replayed (task_id : Option TaskId) (result_code : String) (htasks : db'.tasks = db.tasks)
      (hevents : db'.taskEvents = db.taskEvents)
      (hadmissions : db'.taskAdmissions = db.taskAdmissions) :
      WorkflowWrite input event_id db db' (.replay task_id result_code)
  | admitted (hnew : input.authorization = none)
      (h : Admitted (taskToRow input.task) (input.eventRow event_id) input.admissionRow db db') :
      WorkflowWrite input event_id db db' .inserted
  | revised (auth : WorkflowAuthorization) (a : AdmissionRow)
      (hauth : input.authorization = some auth) (htasks : db'.tasks = db.tasks)
      (hevents : db'.taskEvents = db.taskEvents)
      (ha : db.taskAdmissions.get input.task_id = some a)
      (hrevision : a.revision = auth.expected_revision) (hopen : a.state ≠ .terminal)
      (hputs : db.taskAdmissions.Puts input.task_id
        { a with revision := a.revision + 1, updated_at := input.now } db'.taskAdmissions) :
      WorkflowWrite input event_id db db' .inserted

omit [Externals] in
/-- Who acts on a task holds its revision, and the task is not over. -/
theorem authorizeWorkflow_open {input : WorkflowAdmission} {auth : WorkflowAuthorization}
    {s s' : Db} {u : Unit} (hauth : input.authorization = some auth)
    (h : authorizeWorkflow input s = .ok (u, s')) :
    ∃ a, s.taskAdmissions.get input.task_id = some a ∧ a.revision = auth.expected_revision ∧
      a.state ≠ .terminal := by
  unfold authorizeWorkflow at h
  rw [hauth] at h
  simp only [Tx.bind_ok, Tx.read_ok, Tx.orElse_ok, Tx.require_ok, decide_eq_true_eq] at h
  obtain ⟨_, _, ⟨-, rfl⟩, _, _, ⟨-, rfl⟩, _, _, ⟨-, rfl⟩, hmore⟩ := h
  obtain ⟨_, _, ⟨rfl, rfl⟩, a, _, ⟨ha, rfl⟩, _, _, ⟨hrevision, rfl⟩, ⟨hopen, -⟩, rfl⟩ := hmore
  exact ⟨a, ha, hrevision, hopen⟩

omit [Externals] in
/-- An envelope seen before ends the admission as a replay. -/
theorem reserveEnvelope_seen {input : WorkflowAdmission} {s s' : Db} {outcome : ReceiptOutcome}
    (h : reserveEnvelope input s = .ok (some outcome, s')) :
    ∃ task_id result_code, outcome = .replay task_id result_code := by
  simp only [reserveEnvelope, Tx.bind_ok, Tx.read_ok] at h
  obtain ⟨byEvent, _, ⟨-, rfl⟩, byKey, _, ⟨-, rfl⟩, h⟩ := h
  cases byEvent with
  | some row =>
    simp only [Tx.bind_ok, Tx.require_ok, Tx.pure_ok, Option.some.injEq] at h
    obtain ⟨_, _, ⟨-, rfl⟩, rfl, -⟩ := h
    exact ⟨_, _, rfl⟩
  | none =>
    cases byKey with
    | some row =>
      simp only [Tx.bind_ok, Tx.require_ok, Tx.pure_ok, Option.some.injEq] at h
      obtain ⟨_, _, ⟨-, rfl⟩, rfl, -⟩ := h
      exact ⟨_, _, rfl⟩
    | none =>
      simp only [Tx.bind_ok, Tx.pure_ok] at h
      obtain ⟨_, _, -, hnone, -⟩ := h
      cases hnone

theorem admitWorkflowTx_writes {input : WorkflowAdmission} {event_id : EventId} {s s' : Db}
    {outcome : ReceiptOutcome} (h : admitWorkflowTx input event_id s = .ok (outcome, s')) :
    WorkflowWrite input event_id s s' outcome := by
  simp only [admitWorkflowTx, Tx.bind_ok] at h
  obtain ⟨_, s₁, hauthorize, seen, s₂, hres, h⟩ := h
  have hsame := authorizeWorkflow_ok hauthorize
  subst hsame
  cases seen with
  | some seen =>
    obtain ⟨rfl, rfl⟩ := Tx.pure_ok.1 h
    obtain ⟨task_id, result_code, rfl⟩ := reserveEnvelope_seen hres
    obtain ⟨we, rfl⟩ := reserveEnvelope_ok hres
    exact .replayed task_id result_code rfl rfl rfl
  | none =>
    obtain ⟨we, rfl⟩ := reserveEnvelope_ok hres
    simp only [Tx.bind_ok, Tx.pure_ok] at h
    obtain ⟨_, s₃, htask, _, s₄, hdel, rfl, rfl⟩ := h
    obtain ⟨d, e, rfl⟩ := insertWorkflowDelivery_ok hdel
    cases hauth : input.authorization with
    | none =>
      simp only [admitWorkflowTask, hauth, Tx.bind_ok, Tx.orElse_ok, Tx.insert_ok] at htask
      obtain ⟨v, _, ⟨hv, rfl⟩, _, _, ⟨t, ht, rfl⟩, _, s₅, hev, ad, had, rfl⟩ := htask
      obtain ⟨rfl, -⟩ := toI64_eq_some hv
      obtain ⟨ev, rfl, hins⟩ := insertEvent_ok hev
      exact .admitted hauth ⟨ht, hins, had⟩
    | some auth =>
      obtain ⟨a, ha, hrevision, hopen⟩ := authorizeWorkflow_open hauth hauthorize
      simp only [admitWorkflowTask, hauth, Tx.bind_ok, Tx.require_ok] at htask
      obtain ⟨n, s₅, hrev, hn, rfl⟩ := htask
      obtain ⟨a', t, rfl, ha', hputs⟩ := reviseAdmission_ok hrev (of_decide_eq_true hn)
      have hsame : a' = a := Option.some.inj (ha'.symm.trans ha)
      subst hsame
      exact .revised auth a' hauth rfl rfl ha hrevision hopen hputs

theorem admitWorkflow_writes {input : WorkflowAdmission} {event_id : EventId} {db db' : Db}
    {r : Except ReliabilityError ReceiptOutcome}
    (h : admitWorkflow input event_id db = (r, db')) :
    (db' = db ∧ ∃ e, r = .error e) ∨
      ∃ outcome, r = .ok outcome ∧ WorkflowWrite input event_id db db' outcome := by
  rcases Tx.commit_cases h with hok | ⟨hdb, e, -, hr⟩
  · simp only [Tx.bind_ok, Tx.pure_ok] at hok
    obtain ⟨outcome, s₁, htx, hr, rfl⟩ := hok
    exact Or.inr ⟨outcome, hr.symm, admitWorkflowTx_writes htx⟩
  · exact Or.inl ⟨hdb, e, hr⟩

/-- The queue row does not matter to the rows of the task. -/
theorem WorkflowWrite.congr_right {input : WorkflowAdmission} {event_id : EventId}
    {db s s' : Db} {outcome : ReceiptOutcome} (h : WorkflowWrite input event_id db s outcome)
    (ht : s'.tasks = s.tasks) (he : s'.taskEvents = s.taskEvents)
    (ha : s'.taskAdmissions = s.taskAdmissions) :
    WorkflowWrite input event_id db s' outcome := by
  cases h with
  | replayed task_id result_code htasks hevents hadmissions =>
    exact .replayed task_id result_code (ht.trans htasks) (he.trans hevents)
      (ha.trans hadmissions)
  | admitted hnew h =>
    exact .admitted hnew ⟨by rw [ht]; exact h.task, by rw [he]; exact h.event,
      by rw [ha]; exact h.admission⟩
  | revised auth a hauth htasks hevents hget hrevision hopen hputs =>
    exact .revised auth a hauth (ht.trans htasks) (he.trans hevents) hget hrevision hopen
      (by rw [ha]; exact hputs)

theorem admitQueuedWorkflow_writes {input : WorkflowAdmission} {event_id : EventId}
    {queue_id : Uuid} {room_id : String} {thread_root : Option String} {capacity : Int}
    {db db' : Db} {r : Except ReliabilityError QueueReservation}
    (h : admitQueuedWorkflow input event_id queue_id room_id thread_root capacity db =
      (r, db')) :
    (db' = db ∧ ∃ e, r = .error e) ∨
      ∃ reservation outcome, r = .ok reservation ∧
        (admitWorkflow input event_id db).1 = .ok outcome ∧
        WorkflowWrite input event_id db db' outcome := by
  rcases Tx.commit_cases h with hok | ⟨hdb, e, -, hr⟩
  · simp only [Tx.bind_ok, Tx.pure_ok] at hok
    obtain ⟨outcome, s₁, htx, reservation, s₂, hqueue, hr, rfl⟩ := hok
    have halone : admitWorkflow input event_id db = (.ok outcome, s₁) :=
      Tx.commit_of_ok (Tx.bind_ok.2 ⟨outcome, s₁, htx, rfl⟩)
    refine Or.inr ⟨reservation, outcome, hr.symm, by rw [halone], ?_⟩
    obtain ⟨c, q, rfl⟩ := reserveWorkflowQueue_ok hqueue
    exact (admitWorkflowTx_writes htx).congr_right rfl rfl rfl
  · exact Or.inl ⟨hdb, e, hr⟩

/-- The tables that a workflow admission writes. -/
theorem admitWorkflow_frame (input : WorkflowAdmission) (event_id : EventId) (db : Db) :
    ∃ t ev ad we d e, (admitWorkflow input event_id db).2 = { db with
      tasks := t, taskEvents := ev, taskAdmissions := ad, workflowEnvelopes := we,
      deliveries := d, deliveryDispositions := e } := by
  obtain ⟨r, db', hcall⟩ : ∃ r db', admitWorkflow input event_id db = (r, db') := ⟨_, _, rfl⟩
  rw [hcall]
  rcases Tx.commit_cases hcall with hok | ⟨rfl, -⟩
  · simp only [Tx.bind_ok, Tx.pure_ok] at hok
    obtain ⟨outcome, s₁, htx, -, rfl⟩ := hok
    exact (admitWorkflowTx_ok htx).2
  · exact ⟨_, _, _, _, _, _, rfl⟩

theorem admitQueuedWorkflow_frame (input : WorkflowAdmission) (event_id : EventId)
    (queue_id : Uuid) (room_id : String) (thread_root : Option String) (capacity : Int)
    (db : Db) :
    ∃ t ev ad we d e c q,
      (admitQueuedWorkflow input event_id queue_id room_id thread_root capacity db).2 =
      { db with
        tasks := t, taskEvents := ev, taskAdmissions := ad, workflowEnvelopes := we,
        deliveries := d, deliveryDispositions := e, agentQueueCounters := c,
        agentWorkQueue := q } := by
  obtain ⟨r, db', hcall⟩ : ∃ r db', admitQueuedWorkflow input event_id queue_id room_id
    thread_root capacity db = (r, db') := ⟨_, _, rfl⟩
  rw [hcall]
  rcases Tx.commit_cases hcall with hok | ⟨rfl, -⟩
  · simp only [Tx.bind_ok, Tx.pure_ok] at hok
    obtain ⟨outcome, s₁, htx, reservation, s₂, hqueue, -, rfl⟩ := hok
    obtain ⟨-, t, ev, ad, we, d, e, rfl⟩ := admitWorkflowTx_ok htx
    obtain ⟨c, q, rfl⟩ := reserveWorkflowQueue_ok hqueue
    exact ⟨t, ev, ad, we, d, e, c, q, rfl⟩
  · exact ⟨_, _, _, _, _, _, _, _, rfl⟩

end

end GuiguBridge
