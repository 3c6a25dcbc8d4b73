import GuiguBridge.Storage.Admission

/-!
# Retries

An administrator's command starts a finished task anew (`admit_retry` of
`src/src/storage/reliability.rs`).  The receipt of the command, the new task with its first
event and its admission, and the reply to the command enter the store together.

* `Admitted` — what every admission leaves behind: a task row, its first event and its
  admission row;
* `admitRetry` — the call, and `admitRetry_cases`, everything it can do.
-/

namespace GuiguBridge

open Relational

/-- A call inserted these three rows. -/
structure Admitted (row : TaskRow) (e : EventRow) (a : AdmissionRow) (db db' : Db) : Prop where
  task : db.tasks.insert row = some db'.tasks
  event : db.taskEvents.insert e = some db'.taskEvents
  admission : db.taskAdmissions.insert a = some db'.taskAdmissions

structure RetryTaskInput where
  transport : String
  external_event_id : String
  room_id : String
  thread_root : Option String
  reply_event_id : String
  admin_actor : String
  source_task_id : TaskId
  task_id : TaskId
  from_agent : EndpointId
  to_agent : EndpointId
  conversation_id : ConversationId
  text : String
  priority : Nat
  deadline : Option String
  timestamp : String
  event_id : EventId
  body : String
  stable_txn_id : String
  deriving DecidableEq

/-- The status of the last event of a task. -/
def Db.lastStatus (db : Db) (task_id : TaskId) : Option TaskStatus :=
  (((db.taskEvents.rows.filter (·.task_id = task_id)).mergeSort
    (fun a b => decide (b.seq ≤ a.seq))).head?).map (·.status)

namespace RetryTaskInput

/-- The caller copied the fields of the source task. -/
def copies (input : RetryTaskInput) (source : TaskRow) : Bool :=
  decide (source.from_agent = input.from_agent ∧ source.to_agent = input.to_agent ∧
    source.conversation_id = input.conversation_id ∧ source.text = input.text ∧
    source.priority = input.priority)

/-- The receipt of the command; it names the new task once that is inserted. -/
def receipt (input : RetryTaskInput) : TransportReceiptRow :=
  { transport := input.transport, external_event_id := input.external_event_id,
    room_id := input.room_id, thread_ref := input.thread_root,
    reply_event_id := some input.reply_event_id,
    conversation_id := some input.conversation_id, selected_endpoint_id := none,
    task_id := none, source_task_id := some input.source_task_id, retry_task_id := none,
    receipt_kind := .admin, route_kind := "retry", state := .admitted,
    result_code := "admitted", admin_actor := some input.admin_actor,
    command_reply_body := some input.body, created_at := input.timestamp,
    updated_at := input.timestamp }

def taskRow (input : RetryTaskInput) : TaskRow :=
  { task_id := input.task_id, root_task_id := input.task_id, parent_task_id := none,
    from_agent := input.from_agent, to_agent := input.to_agent,
    conversation_id := input.conversation_id, reply_to := none, text := input.text,
    priority := input.priority, depth := 0, hops := 0, deadline := input.deadline,
    version := 0 }

/-- The first event.  **Its payload is a document of its own**, not the one that
`TaskEventPayload` serialises to. -/
def eventRow (input : RetryTaskInput) : EventRow :=
  { event_id := input.event_id, task_id := input.task_id, seq := 1, status := .queued,
    timestamp := input.timestamp, payload := "\x7b\"kind\":\"queued\"\x7d" }

/-- The admission: ready, and owned by no runtime. -/
def admissionRow (input : RetryTaskInput) : AdmissionRow :=
  { task_id := input.task_id, state := .ready, revision := 0, runtime_instance := none,
    reply_room := none, reply_thread_root := none, reply_event_id := none,
    monitor_room := none, monitor_generation := none, render_version := none,
    created_at := input.timestamp, updated_at := input.timestamp }

section

variable [Externals]

/-- The reply to the command. -/
def outboxRow (input : RetryTaskInput) : OutboxRow :=
  { source_kind := .transportReceipt,
    source_id := input.transport ++ ":" ++ input.external_event_id,
    projection := .commandReply, transport := some input.transport,
    stable_txn_id := input.stable_txn_id, room_id := input.room_id,
    thread_root := input.thread_root, reply_event_id := some input.reply_event_id,
    monitor_generation := none, render_version := "v1", body := input.body,
    body_hash := Externals.uuidText (Externals.newV5 outboxBodyNamespace input.body),
    state := .pending, attempt_count := 0, claim_owner := none, claim_revision := none,
    created_at := input.timestamp, updated_at := input.timestamp }

end

end RetryTaskInput

section

variable [Externals]

/-- The source task must be there, finished, and be the one the caller copied. -/
def checkRetrySource (input : RetryTaskInput) :
    Tx Db (Except ReliabilityError ReceiptOutcome) Unit := do
  let existing ← Tx.read fun db =>
    db.transportReceipts.get (input.transport, input.external_event_id)
  match existing with
  | some row => Tx.abort (.ok (.replay row.task_id row.result_code))
  | none => do
    let source ← Tx.read fun db => db.tasks.get input.source_task_id
    let source ← Tx.orElse source (.error .notTerminal)
    let status ← Tx.read fun db => db.lastStatus input.source_task_id
    Tx.require (status.any (·.isTerminal)) (.error .notTerminal)
    Tx.require (input.copies source) (.error .sourceMismatch)

/-- The reply to the command is queued; a body over the limit of its column, or a
transaction id in use, is refused. -/
def insertCommandReply (input : RetryTaskInput) :
    Tx Db (Except ReliabilityError ReceiptOutcome) Unit := do
  Tx.require (input.body.utf8ByteSize ≤ maxOutboxBodyBytes) (.error (.sql .constraint))
  let taken ← Tx.read fun db =>
    db.projectionOutbox.rows.any fun o => decide (o.stable_txn_id = input.stable_txn_id)
  Tx.require (!taken) (.error (.sql .constraint))
  Tx.insert Db.projectionOutboxL input.outboxRow (.error (.sql .constraint))

/-- `ReliabilityStore::admit_retry`. -/
def admitRetry (input : RetryTaskInput) (db : Db) :
    Except ReliabilityError ReceiptOutcome × Db :=
  Tx.commit id (do
    checkRetrySource input
    Tx.insert Db.transportReceiptsL input.receipt (.error (.sql .constraint))
    Tx.insert Db.tasksL input.taskRow (.error (.sql .constraint))
    let _ ← Tx.update Db.transportReceiptsL
      (fun r => decide (r.transport = input.transport ∧
        r.external_event_id = input.external_event_id))
      (fun r => { r with task_id := some input.task_id, retry_task_id := some input.task_id })
    insertEvent input.eventRow (.error (.sql .constraint))
    Tx.insert Db.taskAdmissionsL input.admissionRow (.error (.sql .constraint))
    insertCommandReply input
    pure (.ok .inserted)) db

omit [Externals] in
theorem checkRetrySource_ok {input : RetryTaskInput} {s s' : Db} {u : Unit}
    (h : checkRetrySource input s = .ok (u, s')) : s' = s := by
  simp only [checkRetrySource, Tx.bind_ok, Tx.read_ok] at h
  obtain ⟨existing, _, ⟨-, rfl⟩, h⟩ := h
  cases existing with
  | some row => exact (Tx.abort_ok.1 h).elim
  | none =>
    simp only [Tx.bind_ok, Tx.read_ok, Tx.orElse_ok, Tx.require_ok] at h
    obtain ⟨_, _, ⟨-, rfl⟩, _, _, ⟨-, rfl⟩, _, _, ⟨-, rfl⟩, _, _, ⟨-, rfl⟩, -, rfl⟩ := h
    rfl

theorem insertCommandReply_ok {input : RetryTaskInput} {s s' : Db} {u : Unit}
    (h : insertCommandReply input s = .ok (u, s')) :
    ∃ t, s' = { s with projectionOutbox := t } ∧
      s.projectionOutbox.insert input.outboxRow = some t := by
  simp only [insertCommandReply, Tx.bind_ok, Tx.require_ok, Tx.read_ok, Tx.insert_ok] at h
  obtain ⟨_, _, ⟨-, rfl⟩, _, _, ⟨-, rfl⟩, _, _, ⟨-, rfl⟩, t, ht, rfl⟩ := h
  exact ⟨t, rfl, ht⟩

/-- `admit_retry` either leaves the store as it was or admits the new task; beside the three
rows it writes the receipt and the reply. -/
theorem admitRetry_cases {input : RetryTaskInput} {db db' : Db}
    {r : Except ReliabilityError ReceiptOutcome} (h : admitRetry input db = (r, db')) :
    db' = db ∨
    (r = .ok .inserted ∧
      Admitted input.taskRow input.eventRow input.admissionRow db db' ∧
      db.projectionOutbox.insert input.outboxRow = some db'.projectionOutbox ∧
      ∃ rc ob, db' = { db with
        tasks := db'.tasks, taskEvents := db'.taskEvents, taskAdmissions := db'.taskAdmissions,
        transportReceipts := rc, projectionOutbox := ob }) := by
  rcases Tx.commit_cases h with hok | ⟨hdb, -⟩
  · simp only [Tx.bind_ok, Tx.insert_ok, Tx.pure_ok] at hok
    obtain ⟨_, s₁, hsrc, _, _, ⟨rc, -, rfl⟩, _, _, ⟨t, ht, rfl⟩, hmore⟩ := hok
    obtain ⟨_, _, ⟨-, rfl⟩, _, s₂, hev, _, _, ⟨ad, had, rfl⟩, hmore⟩ := hmore
    obtain ⟨_, s₃, hreply, hr, hdb⟩ := hmore
    obtain rfl := checkRetrySource_ok hsrc
    obtain ⟨ev, rfl, hins⟩ := insertEvent_ok hev
    obtain ⟨ob, rfl, hob⟩ := insertCommandReply_ok hreply
    subst hdb
    exact Or.inr ⟨hr.symm, ⟨ht, hins, had⟩, hob, _, ob, rfl⟩
  · exact Or.inl hdb

/-- The tables that a retry writes. -/
theorem admitRetry_frame (input : RetryTaskInput) (db : Db) :
    ∃ t ev ad rc ob, (admitRetry input db).2 = { db with
      tasks := t, taskEvents := ev, taskAdmissions := ad, transportReceipts := rc,
      projectionOutbox := ob } := by
  obtain ⟨r, db', hcall⟩ : ∃ r db', admitRetry input db = (r, db') := ⟨_, _, rfl⟩
  rw [hcall]
  rcases admitRetry_cases hcall with rfl | ⟨-, -, -, rc, ob, h⟩
  · exact ⟨_, _, _, _, _, rfl⟩
  · exact ⟨_, _, _, _, _, h⟩

end

end GuiguBridge
