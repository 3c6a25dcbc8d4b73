import GuiguBridge.Runtime.Continuations

/-!
# Terminal closure

The writes that end a task: `terminal_closure::apply`, shared by the live worker and the
offline recovery, and `SqliteRuntimeStore::finalize_terminal`, which wraps it in the checks
of a live turn and in the projections the ending produces.

* `advanceVersion`, `insertEvent` — the compare-and-set on `tasks.version` and the insert
  into the event log that every writer of the log uses;
* `applyClosure` — event, admission, delivery, disposition and lease, in that order; **every
  compare-and-set that finds no row leaves the transaction**;
* `terminalReplyBody`, `boundedOutbox`, `insertTerminalProjection` — what is queued for the
  room of the task;
* `finalizeTerminal` — the whole call.
-/

namespace GuiguBridge

open Relational

inductive ClosureError where
  | fenced
  | admissionStale
  | malformed
  | database (source : StorageError)
  deriving DecidableEq

inductive LeaseMode where
  | liveActive (owner : Uuid) (fence : Nat) (now : String)
  | offlineRecoveryNeeded (owner : Uuid) (fence : Nat) (expires_at : String)
  deriving DecidableEq

inductive AdmissionMode where
  | live
  | offline (runtime_owner : Option String) (revision : Nat)
  deriving DecidableEq

inductive DeliveryBinding where
  | liveContinuation
  | offlineExact (delivery_id : DeliveryId) (attempt : Nat)
  deriving DecidableEq

inductive TaskVersionMode where
  | liveAlreadyAdvanced
  | offlineExpected (expected : Nat)
  deriving DecidableEq

structure ClosureContext where
  task_id : TaskId
  resource_key : ResourceKey
  event : TaskEvent
  now : String
  delivery : DeliveryBinding
  admission : AdmissionMode
  task_version : TaskVersionMode
  disposition_reason : Option String
  deriving DecidableEq

/-- `FinalizeResult`. -/
inductive FinalizeResult where
  | committed | alreadyTerminal | stale | fenced | recoveryNeeded
  deriving DecidableEq

/-! ### The event log -/

/-- `UPDATE tasks SET version=version+1 WHERE task_id=? AND version=?`. -/
def advanceVersion {ρ : Type} (task_id : TaskId) (expected : Nat) : Tx Db ρ Nat :=
  Tx.update Db.tasksL (fun t => decide (t.task_id = task_id ∧ t.version = expected))
    (fun t => { t with version := t.version + 1 })

/-- `INSERT INTO task_events`; refused when the identity or the position `(task_id, seq)` is
taken, or `seq` is not positive. -/
def insertEvent {ρ : Type} (row : EventRow) (refused : ρ) : Tx Db ρ Unit := do
  Tx.require (1 ≤ row.seq) refused
  let taken ← Tx.read fun db =>
    db.taskEvents.rows.any fun e => decide (e.task_id = row.task_id ∧ e.seq = row.seq)
  Tx.require (!taken) refused
  Tx.insert Db.taskEventsL row refused

/-- `SELECT MAX(seq) FROM task_events WHERE task_id=?`. -/
def Db.maxSeq (db : Db) (task_id : TaskId) : Option Nat :=
  ((db.taskEvents.rows.filter (·.task_id = task_id)).map (·.seq)).max?

section

variable [Externals]

/-- The row of an event. -/
def eventToRow (event : TaskEvent) (seq : Nat) (status : TaskStatus) : EventRow :=
  { event_id := event.id, task_id := event.task_id, seq := seq, status := status,
    timestamp := ts event.timestamp, payload := payloadText event.payload }

/-! ### The shared closure -/

/-- The admission row that a closure may end: the `WHERE` of each mode. -/
def AdmissionMode.accepts (task_id : TaskId) (a : AdmissionRow) : AdmissionMode → Bool
  | .live => decide (a.task_id = task_id ∧
      (a.state = .enqueued ∨ a.state = .dispatching ∨ a.state = .running))
  | .offline runtime_owner revision => decide (a.task_id = task_id ∧
      a.state = .dispatching ∧ a.revision = revision ∧ a.runtime_instance = runtime_owner)

/-- The admission of the task becomes terminal. -/
def closeAdmission {ρ : Type} (context : ClosureContext) : Tx Db ρ Nat :=
  Tx.update Db.taskAdmissionsL (fun a => context.admission.accepts context.task_id a)
    (fun a => { a with state := .terminal, revision := a.revision + 1,
                       updated_at := context.now })

/-- The delivery that a live closure binds: the one of the task's continuation. -/
def Db.boundDelivery (db : Db) (task_id : TaskId) : Option DeliveryId :=
  (db.taskContinuations.get task_id).map (·.delivery_id)

/-- The delivery is acknowledged and its disposition becomes terminal; returns the two row
counts. -/
def closeDelivery {ρ : Type} (context : ClosureContext) (refused : ρ) :
    Tx Db ρ (Nat × Nat) := do
  let db ← Tx.read fun db => db
  match context.delivery with
  | .liveContinuation => do
    let ack ← Tx.updateChecked Db.deliveriesL
      (fun d => decide (some d.delivery_id = db.boundDelivery context.task_id ∧
        d.task_id = context.task_id ∧ d.acknowledged_at = none))
      (fun d => { d with acknowledged_at := some context.now })
      (fun d => decide (d.dispatched_at ≤ context.now)) refused
    let disposition ← Tx.update Db.deliveryDispositionsL
      (fun d => decide (some d.delivery_id = db.boundDelivery context.task_id ∧
        d.task_id = context.task_id ∧
        (d.state = .prepared ∨ d.state = .acknowledged ∨ d.state = .outcomeUnknown)))
      (fun d => { d with state := .terminal, reason_code := none })
    pure (ack, disposition)
  | .offlineExact delivery_id attempt => do
    let ack ← Tx.updateChecked Db.deliveriesL
      (fun d => decide (d.delivery_id = delivery_id ∧ d.task_id = context.task_id ∧
        d.attempt = attempt ∧ d.acknowledged_at = none))
      (fun d => { d with acknowledged_at := some context.now })
      (fun d => decide (d.dispatched_at ≤ context.now)) refused
    let disposition ← Tx.update Db.deliveryDispositionsL
      (fun d => decide (d.delivery_id = delivery_id ∧ d.task_id = context.task_id ∧
        d.attempt = attempt ∧ d.state = .prepared ∧ d.session_id = none ∧
        d.child_fingerprint = none))
      (fun d => { d with
        state := .terminal
        reason_code := some (context.disposition_reason.getD "pre_acceptance_auth_failure") })
    pure (ack, disposition)

/-- The lease of the task is released. -/
def closeLease {ρ : Type} (context : ClosureContext) : LeaseMode → Tx Db ρ Nat
  | .liveActive owner fence now =>
    endLease context.resource_key context.task_id owner fence .released now
  | .offlineRecoveryNeeded owner fence expires_at =>
    Tx.update Db.executionLeasesL
      (fun l => decide (l.resource_key = context.resource_key ∧
        l.task_id = context.task_id ∧ l.owner_token = owner ∧ l.fence = fence ∧
        l.state = .recoveryNeeded ∧ l.expires_at = expires_at))
      (fun l => { l with state := .released, heartbeat_at := context.now })

/-- `TaskVersionMode`: the live caller has advanced the version, the offline one has not. -/
def closeVersion {ρ : Type} (context : ClosureContext) (fenced : ρ) : Tx Db ρ Unit :=
  match context.task_version with
  | .liveAlreadyAdvanced => pure ()
  | .offlineExpected expected => do
    let n ← advanceVersion context.task_id expected
    Tx.require (n = 1) fenced

/-- `terminal_closure::apply`; `fail` turns its error into what the caller returns. -/
def applyClosure {ρ : Type} (context : ClosureContext) (lease_mode : LeaseMode)
    (fail : ClosureError → ρ) : Tx Db ρ Unit := do
  Tx.require (context.event.task_id = context.task_id ∧ context.event.status.isTerminal)
    (fail .malformed)
  closeVersion context (fail .fenced)
  let seq ← Tx.orElse (toI64 context.event.seq) (fail .malformed)
  insertEvent (eventToRow context.event seq context.event.status)
    (fail (.database .constraint))
  let n ← closeAdmission context
  Tx.require (n = 1) (match context.admission with
    | .live => fail .admissionStale
    | .offline _ _ => fail .fenced)
  let counts ← closeDelivery context (fail (.database .constraint))
  Tx.require (match context.delivery with
    | .liveContinuation => true
    | .offlineExact _ _ => decide (counts.1 = 1 ∧ counts.2 = 1)) (fail .fenced)
  let n ← closeLease context lease_mode
  Tx.require (n = 1) (fail .fenced)

/-! ### Projections -/

/-- `MAX_OUTBOX_BODY_BYTES`. -/
def maxOutboxBodyBytes : Nat := 2048

/-- `TERMINAL_OUTBOX_NAMESPACE`. -/
def terminalOutboxNamespace : Uuid := 0x6c1ab2ee48345f40901b0fbdbf95dbd0#128

/-- The longest run of leading characters within a byte budget. -/
def takeBytes : Nat → List Char → List Char
  | _, [] => []
  | budget, c :: cs =>
    if c.utf8Size ≤ budget then c :: takeBytes (budget - c.utf8Size) cs else []

/-- `bounded_outbox`. -/
def boundedOutbox (body : String) : String :=
  if body.utf8ByteSize ≤ maxOutboxBodyBytes then body
  else String.ofList (takeBytes (maxOutboxBodyBytes - 3) body.toList) ++ "..."

/-- `terminal_reply_body`. -/
def terminalReplyBody : TaskEventPayload → Option String
  | .completed output => some (boundedOutbox output)
  | .failed error => some (boundedOutbox error)
  | .timedOut _ => some (boundedOutbox "The task timed out.")
  | .cancelled reason => some (boundedOutbox reason)
  | .queued | .dispatched _ _ | .running _ => none

/-- `encode_status`: the text of a status. -/
def encodeStatus : TaskStatus → String
  | .queued => "queued"
  | .dispatched => "dispatched"
  | .running => "running"
  | .completed => "completed"
  | .failed => "failed"
  | .timedOut => "timed_out"
  | .cancelled => "cancelled"

/-- The output set of the task's latest turn among those in one of `states`. -/
def Db.latestOutputSet (db : Db) (task_id : TaskId) (states : List SetState) :
    Option OutputSetRow :=
  (db.acpOutputSets.rows.filter fun s => decide (s.task_id = task_id ∧ s.state ∈ states)).foldl
    (fun best s => match best with
      | none => some s
      | some b => if b.turn < s.turn then some s else some b) none

/-- `task_continuations c JOIN deliveries d ON d.delivery_id=c.delivery_id WHERE c.task_id=?`. -/
def Db.continuationDelivery (db : Db) (task_id : TaskId) :
    Option (ContinuationRow × DeliveryRow) := do
  let c ← db.taskContinuations.get task_id
  let d ← db.deliveries.get c.delivery_id
  some (c, d)

/-- The empty set opened for the reply of a completed task. -/
def replySet (set_id : String) (c : ContinuationRow) (d : DeliveryRow) (room : String)
    (thread reply : Option String) (render_version : String) (now : DateTime) : OutputSetRow :=
  { set_id := set_id, task_id := c.task_id, attempt := d.attempt,
    turn := c.completed_turns, runtime_fence := c.runtime_generation, room_id := room,
    thread_root := thread, reply_event_id := reply, render_version := render_version,
    total_bytes := none, total_hash := none, segment_count := none,
    acknowledged_cursor := -1, state := .assembling, claim_owner := none,
    claim_revision := 0, attempt_count := 0, failure_class := none,
    created_at := ts now, updated_at := ts now }

/-- The set opened for a completed task that has none: `INSERT … SELECT … ON CONFLICT
(task_id,attempt,turn) DO NOTHING`, returning the number of rows. -/
def insertOutputSet (set_id : String) (event : TaskEvent) (room : String)
    (thread reply : Option String) (render_version : String) (now : DateTime) :
    Tx Db (Except RuntimeError FinalizeResult) Nat := do
  let db ← Tx.read fun db => db
  match db.continuationDelivery event.task_id with
  | none => pure 0
  | some (c, d) =>
    if db.acpOutputSets.rows.any fun s =>
        decide (s.task_id = c.task_id ∧ s.attempt = d.attempt ∧ s.turn = c.completed_turns) then
      pure 0
    else do
      Tx.insert Db.acpOutputSetsL (replySet set_id c d room thread reply render_version now)
        (.error (.storage .constraint))
      pure 1

/-- The identity of the set opened for a terminal event. -/
def replySetId (event : TaskEvent) : String :=
  Externals.uuidText (Externals.newV5 terminalOutboxNamespace
    ("acp-output\x00" ++ Externals.uuidText event.id.uuid))

/-- The reply of a completed task goes out as its output set, not as a text: the set of the
latest turn is sealed, or an empty one is opened. -/
def projectOutputSet (event : TaskEvent) (room : String) (thread reply : Option String)
    (render_version : String) (now : DateTime) :
    Tx Db (Except RuntimeError FinalizeResult) Unit := do
  let existing ← Tx.read fun db => db.latestOutputSet event.task_id
    [.prepared, .sealed, .delivering, .delivered, .partial_, .cleaning, .cleaned]
  match existing with
  | some existing => do
    Tx.require (existing.room_id = room ∧ existing.thread_root = thread ∧
      existing.reply_event_id = reply ∧ existing.render_version = render_version)
      (.error .malformed)
    if existing.state = .prepared then do
      let changed ← Tx.update Db.acpOutputSetsL
        (fun s => decide (s.set_id = existing.set_id ∧ s.state = .prepared))
        (fun s => { s with state := .sealed, updated_at := ts now })
      Tx.require (changed = 1) (.error .malformed)
    else pure ()
  | none => do
    let set_id := replySetId event
    let inserted ← insertOutputSet set_id event room thread reply render_version now
    if inserted = 1 then pure ()
    else do
      let existing ← Tx.read fun db => db.latestOutputSet event.task_id
        [.assembling, .sealed, .delivering, .delivered, .partial_, .cleaning, .cleaned]
      Tx.require (existing.map (·.set_id) = some set_id) (.error .malformed)

/-- The row of a text that waits for its room. -/
def textRow (event : TaskEvent) (projection : Projection) (room : String)
    (thread reply : Option String) (monitor_generation : Option Nat)
    (render_version body : String) (now : DateTime) : OutboxRow :=
  { source_kind := .taskEvent, source_id := Externals.uuidText event.id.uuid,
    projection := projection, transport := some "matrix",
    stable_txn_id := Externals.uuidText (Externals.newV5 terminalOutboxNamespace
      ("task_event\x00" ++ Externals.uuidText event.id.uuid ++ "\x00" ++ projection.asStr)),
    room_id := room, thread_root := thread, reply_event_id := reply,
    monitor_generation := monitor_generation, render_version := render_version,
    body := body,
    body_hash := Externals.uuidText (Externals.newV5 outboxBodyNamespace body),
    state := .pending, attempt_count := 0, claim_owner := none, claim_revision := none,
    created_at := ts now, updated_at := ts now }

/-- The text that a projection queues for its room. -/
def projectText (event : TaskEvent) (projection : Projection) (room : String)
    (thread reply : Option String) (monitor_generation : Option Nat)
    (render_version body : String) (now : DateTime) :
    Tx Db (Except RuntimeError FinalizeResult) Unit := do
  let row := textRow event projection room thread reply monitor_generation render_version body now
  let taken ← Tx.read fun db =>
    db.projectionOutbox.rows.any fun o => decide (o.stable_txn_id = row.stable_txn_id)
  Tx.require (!taken) (.error (.storage .constraint))
  Tx.insert Db.projectionOutboxL row (.error (.storage .constraint))

/-- Only the reply of a completed task is carried by an output set. -/
def isOutputReply (projection : Projection) (payload : TaskEventPayload) : Bool :=
  match projection, payload with
  | .terminalReply, .completed _ => true
  | _, _ => false

/-- `insert_terminal_projection`. -/
def insertTerminalProjection (event : TaskEvent) (projection : Projection) (room : String)
    (thread reply : Option String) (monitor_generation : Option Nat)
    (render_version body : String) (now : DateTime) :
    Tx Db (Except RuntimeError FinalizeResult) Unit :=
  if isOutputReply projection event.payload then
    projectOutputSet event room thread reply render_version now
  else
    projectText event projection room thread reply monitor_generation render_version body now

/-- The line the monitor room receives when a task ends. -/
def monitorBody (event : TaskEvent) (task : TaskRow) : String :=
  boundedOutbox ("category=" ++ (if event.status = .completed then "summary" else "alert") ++
    " severity=" ++ (match event.status with
      | .completed => "info"
      | .cancelled => "warning"
      | _ => "error") ++
    " status=" ++ encodeStatus event.status ++
    " task_id=" ++ Externals.uuidText event.task_id.uuid ++
    " root_task_id=" ++ Externals.uuidText task.root_task_id.uuid ++
    " parent_task_id=" ++
      ((task.parent_task_id.map fun p => Externals.uuidText p.uuid).getD "none") ++
    " from_agent=" ++ Externals.uuidText task.from_agent.uuid ++
    " to_agent=" ++ Externals.uuidText task.to_agent.uuid ++
    " seq=" ++ toString event.seq ++
    " timestamp=" ++ ts event.timestamp)

/-- The reply to the room the task came from, when it came from one. -/
def insertReply (event : TaskEvent) (admission : AdmissionRow) (now : DateTime) :
    Tx Db (Except RuntimeError FinalizeResult) Unit :=
  match admission.reply_room with
  | none => pure ()
  | some room => do
    let body ← Tx.orElse (terminalReplyBody event.payload) (.error .malformed)
    insertTerminalProjection event .terminalReply room admission.reply_thread_root
      admission.reply_event_id admission.monitor_generation
      (admission.render_version.getD "v1") body now

/-- The line for the monitor room, when there is one. -/
def insertMonitorLine (event : TaskEvent) (admission : AdmissionRow) (task : TaskRow)
    (now : DateTime) : Tx Db (Except RuntimeError FinalizeResult) Unit :=
  match admission.monitor_room with
  | none => pure ()
  | some room =>
    insertTerminalProjection event .observer room none none admission.monitor_generation
      (admission.render_version.getD "v1") (monitorBody event task) now

/-! ### The live closure -/

/-- `INSERT … SELECT … FROM task_continuations … ON CONFLICT DO NOTHING`. -/
def receiptFromContinuation {ρ : Type} (key : ReceiptKey) (hash : Uuid) (bytes : Nat)
    (now : DateTime) : Option ContinuationRow → Tx Db ρ Nat
  | none => pure 0
  | some row =>
    Tx.insertOrIgnore Db.continuationResponseReceiptsL (ResponseReceiptRow.mk
      key row.task_id row.delivery_id row.resource_key row.lease_fence (row.revision - 1)
      hash .structured (min bytes (2 ^ 63 - 1)) row.runtime_generation (ts now))

/-- The receipt of the terminal response; a second one must carry the same hash. -/
def insertTerminalReceipt (lease : Lease) (revision : Nat) (event : TaskEvent)
    (now : DateTime) : Tx Db (Except RuntimeError FinalizeResult) Unit := do
  let response := payloadText event.payload
  let hash := Externals.newV5 outboxBodyNamespace response
  let key : ReceiptKey := ⟨lease.task_id, event.id.uuid, lease.fence, revision⟩
  let row ← Tx.read fun db => db.taskContinuations.get event.task_id
  let inserted ← receiptFromContinuation key hash response.utf8ByteSize now row
  let existing ← Tx.read fun db => db.continuationResponseReceipts.get key
  Tx.require (inserted = 1 ∨ existing.map (·.response_hash) = some hash)
    (.ok .recoveryNeeded)

/-- How `finalize_terminal` reports an error of the closure. -/
def closureFailure : ClosureError → Except RuntimeError FinalizeResult
  | .fenced => .error .fenced
  | .admissionStale => .error .fenced
  | .malformed => .error .malformed
  | .database source => .error (.storage source)

/-- The generation read before the transaction, then the admission and the task that the
projections are made from. -/
def finalizeEnvelope (seen : Db) (lease : Lease) (generation : String) (event : TaskEvent) :
    Tx Db (Except RuntimeError FinalizeResult) (AdmissionRow × TaskRow) := do
  Tx.require (seen.runtimeGeneration lease.task_id = some generation) (.ok .fenced)
  let admission ← Tx.read fun db => db.taskAdmissions.get event.task_id
  let admission ← Tx.orElse admission (.error .malformed)
  let task ← Tx.read fun db => db.tasks.get event.task_id
  let task ← Tx.orElse task (.error .malformed)
  pure (admission, task)

/-- The continuation ends under the live lease; returns the fence as the column holds it. -/
def finalizeContinuation (lease : Lease) (revision : Nat) (generation : String)
    (state : ContinuationState) (observed_bytes : Nat) (now : DateTime) :
    Tx Db (Except RuntimeError FinalizeResult) Nat := do
  let observed ← Tx.orElse (toI64 observed_bytes) (.error .malformed)
  let fence ← Tx.orElse (toI64 lease.fence) (.error .malformed)
  let rev ← Tx.orElse (toI64 revision) (.error .malformed)
  let n ← updateTurn lease fence rev (some generation) .inFlight now
    (lastTurn state observed now) (lastTurn_key state observed now)
  Tx.require (n = 1) (.ok .fenced)
  pure fence

/-- The event must be the next of its task, both by the log and by the version. -/
def finalizeVersion (event : TaskEvent) : Tx Db (Except RuntimeError FinalizeResult) Unit := do
  let latest ← Tx.read fun db => db.maxSeq event.task_id
  let previous ← Tx.orElse (toI64 (event.seq - 1)) (.error .malformed)
  Tx.require (latest = some previous) (.ok .stale)
  Tx.require (2 ≤ event.seq) (.error .malformed)
  let expected ← Tx.orElse (toI64 (event.seq - 2)) (.error .malformed)
  let n ← advanceVersion event.task_id expected
  Tx.require (n = 1) (.ok .stale)
  Tx.require event.status.isTerminal (.error .malformed)

/-- The transaction of `finalize_terminal`. -/
def finalizeTerminalTx (seen : Db) (lease : Lease) (revision : Nat) (generation : String)
    (state : ContinuationState) (observed_bytes : Nat) (event : TaskEvent) (now : DateTime) :
    Tx Db (Except RuntimeError FinalizeResult) (Except RuntimeError FinalizeResult) := do
  let envelope ← finalizeEnvelope seen lease generation event
  let fence ← finalizeContinuation lease revision generation state observed_bytes now
  insertTerminalReceipt lease revision event now
  finalizeVersion event
  applyClosure
    { task_id := event.task_id, resource_key := lease.resource, event := event,
      now := ts now, delivery := .liveContinuation, admission := .live,
      task_version := .liveAlreadyAdvanced, disposition_reason := none }
    (.liveActive lease.owner fence (ts now)) closureFailure
  endClaims lease fence (state ≠ .recoveryNeeded) now
  insertReply event envelope.1 now
  insertMonitorLine event envelope.1 envelope.2 now
  pure (.ok .committed)

/-- `SqliteRuntimeStore::finalize_terminal`. -/
def finalizeTerminal (seen : Db) (lease : Lease) (revision : Nat) (generation : String)
    (state : ContinuationState) (observed_bytes : Nat) (event : TaskEvent) (now : DateTime) :
    Db → Except RuntimeError FinalizeResult × Db :=
  Tx.commit id
    (finalizeTerminalTx seen lease revision generation state observed_bytes event now)

/-! ### What each statement does -/

omit [Externals] in
theorem advanceVersion_ok {ρ : Type} {task_id : TaskId} {expected n : Nat} {s s' : Db}
    (h : (advanceVersion task_id expected : Tx Db ρ Nat) s = .ok (n, s')) (hn : n = 1) :
    ∃ row t, s' = { s with tasks := t } ∧ s.tasks.get task_id = some row ∧
      row.version = expected ∧
      s.tasks.Puts task_id { row with version := expected + 1 } t := by
  obtain ⟨haff, rfl⟩ := Tx.update_ok.1 h
  obtain ⟨row, hrow, hp, hputs⟩ :=
    Table.update_puts (fun r hp => (of_decide_eq_true hp).1) (haff.trans hn)
  obtain ⟨-, rfl⟩ := of_decide_eq_true hp
  exact ⟨row, _, rfl, hrow, rfl, hputs⟩

omit [Externals] in
/-- A row whose position and identity are free is inserted. -/
theorem insertEvent_free {ρ : Type} {row : EventRow} {refused : ρ} {s : Db}
    {events t : Table EventRow.event_id} (hseq : 1 ≤ row.seq)
    (htaken : ∀ e ∈ events.rows, ¬ (e.task_id = row.task_id ∧ e.seq = row.seq))
    (ht : events.insert row = some t) (hs : s.taskEvents = events) :
    insertEvent row refused s = .ok ((), { s with taskEvents := t }) := by
  subst hs
  have hfree : (s.taskEvents.rows.any fun e =>
      decide (e.task_id = row.task_id ∧ e.seq = row.seq)) = false := by
    rw [List.any_eq_false]
    intro e he hp
    exact htaken e he (of_decide_eq_true hp)
  simp only [insertEvent, Tx.bind_apply, decide_eq_true hseq, Tx.require_true, Tx.read_apply,
    hfree, Bool.not_false]
  rw [Tx.insert_free ht]

omit [Externals] in
theorem insertEvent_ok {ρ : Type} {row : EventRow} {refused : ρ} {s s' : Db} {u : Unit}
    (h : insertEvent row refused s = .ok (u, s')) :
    ∃ t, s' = { s with taskEvents := t } ∧ s.taskEvents.insert row = some t := by
  simp only [insertEvent, Tx.bind_ok, Tx.require_ok, Tx.read_ok, Tx.insert_ok] at h
  obtain ⟨_, _, ⟨-, rfl⟩, _, _, ⟨-, rfl⟩, _, _, ⟨-, rfl⟩, t, hins, rfl⟩ := h
  exact ⟨t, rfl, hins⟩

omit [Externals] in
theorem closeDelivery_ok {ρ : Type} {context : ClosureContext} {refused : ρ} {s s' : Db}
    {counts : Nat × Nat} (h : closeDelivery context refused s = .ok (counts, s')) :
    ∃ d e, s' = { s with deliveries := d, deliveryDispositions := e } := by
  simp only [closeDelivery, Tx.bind_ok, Tx.read_ok] at h
  obtain ⟨_, _, ⟨rfl, rfl⟩, h⟩ := h
  cases hb : context.delivery with
  | liveContinuation =>
    simp only [hb, Tx.bind_ok, Tx.updateChecked_ok, Tx.update_ok, Tx.pure_ok] at h
    obtain ⟨_, _, ⟨-, -, rfl⟩, _, _, ⟨-, rfl⟩, -, rfl⟩ := h
    exact ⟨_, _, rfl⟩
  | offlineExact delivery_id attempt =>
    simp only [hb, Tx.bind_ok, Tx.updateChecked_ok, Tx.update_ok, Tx.pure_ok] at h
    obtain ⟨_, _, ⟨-, -, rfl⟩, _, _, ⟨-, rfl⟩, -, rfl⟩ := h
    exact ⟨_, _, rfl⟩

omit [Externals] in
/-- A live closure leaves no open disposition of the delivery it binds. -/
theorem closeDelivery_live_ok {ρ : Type} {context : ClosureContext} {refused : ρ} {s s' : Db}
    {counts : Nat × Nat} (hlive : context.delivery = .liveContinuation)
    (h : closeDelivery context refused s = .ok (counts, s')) :
    ∃ d e, s' = { s with deliveries := d, deliveryDispositions := e } ∧
      ∀ x ∈ e.rows, some x.delivery_id = s.boundDelivery context.task_id →
        x.task_id = context.task_id → x.state = .terminal := by
  simp only [closeDelivery, Tx.bind_ok, Tx.read_ok, hlive, Tx.updateChecked_ok, Tx.update_ok,
    Tx.pure_ok] at h
  obtain ⟨_, _, ⟨rfl, rfl⟩, _, _, ⟨-, -, rfl⟩, _, _, ⟨-, rfl⟩, -, rfl⟩ := h
  refine ⟨_, _, rfl, ?_⟩
  intro x hx hdelivery htask
  rcases Table.mem_updateWhere.1 hx with ⟨y, -, -, rfl⟩ | ⟨-, hno⟩
  · rfl
  · have hno := of_decide_eq_false hno
    cases hstate : x.state with
    | terminal => rfl
    | prepared => exact absurd ⟨hdelivery, htask, Or.inl hstate⟩ hno
    | acknowledged => exact absurd ⟨hdelivery, htask, Or.inr (Or.inl hstate)⟩ hno
    | outcomeUnknown => exact absurd ⟨hdelivery, htask, Or.inr (Or.inr hstate)⟩ hno

/-- The admission states from which a live closure ends a task. -/
def AdmissionState.closable (state : AdmissionState) : Prop :=
  state = .enqueued ∨ state = .dispatching ∨ state = .running

omit [Externals] in
theorem AdmissionMode.accepts_imp {mode : AdmissionMode} {task_id : TaskId} {a : AdmissionRow}
    (h : mode.accepts task_id a = true) : a.task_id = task_id ∧ a.state.closable := by
  cases mode with
  | live =>
    simp only [accepts, decide_eq_true_eq] at h
    exact h
  | offline runtime_owner revision =>
    simp only [accepts, decide_eq_true_eq] at h
    exact ⟨h.1, Or.inr (Or.inl h.2.1)⟩

omit [Externals] in
theorem closeAdmission_ok {ρ : Type} {context : ClosureContext} {s s' : Db} {n : Nat}
    (h : (closeAdmission context : Tx Db ρ Nat) s = .ok (n, s')) (hn : n = 1) :
    ∃ a t, s' = { s with taskAdmissions := t } ∧
      s.taskAdmissions.get context.task_id = some a ∧ a.state.closable ∧
      s.taskAdmissions.Puts context.task_id
        { a with state := .terminal, revision := a.revision + 1,
                 updated_at := context.now } t := by
  obtain ⟨haff, rfl⟩ := Tx.update_ok.1 h
  obtain ⟨a, ha, hp, hputs⟩ :=
    Table.update_puts (fun r hp => (AdmissionMode.accepts_imp hp).1) (haff.trans hn)
  exact ⟨a, _, rfl, ha, (AdmissionMode.accepts_imp hp).2, hputs⟩

/-- What a live closure writes: the event is appended, the admission becomes terminal, and
the lease the caller owns is released. -/
theorem applyClosure_live_ok {ρ : Type} {event : TaskEvent} {resource : ResourceKey}
    {owner : Uuid} {fence : Nat} {now : String} {fail : ClosureError → ρ} {s s' : Db} {u : Unit}
    (h : applyClosure
      { task_id := event.task_id, resource_key := resource, event := event, now := now,
        delivery := .liveContinuation, admission := .live,
        task_version := .liveAlreadyAdvanced, disposition_reason := none }
      (.liveActive owner fence now) fail s = .ok (u, s')) :
    ∃ ev a ad l ls d e,
      s' = { s with taskEvents := ev, taskAdmissions := ad, executionLeases := ls,
                    deliveries := d, deliveryDispositions := e } ∧
      event.status.isTerminal = true ∧ event.seq < 2 ^ 63 ∧
      s.taskEvents.insert (eventToRow event event.seq event.status) = some ev ∧
      s.taskAdmissions.get event.task_id = some a ∧ a.state.closable ∧
      s.taskAdmissions.Puts event.task_id
        { a with state := .terminal, revision := a.revision + 1, updated_at := now } ad ∧
      s.executionLeases.get resource = some l ∧ l.task_id = event.task_id ∧
      (l.owner_token = owner ∧ l.fence = fence ∧ l.state = .active) ∧
      s.executionLeases.Puts resource
        { l with state := .released, heartbeat_at := now, expires_at := now } ls ∧
      ∀ x ∈ e.rows, some x.delivery_id = s.boundDelivery event.task_id →
        x.task_id = event.task_id → x.state = .terminal := by
  simp only [applyClosure, closeVersion, Tx.bind_ok, Tx.require_ok, Tx.pure_ok,
    Tx.orElse_ok] at h
  obtain ⟨_, _, ⟨hterm, rfl⟩, _, _, ⟨-, rfl⟩, q, _, ⟨hq, rfl⟩, hmore⟩ := h
  obtain ⟨_, s₁, hev, n, s₂, hadm, _, _, ⟨hn, rfl⟩, hmore⟩ := hmore
  obtain ⟨counts, s₃, hdel, _, _, ⟨-, rfl⟩, m, s₄, hlease, hm, rfl⟩ := hmore
  obtain ⟨rfl, hlt⟩ := toI64_eq_some hq
  obtain ⟨ev, rfl, hins⟩ := insertEvent_ok hev
  obtain ⟨a, ad, rfl, ha, hcl, haput⟩ := closeAdmission_ok hadm (of_decide_eq_true hn)
  obtain ⟨d, e, rfl, hclosed⟩ := closeDelivery_live_ok rfl hdel
  obtain ⟨l, ls, rfl, hl, htask, hown, hlput⟩ := endLease_ok hlease (of_decide_eq_true hm)
  exact ⟨ev, a, ad, l, ls, d, e, rfl, (of_decide_eq_true hterm).2, hlt, hins, ha, hcl, haput,
    hl, htask, hown, hlput, hclosed⟩

omit [Externals] in
/-- The lease that a closure releases keeps its task, its owner and its fence. -/
theorem closeLease_ok {ρ : Type} {context : ClosureContext} {mode : LeaseMode} {s s' : Db}
    {n : Nat} (h : (closeLease context mode : Tx Db ρ Nat) s = .ok (n, s')) :
    ∃ ls, s' = { s with executionLeases := ls } ∧
      ∀ l' ∈ ls.rows, ∃ l ∈ s.executionLeases.rows, l.resource_key = l'.resource_key ∧
        l.owner_token = l'.owner_token ∧ l.task_id = l'.task_id := by
  cases mode with
  | liveActive owner fence now =>
    obtain ⟨-, rfl⟩ := Tx.update_ok.1 h
    refine ⟨_, rfl, ?_⟩
    intro l' hl'
    rcases Table.mem_updateWhere.1 hl' with ⟨l, hl, -, rfl⟩ | ⟨hl, -⟩
    · exact ⟨l, hl, rfl, rfl, rfl⟩
    · exact ⟨l', hl, rfl, rfl, rfl⟩
  | offlineRecoveryNeeded owner fence expires_at =>
    obtain ⟨-, rfl⟩ := Tx.update_ok.1 h
    refine ⟨_, rfl, ?_⟩
    intro l' hl'
    rcases Table.mem_updateWhere.1 hl' with ⟨l, hl, -, rfl⟩ | ⟨hl, -⟩
    · exact ⟨l, hl, rfl, rfl, rfl⟩
    · exact ⟨l', hl, rfl, rfl, rfl⟩

/-- The same tasks, of which only the versions may differ. -/
structure VersionsMoved (t u : Table TaskRow.task_id) : Prop where
  old : ∀ row' ∈ u.rows, ∃ row ∈ t.rows, ∃ version, row' = { row with version := version }
  kept : ∀ row ∈ t.rows, ∃ version, { row with version := version } ∈ u.rows

omit [Externals] in
theorem VersionsMoved.refl (t : Table TaskRow.task_id) : VersionsMoved t t where
  old row hrow := ⟨row, hrow, row.version, rfl⟩
  kept row hrow := ⟨row.version, hrow⟩

omit [Externals] in
theorem VersionsMoved.of_puts {t u : Table TaskRow.task_id} {task_id : TaskId} {row : TaskRow}
    {version : Nat} (hrow : t.get task_id = some row)
    (h : t.Puts task_id { row with version := version } u) : VersionsMoved t u where
  old := by
    intro row' hrow'
    rcases h.mem hrow' with ⟨-, rfl⟩ | hold
    · exact ⟨row, Table.mem_of_get hrow, version, rfl⟩
    · exact ⟨row', hold, row'.version, rfl⟩
  kept := by
    intro row' hrow'
    have hget := h row'.task_id
    by_cases hk : row'.task_id = task_id
    · have hsame : row' = row := by
        rw [← hk, Table.get_of_mem hrow'] at hrow
        exact Option.some.inj hrow
      rw [if_pos hk] at hget
      exact ⟨version, hsame ▸ Table.mem_of_get hget⟩
    · rw [if_neg hk, Table.get_of_mem hrow'] at hget
      exact ⟨row'.version, Table.mem_of_get hget⟩

omit [Externals] in
/-- Only the version of a task may change. -/
theorem closeVersion_ok {ρ : Type} {context : ClosureContext} {fenced : ρ} {s s' : Db}
    {u : Unit} (h : closeVersion context fenced s = .ok (u, s')) :
    ∃ t, s' = { s with tasks := t } ∧ VersionsMoved s.tasks t := by
  unfold closeVersion at h
  cases hmode : context.task_version with
  | liveAlreadyAdvanced =>
    rw [hmode] at h
    obtain ⟨-, rfl⟩ := Tx.pure_ok.1 h
    exact ⟨_, rfl, .refl _⟩
  | offlineExpected expected =>
    rw [hmode] at h
    simp only [Tx.bind_ok, Tx.require_ok] at h
    obtain ⟨n, s₁, hver, hn, rfl⟩ := h
    obtain ⟨row, t, rfl, hrow, -, hputs⟩ := advanceVersion_ok hver (of_decide_eq_true hn)
    exact ⟨t, rfl, .of_puts hrow hputs⟩

/-- Everything a closure writes, live or offline. -/
structure ClosureStep (context : ClosureContext) (db db' : Db) : Prop where
  same_task : context.event.task_id = context.task_id
  terminal : context.event.status.isTerminal = true
  tasks : VersionsMoved db.tasks db'.tasks
  appended : db.taskEvents.insert
    (eventToRow context.event context.event.seq context.event.status) = some db'.taskEvents
  admission : ∃ a, db.taskAdmissions.get context.task_id = some a ∧ a.state.closable ∧
    db.taskAdmissions.Puts context.task_id
      { a with state := .terminal, revision := a.revision + 1, updated_at := context.now }
      db'.taskAdmissions
  leases : ∀ l' ∈ db'.executionLeases.rows, ∃ l ∈ db.executionLeases.rows,
    l.resource_key = l'.resource_key ∧ l.owner_token = l'.owner_token ∧ l.task_id = l'.task_id
  frame : db' = { db with
    tasks := db'.tasks, taskEvents := db'.taskEvents, taskAdmissions := db'.taskAdmissions,
    executionLeases := db'.executionLeases, deliveries := db'.deliveries,
    deliveryDispositions := db'.deliveryDispositions }

theorem applyClosure_ok {ρ : Type} {context : ClosureContext} {mode : LeaseMode}
    {fail : ClosureError → ρ} {s s' : Db} {u : Unit}
    (h : applyClosure context mode fail s = .ok (u, s')) : ClosureStep context s s' := by
  simp only [applyClosure, Tx.bind_ok, Tx.require_ok, Tx.orElse_ok] at h
  obtain ⟨_, _, ⟨hterm, rfl⟩, _, s₁, hver, q, _, ⟨hq, rfl⟩, hmore⟩ := h
  obtain ⟨_, s₂, hev, n, s₃, hadm, _, _, ⟨hn, rfl⟩, hmore⟩ := hmore
  obtain ⟨counts, s₄, hdel, _, _, ⟨-, rfl⟩, m, s₅, hlease, -, rfl⟩ := hmore
  obtain ⟨rfl, -⟩ := toI64_eq_some hq
  obtain ⟨t, rfl, htasks⟩ := closeVersion_ok hver
  obtain ⟨ev, rfl, hins⟩ := insertEvent_ok hev
  obtain ⟨a, ad, rfl, ha, hcl, haput⟩ := closeAdmission_ok hadm (of_decide_eq_true hn)
  obtain ⟨d, e, rfl⟩ := closeDelivery_ok hdel
  obtain ⟨ls, rfl, hls⟩ := closeLease_ok hlease
  have hterm := of_decide_eq_true hterm
  exact
    { same_task := hterm.1
      terminal := hterm.2
      tasks := htasks
      appended := hins
      admission := ⟨a, ha, hcl, haput⟩
      leases := hls
      frame := rfl }

theorem insertOutputSet_ok {set_id : String} {event : TaskEvent} {room : String}
    {thread reply : Option String} {render_version : String} {now : DateTime} {s s' : Db}
    {n : Nat}
    (h : insertOutputSet set_id event room thread reply render_version now s = .ok (n, s')) :
    (n = 0 ∧ s' = s) ∨
      (n = 1 ∧ ∃ c d t, s.continuationDelivery event.task_id = some (c, d) ∧
        s.acpOutputSets.insert (replySet set_id c d room thread reply render_version now) =
          some t ∧ s' = { s with acpOutputSets := t }) := by
  simp only [insertOutputSet, Tx.bind_ok, Tx.read_ok] at h
  obtain ⟨_, _, ⟨rfl, rfl⟩, h⟩ := h
  cases hc : s.continuationDelivery event.task_id with
  | none =>
    simp only [hc, Tx.pure_ok] at h
    exact Or.inl ⟨h.1.symm, h.2.symm⟩
  | some cd =>
    obtain ⟨c, d⟩ := cd
    simp only [hc, Tx.ite_ok, Tx.bind_ok, Tx.insert_ok, Tx.pure_ok] at h
    rcases h with ⟨-, rfl, rfl⟩ | ⟨-, _, _, ⟨t, ht, rfl⟩, rfl, rfl⟩
    · exact Or.inl ⟨rfl, rfl⟩
    · exact Or.inr ⟨rfl, c, d, t, rfl, ht, rfl⟩

/-- The states of a set whose output is on its way, or was. -/
def SetState.released : SetState → Prop
  | .sealed | .delivering | .delivered | .partial_ | .cleaning | .cleaned => True
  | .assembling | .prepared | .abandoned | .quarantined => False

/-- How the reply of a completed task was queued: the latest set was sealed, or had been, or an
empty set stands for the event. -/
inductive SetQueued (event : TaskEvent) (room : String) (thread reply : Option String)
    (render_version : String) (now : DateTime) (sets sets' : Table OutputSetRow.set_id) :
    Prop where
  | sealed (set : OutputSetRow) (hmem : set ∈ sets.rows) (htask : set.task_id = event.task_id)
      (haddress : set.room_id = room ∧ set.thread_root = thread ∧ set.reply_event_id = reply ∧
        set.render_version = render_version)
      (hstate : set.state = .prepared)
      (hputs : sets.Puts set.set_id { set with state := .sealed, updated_at := ts now } sets')
  | already (set : OutputSetRow) (hmem : set ∈ sets.rows) (htask : set.task_id = event.task_id)
      (haddress : set.room_id = room ∧ set.thread_root = thread ∧ set.reply_event_id = reply ∧
        set.render_version = render_version)
      (hstate : set.state.released) (hsame : sets' = sets)
  | created (c : ContinuationRow) (d : DeliveryRow)
      (hinsert : sets.insert (replySet (replySetId event) c d room thread reply render_version
        now) = some sets')
  | opened (set : OutputSetRow) (hmem : set ∈ sets.rows) (htask : set.task_id = event.task_id)
      (hid : set.set_id = replySetId event) (hsame : sets' = sets)

omit [Externals] in
/-- The latest set is one of the candidates. -/
theorem latestOutputSet_mem {db : Db} {task_id : TaskId} {states : List SetState}
    {set : OutputSetRow} (h : db.latestOutputSet task_id states = some set) :
    set ∈ db.acpOutputSets.rows ∧ set.task_id = task_id ∧ set.state ∈ states := by
  have hfold : ∀ (rows : List OutputSetRow) (best : Option OutputSetRow),
      rows.foldl (fun best s => match best with
        | none => some s
        | some b => if b.turn < s.turn then some s else some b) best = some set →
      best = some set ∨ set ∈ rows := by
    intro rows
    induction rows with
    | nil => exact fun best h => Or.inl h
    | cons r rows ih =>
      intro best h
      rcases ih _ h with hbest | hmem
      · cases best with
        | none => exact Or.inr (by simp_all)
        | some b =>
          simp only at hbest
          split at hbest
          · exact Or.inr (by simp_all)
          · exact Or.inl hbest
      · exact Or.inr (List.mem_cons_of_mem _ hmem)
  rcases hfold _ _ h with hnone | hmem
  · cases hnone
  · obtain ⟨hrow, hp⟩ := List.mem_filter.mp hmem
    exact ⟨hrow, of_decide_eq_true hp⟩

theorem projectOutputSet_ok {event : TaskEvent} {room : String} {thread reply : Option String}
    {render_version : String} {now : DateTime} {s s' : Db} {u : Unit}
    (h : projectOutputSet event room thread reply render_version now s = .ok (u, s')) :
    ∃ t, s' = { s with acpOutputSets := t } ∧
      SetQueued event room thread reply render_version now s.acpOutputSets t := by
  simp only [projectOutputSet, Tx.bind_ok, Tx.read_ok] at h
  obtain ⟨existing, _, ⟨hexisting, rfl⟩, h⟩ := h
  cases existing with
  | some set =>
    obtain ⟨hmem, htask, hstates⟩ := latestOutputSet_mem hexisting
    simp only [Tx.bind_ok, Tx.require_ok, Tx.ite_ok, Tx.update_ok, Tx.pure_ok,
      decide_eq_true_eq] at h
    obtain ⟨_, _, ⟨haddress, rfl⟩, ⟨hprepared, n, _, ⟨hn, rfl⟩, hone, rfl⟩ |
      ⟨hnot, -, rfl⟩⟩ := h
    · obtain ⟨row, hrow, hp, hputs⟩ := Table.update_puts (k := set.set_id)
        (fun r hp => (of_decide_eq_true hp).1) (hn.trans hone)
      have hsame : row = set := by
        rw [Table.get_of_mem hmem] at hrow
        exact (Option.some.inj hrow).symm
      subst hsame
      exact ⟨_, rfl, .sealed row hmem htask haddress hprepared hputs⟩
    · have hreleased : set.state.released := by
        simp only [List.mem_cons, List.not_mem_nil, or_false] at hstates
        rcases hstates with h | h | h | h | h | h | h
        · exact absurd h hnot
        all_goals rw [h]; trivial
      exact ⟨_, rfl, .already set hmem htask haddress hreleased rfl⟩
  | none =>
    simp only [Tx.bind_ok, Tx.ite_ok, Tx.read_ok, Tx.require_ok, Tx.pure_ok,
      decide_eq_true_eq] at h
    obtain ⟨n, s₁, hins, ⟨hone, -, rfl⟩ | ⟨hno, latest, _, ⟨hlatest, rfl⟩, hid, rfl⟩⟩ := h
    · rcases insertOutputSet_ok hins with ⟨rfl, -⟩ | ⟨-, c, d, t, -, ht, rfl⟩
      · cases hone
      · exact ⟨t, rfl, .created c d ht⟩
    · rcases insertOutputSet_ok hins with ⟨-, rfl⟩ | ⟨hone, -⟩
      · cases latest with
        | none => cases hid
        | some set =>
          obtain ⟨hmem, htask, -⟩ := latestOutputSet_mem hlatest
          exact ⟨_, rfl, .opened set hmem htask (Option.some.inj hid) rfl⟩
      · exact absurd hone hno

/-- The outbox with the row, if there is one to queue. -/
def Queues (row : Option OutboxRow) (outbox outbox' : Table OutboxRow.key) : Prop :=
  match row with
  | some row => outbox.insert row = some outbox'
  | none => outbox' = outbox

/-- What the projections of a terminal event put into the outbox and the output sets. -/
structure Projected (outbox : Option OutboxRow) (queued : Table OutputSetRow.set_id →
    Table OutputSetRow.set_id → Prop) (s s' : Db) : Prop where
  outbox : Queues outbox s.projectionOutbox s'.projectionOutbox
  sets : queued s.acpOutputSets s'.acpOutputSets
  frame : s' = { s with projectionOutbox := s'.projectionOutbox,
                        acpOutputSets := s'.acpOutputSets }

omit [Externals] in
theorem Projected.tables {outbox : Option OutboxRow} {queued : Table OutputSetRow.set_id →
    Table OutputSetRow.set_id → Prop} {s s' : Db} (h : Projected outbox queued s s') :
    ∃ o t, s' = { s with projectionOutbox := o, acpOutputSets := t } ∧
      Queues outbox s.projectionOutbox o ∧ queued s.acpOutputSets t :=
  ⟨_, _, h.frame, h.outbox, h.sets⟩

theorem projectText_ok {event : TaskEvent} {projection : Projection} {room : String}
    {thread reply : Option String} {monitor_generation : Option Nat}
    {render_version body : String} {now : DateTime} {s s' : Db} {u : Unit}
    (h : projectText event projection room thread reply monitor_generation render_version body
      now s = .ok (u, s')) :
    Projected (some (textRow event projection room thread reply monitor_generation
      render_version body now)) (fun t t' => t' = t) s s' := by
  simp only [projectText, Tx.bind_ok, Tx.read_ok, Tx.require_ok, Tx.insert_ok] at h
  obtain ⟨_, _, ⟨-, rfl⟩, _, _, ⟨-, rfl⟩, o, ho, rfl⟩ := h
  exact ⟨ho, rfl, rfl⟩

/-- The row that the reply of a task puts into the outbox: none for a completed task. -/
def replyRow (event : TaskEvent) (admission : AdmissionRow) (now : DateTime) :
    Option OutboxRow :=
  match admission.reply_room, event.payload with
  | none, _ => none
  | some _, .completed _ => none
  | some room, payload => (terminalReplyBody payload).map fun body =>
      textRow event .terminalReply room admission.reply_thread_root admission.reply_event_id
        admission.monitor_generation (admission.render_version.getD "v1") body now

/-- What the reply of a task does to the output sets. -/
def replySets (event : TaskEvent) (admission : AdmissionRow) (now : DateTime)
    (sets sets' : Table OutputSetRow.set_id) : Prop :=
  match admission.reply_room, event.payload with
  | some room, .completed _ =>
    SetQueued event room admission.reply_thread_root admission.reply_event_id
      (admission.render_version.getD "v1") now sets sets'
  | _, _ => sets' = sets

theorem insertReply_ok {event : TaskEvent} {admission : AdmissionRow} {now : DateTime}
    {s s' : Db} {u : Unit} (h : insertReply event admission now s = .ok (u, s')) :
    Projected (replyRow event admission now) (replySets event admission now) s s' := by
  cases hroom : admission.reply_room with
  | none =>
    simp only [insertReply, hroom, Tx.pure_ok] at h
    obtain ⟨-, rfl⟩ := h
    refine ⟨?_, ?_, rfl⟩
    · simp only [Queues, replyRow, hroom]
    · simp only [replySets, hroom]
  | some room =>
    simp only [insertReply, hroom, Tx.bind_ok, Tx.orElse_ok] at h
    obtain ⟨body, _, ⟨hbody, rfl⟩, h⟩ := h
    rcases Tx.ite_ok.1 h with ⟨hout, h⟩ | ⟨hout, h⟩
    · -- the reply of a completed task is its output set
      obtain ⟨t, rfl, hqueued⟩ := projectOutputSet_ok h
      cases hpayload : event.payload <;> rw [hpayload] at hout <;> try cases hout
      refine ⟨?_, ?_, rfl⟩
      · simp only [Queues, replyRow, hroom, hpayload]
      · simp only [replySets, hroom, hpayload]
        exact hqueued
    · have hprojected := projectText_ok h
      cases hpayload : event.payload <;> rw [hpayload] at hout hbody <;>
        simp only [isOutputReply, terminalReplyBody, reduceCtorEq, not_true_eq_false,
          Bool.false_eq_true, not_false_eq_true, Option.some.injEq] at hout hbody
      all_goals
        subst hbody
        have hrow := hprojected.outbox
        have hsets := hprojected.sets
        exact ⟨by simpa only [replyRow, hroom, hpayload, terminalReplyBody, Option.map_some]
          using hrow, by simpa only [replySets, hroom, hpayload] using hsets, hprojected.frame⟩

/-- A reply has something to say. -/
theorem insertReply_body {event : TaskEvent} {admission : AdmissionRow} {now : DateTime}
    {room : String} {s s' : Db} {u : Unit} (hroom : admission.reply_room = some room)
    (h : insertReply event admission now s = .ok (u, s')) :
    ∃ body, terminalReplyBody event.payload = some body := by
  simp only [insertReply, hroom, Tx.bind_ok, Tx.orElse_ok] at h
  obtain ⟨body, _, ⟨hbody, rfl⟩, -⟩ := h
  exact ⟨body, hbody⟩

/-- The row for the monitor room. -/
def observerRow (event : TaskEvent) (admission : AdmissionRow) (task : TaskRow)
    (now : DateTime) : Option OutboxRow :=
  admission.monitor_room.map fun room =>
    textRow event .observer room none none admission.monitor_generation
      (admission.render_version.getD "v1") (monitorBody event task) now

theorem insertMonitorLine_ok {event : TaskEvent} {admission : AdmissionRow} {task : TaskRow}
    {now : DateTime} {s s' : Db} {u : Unit}
    (h : insertMonitorLine event admission task now s = .ok (u, s')) :
    Projected (observerRow event admission task now) (fun t t' => t' = t) s s' := by
  cases hroom : admission.monitor_room with
  | none =>
    simp only [insertMonitorLine, hroom, Tx.pure_ok] at h
    obtain ⟨-, rfl⟩ := h
    refine ⟨?_, rfl, rfl⟩
    simp only [Queues, observerRow, hroom, Option.map_none]
  | some room =>
    simp only [insertMonitorLine, hroom] at h
    rcases Tx.ite_ok.1 h with ⟨hout, -⟩ | ⟨-, h⟩
    · cases hout
    · have hprojected := projectText_ok h
      refine ⟨?_, hprojected.sets, hprojected.frame⟩
      simpa only [observerRow, hroom, Option.map_some] using hprojected.outbox

/-- The hash under which the response of a terminal event is recorded. -/
def terminalHash (event : TaskEvent) : Uuid :=
  Externals.newV5 outboxBodyNamespace (payloadText event.payload)

theorem insertTerminalReceipt_ok {lease : Lease} {revision : Nat} {event : TaskEvent}
    {now : DateTime} {s s' : Db} {u : Unit}
    (h : insertTerminalReceipt lease revision event now s = .ok (u, s')) :
    ∃ t, s' = { s with continuationResponseReceipts := t } ∧
      ∃ receipt, t.get ⟨lease.task_id, event.id.uuid, lease.fence, revision⟩ = some receipt ∧
        receipt.response_hash = terminalHash event := by
  simp only [insertTerminalReceipt, Tx.bind_ok, Tx.read_ok, Tx.require_ok,
    decide_eq_true_eq] at h
  obtain ⟨row, _, ⟨rfl, rfl⟩, n, s₁, hins, existing, _, ⟨hexisting, rfl⟩, hhash, rfl⟩ := h
  -- a receipt that was there must carry the same hash
  have hfound : n ≠ 1 → ∃ receipt, s₁.continuationResponseReceipts.get
      ⟨lease.task_id, event.id.uuid, lease.fence, revision⟩ = some receipt ∧
      receipt.response_hash = terminalHash event := by
    intro hn
    rcases hhash with hone | hsome
    · exact absurd hone hn
    · obtain ⟨receipt, rfl, hreceipt⟩ := Option.map_eq_some_iff.mp hsome
      exact ⟨receipt, hexisting, hreceipt⟩
  cases hrow : s.taskContinuations.get event.task_id with
  | none =>
    rw [hrow] at hins
    obtain ⟨rfl, rfl⟩ := Tx.pure_ok.1 hins
    exact ⟨_, rfl, hfound (by simp)⟩
  | some row =>
    rw [hrow] at hins
    rcases Tx.insertOrIgnore_ok.1 hins with ⟨-, t, ht, rfl⟩ | ⟨rfl, -, rfl⟩
    · exact ⟨t, rfl, _, Table.get_of_mem ((Table.mem_insert ht).mpr (Or.inr rfl)), rfl⟩
    · exact ⟨_, rfl, hfound (by simp)⟩

omit [Externals] in
theorem finalizeEnvelope_ok {seen : Db} {lease : Lease} {generation : String}
    {event : TaskEvent} {s s' : Db} {envelope : AdmissionRow × TaskRow}
    (h : finalizeEnvelope seen lease generation event s = .ok (envelope, s')) :
    s' = s ∧ s.taskAdmissions.get event.task_id = some envelope.1 ∧
      s.tasks.get event.task_id = some envelope.2 := by
  simp only [finalizeEnvelope, Tx.bind_ok, Tx.require_ok, Tx.read_ok, Tx.orElse_ok,
    Tx.pure_ok] at h
  obtain ⟨_, _, ⟨-, rfl⟩, _, _, ⟨ha, rfl⟩, a, _, ⟨rfl, rfl⟩, _, _, ⟨ht, rfl⟩, t, _, ⟨rfl, rfl⟩,
    rfl, rfl⟩ := h
  exact ⟨rfl, ha, ht⟩

theorem finalizeContinuation_ok {lease : Lease} {revision : Nat} {generation : String}
    {state : ContinuationState} {observed_bytes : Nat} {now : DateTime} {s s' : Db}
    {fence : Nat}
    (h : finalizeContinuation lease revision generation state observed_bytes now s =
      .ok (fence, s')) :
    fence = lease.fence ∧ lease.Live s ∧ ∃ t, s' = { s with taskContinuations := t } ∧
      ∃ c, s.taskContinuations.get lease.task_id = some c ∧ c.revision = revision ∧
        c.state = .inFlight ∧
        s.taskContinuations.Puts lease.task_id (lastTurn state observed_bytes now c) t := by
  simp only [finalizeContinuation, Tx.bind_ok, Tx.orElse_ok, Tx.require_ok, Tx.pure_ok] at h
  obtain ⟨o, _, ⟨ho, rfl⟩, f, _, ⟨hf, rfl⟩, r, _, ⟨hr, rfl⟩, n, s₁, hupd, _, _, ⟨hn, rfl⟩, rfl,
    rfl⟩ := h
  obtain ⟨rfl, -⟩ := toI64_eq_some ho
  obtain ⟨rfl, -⟩ := toI64_eq_some hf
  obtain ⟨rfl, -⟩ := toI64_eq_some hr
  obtain ⟨t, rfl, hturn⟩ := updateTurn_ok hupd
  obtain ⟨hlive, c, hc, -, -, hrevision, hstate, hputs⟩ := hturn (of_decide_eq_true hn)
  exact ⟨rfl, hlive, t, rfl, c, hc, hrevision, hstate, hputs⟩

omit [Externals] in
theorem finalizeVersion_ok {event : TaskEvent} {s s' : Db} {u : Unit}
    (h : finalizeVersion event s = .ok (u, s')) :
    s.maxSeq event.task_id = some (event.seq - 1) ∧ 2 ≤ event.seq ∧
      ∃ row t, s' = { s with tasks := t } ∧ s.tasks.get event.task_id = some row ∧
        row.version = event.seq - 2 ∧
        s.tasks.Puts event.task_id { row with version := event.seq - 2 + 1 } t := by
  simp only [finalizeVersion, Tx.bind_ok, Tx.read_ok, Tx.orElse_ok, Tx.require_ok] at h
  obtain ⟨latest, _, ⟨hlat, rfl⟩, prev, _, ⟨hprev, rfl⟩, _, _, ⟨hlast, rfl⟩, hmore⟩ := h
  obtain ⟨_, _, ⟨hge, rfl⟩, exp, _, ⟨hexp, rfl⟩, m, s₃, hver, hmore⟩ := hmore
  obtain ⟨_, _, ⟨hm, rfl⟩, -, rfl⟩ := hmore
  obtain ⟨rfl, -⟩ := toI64_eq_some hprev
  obtain ⟨rfl, -⟩ := toI64_eq_some hexp
  exact ⟨hlat.trans (of_decide_eq_true hlast), of_decide_eq_true hge,
    advanceVersion_ok hver (of_decide_eq_true hm)⟩

/-! ### What an early return reports -/

section

variable {ρ : Type} {P : ρ → Prop}

omit [Externals] in
theorem insertEvent_aborts {row : EventRow} {refused : ρ} (h : P refused) :
    Tx.Aborts P (insertEvent row refused) := by
  refine Tx.aborts_bind (Tx.aborts_require h) fun _ => ?_
  refine Tx.aborts_bind (Tx.aborts_read _) fun _ => ?_
  exact Tx.aborts_bind (Tx.aborts_require h) fun _ => Tx.aborts_insert h

omit [Externals] in
theorem advanceVersion_aborts (task_id : TaskId) (expected : Nat) :
    Tx.Aborts P (advanceVersion task_id expected : Tx Db ρ Nat) := Tx.aborts_update _ _ _ _

theorem endClaims_aborts (lease : Lease) (fence : Nat) (released : Bool) (now : DateTime) :
    Tx.Aborts P (endClaims lease fence released now : Tx Db ρ Unit) :=
  Tx.aborts_ite (Tx.aborts_delete _ _)
    (Tx.aborts_bind (Tx.aborts_update _ _ _ _) fun _ => Tx.aborts_pure _)

theorem updateTurn_aborts {lease : Lease} {fence revision : Nat} {generation : Option String}
    {expected : ContinuationState} {now : DateTime} {set : ContinuationRow → ContinuationRow}
    {hset : ∀ c, (set c).task_id = c.task_id} :
    Tx.Aborts P (updateTurn lease fence revision generation expected now set hset :
      Tx Db ρ Nat) :=
  Tx.aborts_bind (Tx.aborts_read _) fun _ => Tx.aborts_update _ _ _ _

omit [Externals] in
theorem closeDelivery_aborts {context : ClosureContext} {refused : ρ} (h : P refused) :
    Tx.Aborts P (closeDelivery context refused) := by
  refine Tx.aborts_bind (Tx.aborts_read _) fun _ => ?_
  split
  · exact Tx.aborts_bind (Tx.aborts_updateChecked h) fun _ =>
      Tx.aborts_bind (Tx.aborts_update _ _ _ _) fun _ => Tx.aborts_pure _
  · exact Tx.aborts_bind (Tx.aborts_updateChecked h) fun _ =>
      Tx.aborts_bind (Tx.aborts_update _ _ _ _) fun _ => Tx.aborts_pure _

/-- The closure leaves early with its own errors only. -/
theorem applyClosure_aborts {context : ClosureContext} {mode : LeaseMode}
    {fail : ClosureError → ρ} (h : ∀ e, P (fail e)) :
    Tx.Aborts P (applyClosure context mode fail) := by
  refine Tx.aborts_bind (Tx.aborts_require (h _)) fun _ => ?_
  refine Tx.aborts_bind ?_ fun _ => ?_
  · unfold closeVersion
    split
    · exact Tx.aborts_pure _
    · exact Tx.aborts_bind (advanceVersion_aborts _ _) fun _ => Tx.aborts_require (h _)
  refine Tx.aborts_bind (Tx.aborts_orElse (h _)) fun _ => ?_
  refine Tx.aborts_bind (insertEvent_aborts (h _)) fun _ => ?_
  refine Tx.aborts_bind (Tx.aborts_update _ _ _ _) fun _ => ?_
  refine Tx.aborts_bind (Tx.aborts_require ?_) fun _ => ?_
  · split <;> exact h _
  refine Tx.aborts_bind (closeDelivery_aborts (h _)) fun _ => ?_
  refine Tx.aborts_bind (Tx.aborts_require (h _)) fun _ => ?_
  refine Tx.aborts_bind ?_ fun _ => Tx.aborts_require (h _)
  cases mode with
  | liveActive owner fence now => exact Tx.aborts_update _ _ _ _
  | offlineRecoveryNeeded owner fence expires_at => exact Tx.aborts_update _ _ _ _

end

/-- Not a success. -/
def NotCommitted (r : Except RuntimeError FinalizeResult) : Prop := r ≠ .ok .committed

omit [Externals] in
theorem notCommitted_error (e : RuntimeError) : NotCommitted (.error e) := by
  simp [NotCommitted]

theorem insertTerminalProjection_aborts {event : TaskEvent} {projection : Projection}
    {room : String} {thread reply : Option String} {monitor_generation : Option Nat}
    {render_version body : String} {now : DateTime} :
    Tx.Aborts NotCommitted (insertTerminalProjection event projection room thread reply
      monitor_generation render_version body now) := by
  have hset : ∀ set_id, Tx.Aborts NotCommitted
      (insertOutputSet set_id event room thread reply render_version now) := by
    intro set_id
    refine Tx.aborts_bind (Tx.aborts_read _) fun db => ?_
    split
    · exact Tx.aborts_pure _
    · exact Tx.aborts_ite (Tx.aborts_pure _) (Tx.aborts_bind
        (Tx.aborts_insert (notCommitted_error _)) fun _ => Tx.aborts_pure _)
  refine Tx.aborts_ite ?_ ?_
  · refine Tx.aborts_bind (Tx.aborts_read _) fun existing => ?_
    split
    · refine Tx.aborts_bind (Tx.aborts_require (notCommitted_error _)) fun _ => ?_
      exact Tx.aborts_ite (Tx.aborts_bind (Tx.aborts_update _ _ _ _) fun _ =>
        Tx.aborts_require (notCommitted_error _)) (Tx.aborts_pure _)
    · refine Tx.aborts_bind (hset _) fun _ => ?_
      exact Tx.aborts_ite (Tx.aborts_pure _) (Tx.aborts_bind (Tx.aborts_read _) fun _ =>
        Tx.aborts_require (notCommitted_error _))
  · refine Tx.aborts_bind (Tx.aborts_read _) fun _ => ?_
    exact Tx.aborts_bind (Tx.aborts_require (notCommitted_error _)) fun _ =>
      Tx.aborts_insert (notCommitted_error _)

theorem insertReply_aborts {event : TaskEvent} {admission : AdmissionRow} {now : DateTime} :
    Tx.Aborts NotCommitted (insertReply event admission now) := by
  unfold insertReply
  split
  · exact Tx.aborts_pure _
  · exact Tx.aborts_bind (Tx.aborts_orElse (notCommitted_error _)) fun _ =>
      insertTerminalProjection_aborts

theorem insertMonitorLine_aborts {event : TaskEvent} {admission : AdmissionRow}
    {task : TaskRow} {now : DateTime} :
    Tx.Aborts NotCommitted (insertMonitorLine event admission task now) := by
  unfold insertMonitorLine
  split
  · exact Tx.aborts_pure _
  · exact insertTerminalProjection_aborts

theorem insertTerminalReceipt_aborts {lease : Lease} {revision : Nat} {event : TaskEvent}
    {now : DateTime} : Tx.Aborts NotCommitted (insertTerminalReceipt lease revision event now) := by
  refine Tx.aborts_bind (Tx.aborts_read _) fun row => ?_
  refine Tx.aborts_bind ?_ fun _ => ?_
  · cases row with
    | none => exact Tx.aborts_pure _
    | some row => exact Tx.aborts_insertOrIgnore _ _
  · exact Tx.aborts_bind (Tx.aborts_read _) fun _ =>
      Tx.aborts_require (by simp [NotCommitted])

omit [Externals] in
theorem finalizeEnvelope_aborts {seen : Db} {lease : Lease} {generation : String}
    {event : TaskEvent} :
    Tx.Aborts NotCommitted (finalizeEnvelope seen lease generation event) := by
  refine Tx.aborts_bind (Tx.aborts_require (by simp [NotCommitted])) fun _ => ?_
  refine Tx.aborts_bind (Tx.aborts_read _) fun _ => ?_
  refine Tx.aborts_bind (Tx.aborts_orElse (notCommitted_error _)) fun _ => ?_
  refine Tx.aborts_bind (Tx.aborts_read _) fun _ => ?_
  exact Tx.aborts_bind (Tx.aborts_orElse (notCommitted_error _)) fun _ => Tx.aborts_pure _

theorem finalizeContinuation_aborts {lease : Lease} {revision : Nat} {generation : String}
    {state : ContinuationState} {observed_bytes : Nat} {now : DateTime} :
    Tx.Aborts NotCommitted
      (finalizeContinuation lease revision generation state observed_bytes now) := by
  refine Tx.aborts_bind (Tx.aborts_orElse (notCommitted_error _)) fun _ => ?_
  refine Tx.aborts_bind (Tx.aborts_orElse (notCommitted_error _)) fun _ => ?_
  refine Tx.aborts_bind (Tx.aborts_orElse (notCommitted_error _)) fun _ => ?_
  refine Tx.aborts_bind updateTurn_aborts fun _ => ?_
  exact Tx.aborts_bind (Tx.aborts_require (by simp [NotCommitted])) fun _ => Tx.aborts_pure _

omit [Externals] in
theorem finalizeVersion_aborts {event : TaskEvent} :
    Tx.Aborts NotCommitted (finalizeVersion event) := by
  refine Tx.aborts_bind (Tx.aborts_read _) fun _ => ?_
  refine Tx.aborts_bind (Tx.aborts_orElse (notCommitted_error _)) fun _ => ?_
  refine Tx.aborts_bind (Tx.aborts_require (by simp [NotCommitted])) fun _ => ?_
  refine Tx.aborts_bind (Tx.aborts_require (notCommitted_error _)) fun _ => ?_
  refine Tx.aborts_bind (Tx.aborts_orElse (notCommitted_error _)) fun _ => ?_
  refine Tx.aborts_bind (advanceVersion_aborts _ _) fun _ => ?_
  refine Tx.aborts_bind (Tx.aborts_require (by simp [NotCommitted])) fun _ => ?_
  exact Tx.aborts_require (notCommitted_error _)

omit [Externals] in
theorem closureFailure_notCommitted (e : ClosureError) : NotCommitted (closureFailure e) := by
  cases e <;> exact notCommitted_error _

/-- No early return of `finalize_terminal` reports `Committed`. -/
theorem finalizeTerminalTx_aborts {seen : Db} {lease : Lease} {revision : Nat}
    {generation : String} {state : ContinuationState} {observed_bytes : Nat}
    {event : TaskEvent} {now : DateTime} :
    Tx.Aborts NotCommitted
      (finalizeTerminalTx seen lease revision generation state observed_bytes event now) := by
  refine Tx.aborts_bind finalizeEnvelope_aborts fun _ => ?_
  refine Tx.aborts_bind finalizeContinuation_aborts fun _ => ?_
  refine Tx.aborts_bind insertTerminalReceipt_aborts fun _ => ?_
  refine Tx.aborts_bind finalizeVersion_aborts fun _ => ?_
  refine Tx.aborts_bind (applyClosure_aborts closureFailure_notCommitted) fun _ => ?_
  refine Tx.aborts_bind (endClaims_aborts _ _ _ _) fun _ => ?_
  refine Tx.aborts_bind insertReply_aborts fun _ => ?_
  exact Tx.aborts_bind insertMonitorLine_aborts fun _ => Tx.aborts_pure _

/-! ### What the whole call can do -/

/-- Everything a committed `finalize_terminal` wrote: the version and the log advance
together, the admission and the continuation end, the lease the caller owns is released and
its claims with it.  The receipt table, the deliveries and the projections may change; the
transport receipts and the runtime instances do not. -/
structure FinalizeStep (lease : Lease) (event : TaskEvent) (now : DateTime) (db db' : Db) :
    Prop where
  terminal : event.status.isTerminal = true
  same_task : event.task_id = lease.task_id
  last : db.maxSeq event.task_id = some (event.seq - 1)
  seq_ge : 2 ≤ event.seq
  version : ∃ row, db.tasks.get event.task_id = some row ∧ row.version = event.seq - 2 ∧
    db.tasks.Puts event.task_id { row with version := event.seq - 2 + 1 } db'.tasks
  appended : db.taskEvents.insert (eventToRow event event.seq event.status) =
    some db'.taskEvents
  admission : ∃ a, db.taskAdmissions.get event.task_id = some a ∧ a.state.closable ∧
    db.taskAdmissions.Puts event.task_id
      { a with state := .terminal, revision := a.revision + 1, updated_at := ts now }
      db'.taskAdmissions
  lease_ended : ∃ l, db.executionLeases.get lease.resource = some l ∧
    l.task_id = lease.task_id ∧ lease.Owns l ∧
    db.executionLeases.Puts lease.resource
      { l with state := .released, heartbeat_at := ts now, expires_at := ts now }
      db'.executionLeases
  claims_ended : ∀ c : ClaimRow, c.state = .active →
    (c ∈ db'.workspaceClaims.rows ↔ c ∈ db.workspaceClaims.rows ∧ ¬ lease.Holds c)
  transportReceipts : db'.transportReceipts = db.transportReceipts
  runtimeInstances : db'.runtimeInstances = db.runtimeInstances

/-- The rest of what a committed `finalize_terminal` wrote: the turn and its receipt, the
disposition of the delivery, and what is queued for the rooms of the task. -/
structure Finalized (lease : Lease) (revision : Nat) (state : ContinuationState)
    (observed_bytes : Nat) (event : TaskEvent) (now : DateTime) (db db' : Db) : Prop
    extends FinalizeStep lease event now db db' where
  continuation : ∃ c, db.taskContinuations.get lease.task_id = some c ∧ c.revision = revision ∧
    c.state = .inFlight ∧
    db.taskContinuations.Puts lease.task_id (lastTurn state observed_bytes now c)
      db'.taskContinuations
  receipt : ∃ receipt, db'.continuationResponseReceipts.get
      ⟨lease.task_id, event.id.uuid, lease.fence, revision⟩ = some receipt ∧
    receipt.response_hash = terminalHash event
  disposition : ∀ d ∈ db'.deliveryDispositions.rows,
    some d.delivery_id = db'.boundDelivery event.task_id → d.task_id = event.task_id →
    d.state = .terminal
  rooms : ∃ a task, db.taskAdmissions.get event.task_id = some a ∧
    db.tasks.get event.task_id = some task ∧
    (∀ room, a.reply_room = some room → ∃ body, terminalReplyBody event.payload = some body) ∧
    replySets event a now db.acpOutputSets db'.acpOutputSets ∧
    ∃ outbox, Queues (replyRow event a now) db.projectionOutbox outbox ∧
      Queues (observerRow event a task now) outbox db'.projectionOutbox
  frame : db' = { db with
    tasks := db'.tasks, taskEvents := db'.taskEvents, taskAdmissions := db'.taskAdmissions,
    executionLeases := db'.executionLeases, deliveries := db'.deliveries,
    deliveryDispositions := db'.deliveryDispositions,
    taskContinuations := db'.taskContinuations,
    continuationResponseReceipts := db'.continuationResponseReceipts,
    workspaceClaims := db'.workspaceClaims, projectionOutbox := db'.projectionOutbox,
    acpOutputSets := db'.acpOutputSets }

/-- `finalize_terminal` either leaves the store as it was or writes all of it. -/
theorem finalizeTerminal_finalized {seen : Db} {lease : Lease} {revision : Nat}
    {generation : String} {state : ContinuationState} {observed_bytes : Nat}
    {event : TaskEvent} {now : DateTime} {db db' : Db} {r : Except RuntimeError FinalizeResult}
    (h : finalizeTerminal seen lease revision generation state observed_bytes event now db =
      (r, db')) :
    (db' = db ∧ r ≠ .ok .committed) ∨
      (r = .ok .committed ∧ Finalized lease revision state observed_bytes event now db db') := by
  rcases Tx.commit_cases h with hok | ⟨hdb, early, herr, hr⟩
  · simp only [finalizeTerminalTx, Tx.bind_ok, Tx.pure_ok] at hok
    obtain ⟨envelope, s₁, henv, fence, s₂, hcont, _, s₃, hrec, hmore⟩ := hok
    obtain ⟨_, s₄, hver, _, s₅, hclose, _, s₆, hclaims, hmore⟩ := hmore
    obtain ⟨_, s₇, hreply, _, s₈, hmon, hr, hdb⟩ := hmore
    obtain ⟨rfl, hadmission, htask⟩ := finalizeEnvelope_ok henv
    obtain ⟨rfl, ⟨l₀, hl₀, htask₀, hown₀⟩, c, rfl, hturn⟩ := finalizeContinuation_ok hcont
    obtain ⟨rc, rfl, hreceipt⟩ := insertTerminalReceipt_ok hrec
    obtain ⟨hlast, hge, row, tt, rfl, hrow, hrv, htput⟩ := finalizeVersion_ok hver
    obtain ⟨ev, a, ad, l, ls, d, e, rfl, hterm, -, hins, ha, hcl, haput, hl, hltask, hlown,
      hlput, hclosed⟩ := applyClosure_live_ok hclose
    obtain ⟨wc, rfl, hwc⟩ := endClaims_ok hclaims
    obtain ⟨o₁, t₁, rfl, hrow₁, hsets⟩ := (insertReply_ok hreply).tables
    obtain ⟨o₂, t₂, rfl, hrow₂, rfl⟩ := (insertMonitorLine_ok hmon).tables
    subst hdb
    -- the lease row names both the task of the lease and the task of the event
    have hsame : l = l₀ := Option.some.inj (hl.symm.trans hl₀)
    subst hsame
    exact Or.inr ⟨hr.symm,
      { terminal := hterm
        same_task := hltask.symm.trans htask₀
        last := hlast
        seq_ge := hge
        version := ⟨row, hrow, hrv, htput⟩
        appended := hins
        admission := ⟨a, ha, hcl, haput⟩
        lease_ended := ⟨l, hl, htask₀, hlown, hlput⟩
        claims_ended := hwc
        transportReceipts := rfl
        runtimeInstances := rfl
        continuation := hturn
        receipt := hreceipt
        disposition := hclosed
        rooms := ⟨envelope.1, envelope.2, hadmission, htask,
          fun room hroom => insertReply_body hroom hreply, hsets, o₁, hrow₁, hrow₂⟩
        frame := rfl }⟩
  · refine Or.inl ⟨hdb, hr ▸ ?_⟩
    exact finalizeTerminalTx_aborts db early herr

/-- `finalize_terminal` either leaves the store as it was or commits a `FinalizeStep`. -/
theorem finalizeTerminal_cases {seen : Db} {lease : Lease} {revision : Nat}
    {generation : String} {state : ContinuationState} {observed_bytes : Nat}
    {event : TaskEvent} {now : DateTime} {db db' : Db} {r : Except RuntimeError FinalizeResult}
    (h : finalizeTerminal seen lease revision generation state observed_bytes event now db =
      (r, db')) :
    (db' = db ∧ r ≠ .ok .committed) ∨
      (r = .ok .committed ∧ FinalizeStep lease event now db db') := by
  rcases finalizeTerminal_finalized h with hsame | ⟨hr, hfinalized⟩
  · exact Or.inl hsame
  · exact Or.inr ⟨hr, hfinalized.toFinalizeStep⟩

end

end GuiguBridge
