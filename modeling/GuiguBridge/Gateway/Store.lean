import GuiguBridge.Gateway.Envelope
import GuiguBridge.Lib.Totals

/-!
# The gateway store

Envelopes, their deliveries and the tasks they bring (`GatewayStore` of
`src/src/gateway.rs`, tables of `src/migrations/0006_gateway_delivery.sql`).

* `admitTaskReady` — a request enters with its task, first event, admission and delivery in
  one transaction; **an envelope seen before is a replay when its four siblings are all
  there, and a collision when it says something else**;
* `reserveOutbound`, `beginOutboundAttempt`, `finishOutbound`, `transitionDelivery` — the
  delivery of what the bridge sends, each a compare-and-set on owner and revision;
* `enqueueReady`, `restoreReady` — the hand-over of a task to the worker;
* `claimCleanup`, `deleteCleanup`, `validateRetainedBytes` — retention;
* `admitTaskReady_cases`, `reserveOutbound_cases`, `updateDelivery_cases` — **everything each
  call can do**.
-/

namespace GuiguBridge

open Relational

/-- `sqlx::Error`, as the gateway raises and receives it. -/
inductive GatewayError where
  | protocol (message : String)
  | sql (source : StorageError)
  | decode
  deriving DecidableEq

inductive TaskWinner where
  | inserted (task_id : TaskId)
  | replay (task_id : TaskId)
  deriving DecidableEq

/-- A cast of an unsigned value to `i64`. -/
def asI64 (v : UInt64) : Int := if v.toNat < 2 ^ 63 then v.toNat else v.toNat - 2 ^ 64

/-! ### Constraints of the tables -/

/-- The `CHECK`s of an envelope row; the column sizes are those of the stored bytes. -/
def GatewayEnvelopeRow.check (r : GatewayEnvelopeRow) : Bool :=
  decide (0 ≤ r.route_generation ∧ r.canonical_json.utf8ByteSize ≤ 524288 ∧
    sqlLength r.payload_sha256 = 64)

/-- `gateway_envelopes_idem`. -/
def GatewayEnvelopeRow.idem (r : GatewayEnvelopeRow) : String × String × Direction × String :=
  (r.peer_id, r.sender_user_id, r.direction, r.idempotency_key)

/-- The phases in which an outbound delivery has an event. -/
def DeliveryPhase.hasEvent : DeliveryPhase → Bool
  | .transportAcked | .taskAccepted | .terminal | .stale => true
  | .pending | .sendUnknown | .recoveryNeeded => false

/-- The `CHECK`s of a delivery row. -/
def GatewayDeliveryRow.check (r : GatewayDeliveryRow) : Bool :=
  decide (r.attempt ≤ 2) &&
  (match r.direction with
    | .inbound => r.txn_id.isNone && r.event_id.isSome
    | .outbound => r.txn_id.isSome && (r.event_id.isSome == r.phase.hasEvent))

/-- No row of the table has the key or the idempotency tuple of `row`. -/
def Db.envelopeFree (db : Db) (row : GatewayEnvelopeRow) : Bool :=
  db.gatewayEnvelopes.rows.all fun r =>
    decide (r.envelope_id ≠ row.envelope_id ∧ r.idem ≠ row.idem)

/-- `SELECT COALESCE(SUM(retained_bytes),0) FROM gateway_envelopes`. -/
def Db.retainedBytes (db : Db) : Nat :=
  db.gatewayEnvelopes.total GatewayEnvelopeRow.retained_bytes

/-- `INSERT INTO gateway_envelopes`. -/
def insertEnvelope {ρ : Type} (row : GatewayEnvelopeRow) (refused : ρ) : Tx Db ρ Unit := do
  let free ← Tx.read fun db => db.envelopeFree row
  Tx.require (free && row.check) refused
  Tx.insert Db.gatewayEnvelopesL row refused

/-- `INSERT INTO gateway_deliveries`. -/
def insertGatewayDelivery {ρ : Type} (row : GatewayDeliveryRow) (refused : ρ) :
    Tx Db ρ Unit := do
  Tx.require row.check refused
  Tx.insert Db.gatewayDeliveriesL row refused

section

variable [Externals]

/-! ### Admission of a request -/

namespace GatewayEnvelope

/-- `envelope.correlation_id`, which is the identity of the task. -/
def taskId (envelope : GatewayEnvelope) : TaskId := ⟨envelope.correlation_id⟩

/-- The envelope's own identity is that of the first event. -/
def eventId (envelope : GatewayEnvelope) : EventId := ⟨envelope.envelope_id⟩

/-- The text of the task: the payload, or nothing when the request carries an artifact. -/
def text (envelope : GatewayEnvelope) : String :=
  match envelope.payload with
  | some bytes => fromUtf8Lossy bytes
  | none => ""

/-- The task of a request.  **Its deadline is the text the peer sent.** -/
def taskRow (envelope : GatewayEnvelope) (conversation_id : ConversationId) : TaskRow :=
  { task_id := envelope.taskId, root_task_id := envelope.taskId, parent_task_id := none,
    from_agent := envelope.sender.endpoint_id, to_agent := envelope.recipient.endpoint_id,
    conversation_id := conversation_id, reply_to := none, text := envelope.text, priority := 5,
    depth := 0, hops := 0, deadline := envelope.deadline, version := 0 }

def queuedRow (envelope : GatewayEnvelope) (now : String) : EventRow :=
  { event_id := envelope.eventId, task_id := envelope.taskId, seq := 1, status := .queued,
    timestamp := now, payload := payloadText .queued }

/-- The admission of a request: ready, and owned by the runtime that took it. -/
def readyAdmission (envelope : GatewayEnvelope) (now runtime_instance : String) : AdmissionRow :=
  { task_id := envelope.taskId, state := .ready, revision := 0,
    runtime_instance := some runtime_instance, reply_room := none, reply_thread_root := none,
    reply_event_id := none, monitor_room := none, monitor_generation := none,
    render_version := none, created_at := now, updated_at := now }

/-- The columns that inbound and outbound envelopes share. -/
def row (envelope : GatewayEnvelope) (direction : Direction) (sender_user : String)
    (created_at : String) (generation : UInt64) : GatewayEnvelopeRow :=
  { envelope_id := envelope.envelope_id, version := envelope.version, direction := direction,
    peer_id := envelope.peer_id, sender_user_id := sender_user,
    idempotency_key := envelope.idempotency_key,
    sender_endpoint := envelope.sender.endpoint_id,
    recipient_endpoint := envelope.recipient.endpoint_id,
    conversation_id := envelope.conversation_id, correlation_id := envelope.correlation_id,
    internal_task_id := none, kind := envelope.kind.name, canonical_json := envelope.canonical,
    payload_sha256 := envelope.payload_sha256, created_at := created_at, deadline := none,
    route_generation := asI64 generation, state := .received, owner_runtime := none,
    cleanup_owner := none, cleanup_revision := 0, cleanup_claimed_at := none,
    terminal_at := none, retained_bytes := envelope.encodedLen }

def inboundRow (envelope : GatewayEnvelope) (sender_user now : String) (generation : UInt64) :
    GatewayEnvelopeRow :=
  { envelope.row .inbound sender_user now generation with
    internal_task_id := some envelope.taskId }

def inboundDelivery (envelope : GatewayEnvelope) (event_id room_id : String)
    (thread_root : Option String) : GatewayDeliveryRow :=
  { envelope_id := envelope.envelope_id, direction := .inbound, transport := "matrix",
    phase := .transportAcked, attempt := 0, txn_id := none, event_id := some event_id,
    room_id := room_id, thread_root := thread_root, owner_runtime := none, owner_revision := 0 }

def outboundRow (envelope : GatewayEnvelope) (generation : UInt64) (owner : String) :
    GatewayEnvelopeRow :=
  { envelope.row .outbound envelope.sender.peer_id envelope.created_at generation with
    deadline := envelope.deadline, owner_runtime := some owner }

def outboundDelivery (envelope : GatewayEnvelope) (room_id : String)
    (thread_root : Option String) (txn_id owner : String) : GatewayDeliveryRow :=
  { envelope_id := envelope.envelope_id, direction := .outbound, transport := "matrix",
    phase := .pending, attempt := 0, txn_id := some txn_id, event_id := none,
    room_id := room_id, thread_root := thread_root, owner_runtime := some owner,
    owner_revision := 0 }

end GatewayEnvelope

/-- The envelope that an idempotency key already names. -/
def Db.inboundWinner (db : Db) (peer_id sender_user idempotency_key : String) :
    Option GatewayEnvelopeRow :=
  db.gatewayEnvelopes.rows.find? fun r =>
    decide (r.idem = (peer_id, sender_user, .inbound, idempotency_key))

/-- The four rows that stand beside an admitted envelope, counted. -/
def Db.siblings (db : Db) (envelope : GatewayEnvelope) (runtime_instance : String) :
    Nat × Nat × Nat × Nat :=
  (db.gatewayDeliveries.rows.countP fun d => decide (d.envelope_id = envelope.envelope_id ∧
      d.direction = .inbound ∧ d.event_id.isSome),
    db.tasks.rows.countP fun t => decide (t.task_id = envelope.taskId ∧
      t.root_task_id = envelope.taskId),
    db.taskEvents.rows.countP fun e => decide (e.task_id = envelope.taskId ∧ e.seq = 1 ∧
      e.status = .queued ∧ e.event_id = envelope.eventId),
    db.taskAdmissions.rows.countP fun a => decide (a.task_id = envelope.taskId ∧
      (a.state = .ready ∨ a.state = .enqueued) ∧ a.runtime_instance = some runtime_instance))

/-- The runtime is active; the update that asks writes the row back as it is. -/
def fenceRuntime (runtime_instance : String) :
    Tx Db (Except GatewayError TaskWinner) Unit := do
  let n ← Tx.update Db.runtimeInstancesL
    (fun r => decide (r.instance_token = runtime_instance ∧ r.state = .active)) (fun r => r)
  Tx.require (n = 1) (.error (.protocol "gateway runtime is not active"))

/-- The answer to an envelope whose idempotency key is known. -/
def replayEnvelope (envelope : GatewayEnvelope) (runtime_instance : String)
    (existing : GatewayEnvelopeRow) :
    Tx Db (Except GatewayError TaskWinner) (Except GatewayError TaskWinner) := do
  let task_id ← Tx.orElse existing.internal_task_id (.error .decode)
  Tx.require (task_id = envelope.taskId ∧ existing.payload_sha256 = envelope.payload_sha256)
    (.error (.protocol "gateway idempotency collision"))
  let siblings ← Tx.read fun db => db.siblings envelope runtime_instance
  Tx.require (siblings = (1, 1, 1, 1)) (.error (.protocol "gateway sibling corruption"))
  pure (.ok (.replay envelope.taskId))

/-- The rows of an envelope seen for the first time. -/
def insertRequest (envelope : GatewayEnvelope) (conversation_id : ConversationId)
    (now runtime_instance sender_user event_id room_id : String) (thread_root : Option String)
    (generation : UInt64) :
    Tx Db (Except GatewayError TaskWinner) (Except GatewayError TaskWinner) := do
  Tx.insert Db.tasksL (envelope.taskRow conversation_id) (.error (.sql .constraint))
  insertEvent (envelope.queuedRow now) (.error (.sql .constraint))
  Tx.insert Db.taskAdmissionsL (envelope.readyAdmission now runtime_instance)
    (.error (.sql .constraint))
  let retained ← Tx.read Db.retainedBytes
  Tx.require (retained + envelope.encodedLen < retainedBytesHigh)
    (.error (.protocol "gateway storage pressure"))
  insertEnvelope (envelope.inboundRow sender_user now generation) (.error (.sql .constraint))
  insertGatewayDelivery (envelope.inboundDelivery event_id room_id thread_root)
    (.error (.sql .constraint))
  pure (.ok (.inserted envelope.taskId))

/-- `GatewayStore::admit_task_ready`. -/
def admitTaskReady (envelope : GatewayEnvelope) (conversation_id : ConversationId)
    (now runtime_instance sender_user event_id room_id : String) (thread_root : Option String)
    (generation : UInt64) (db : Db) : Except GatewayError TaskWinner × Db :=
  Tx.commit id (do
    fenceRuntime runtime_instance
    let existing ← Tx.read fun db =>
      db.inboundWinner envelope.peer_id sender_user envelope.idempotency_key
    match existing with
    | some existing => replayEnvelope envelope runtime_instance existing
    | none =>
      insertRequest envelope conversation_id now runtime_instance sender_user event_id room_id
        thread_root generation) db

/-! ### Outbound deliveries -/

/-- The delivery that an envelope reserved before must have. -/
def Db.reservedAs (db : Db) (envelope : GatewayEnvelope) (room_id txn_id : String) : Nat :=
  db.gatewayDeliveries.rows.countP fun d =>
    decide (d.envelope_id = envelope.envelope_id ∧ d.direction = .outbound ∧
      d.transport = "matrix" ∧ d.txn_id = some txn_id ∧ d.room_id = room_id) &&
    db.gatewayEnvelopes.rows.any fun e =>
      decide (e.envelope_id = envelope.envelope_id ∧ e.canonical_json = envelope.canonical)

/-- `GatewayStore::reserve_outbound`.  A row that a constraint refuses is ignored, and the
call then asks for the delivery of an earlier reservation. -/
def reserveOutbound (envelope : GatewayEnvelope) (room_id : String)
    (thread_root : Option String) (txn_id : String) (generation : UInt64) (owner : String)
    (db : Db) : Except GatewayError Bool × Db :=
  Tx.commit id (do
    let free ← Tx.read fun db => db.envelopeFree (envelope.outboundRow generation owner)
    if free && (envelope.outboundRow generation owner).check then do
      Tx.insert Db.gatewayEnvelopesL (envelope.outboundRow generation owner)
        (.error (.sql .constraint))
      insertGatewayDelivery (envelope.outboundDelivery room_id thread_root txn_id owner)
        (.error (.sql .constraint))
      pure (.ok true)
    else do
      let valid ← Tx.read fun db => db.reservedAs envelope room_id txn_id
      Tx.require (valid = 1) (.error (.protocol "gateway outbound collision"))
      pure (.ok false)) db

end

/-- `GatewayStore::outbound_state`. -/
def outboundState (envelope_id : Uuid) (owner : String) (db : Db) :
    Option (DeliveryPhase × Nat × Nat) :=
  (db.gatewayDeliveries.rows.find? fun d =>
    decide (d.envelope_id = envelope_id ∧ d.direction = .outbound ∧
      d.owner_runtime = some owner)).map fun d => (d.phase, d.attempt, d.owner_revision)

/-- One compare-and-set on deliveries; a row that fails its `CHECK` is an error. -/
def updateDelivery (p : GatewayDeliveryRow → Bool) (f : GatewayDeliveryRow → GatewayDeliveryRow)
    (check : GatewayDeliveryRow → Bool) (hf : ∀ d, (f d).key = d.key) (db : Db) :
    Except GatewayError Bool × Db :=
  Tx.commit id (do
    let n ← Tx.updateChecked Db.gatewayDeliveriesL p f check (.error (.sql .constraint)) hf
    pure (.ok (decide (n = 1)))) db

/-- The delivery of `owner` at `revision`. -/
def GatewayDeliveryRow.ownedAt (envelope_id : Uuid) (owner : String) (revision : Nat)
    (d : GatewayDeliveryRow) : Bool :=
  decide (d.envelope_id = envelope_id ∧ d.owner_runtime = some owner ∧
    d.owner_revision = revision)

/-- The row with a new phase; a text that names no phase leaves it to the `CHECK`. -/
def GatewayDeliveryRow.setPhase (phase : String) (d : GatewayDeliveryRow) : GatewayDeliveryRow :=
  { d with phase := (DeliveryPhase.ofColumn phase).getD d.phase,
           owner_revision := d.owner_revision + 1 }

/-- The `CHECK`s of a row that got the phase of this text. -/
def GatewayDeliveryRow.checkPhase (phase : String) (d : GatewayDeliveryRow) : Bool :=
  (DeliveryPhase.ofColumn phase).isSome && d.check

/-- `GatewayStore::transition_delivery`.  It does not ask `can_transition`, and the column
does not know every spelling that `Debug` gives. -/
def transitionDelivery (envelope_id : Uuid) (phase : DeliveryPhase) (owner : String)
    (revision : Nat) : Db → Except GatewayError Bool × Db :=
  updateDelivery (GatewayDeliveryRow.ownedAt envelope_id owner revision)
    (GatewayDeliveryRow.setPhase phase.debugLower)
    (GatewayDeliveryRow.checkPhase phase.debugLower) (fun _ => rfl)

/-- `GatewayStore::begin_outbound_attempt`. -/
def beginOutboundAttempt (envelope_id : Uuid) (owner : String) (revision : Nat)
    (expected_phase : String) : Db → Except GatewayError Bool × Db :=
  updateDelivery
    (fun d => d.ownedAt envelope_id owner revision &&
      decide (d.direction = .outbound ∧ d.phase.column = expected_phase ∧ d.attempt < 2))
    (fun d => { d with attempt := d.attempt + 1, owner_revision := d.owner_revision + 1 })
    GatewayDeliveryRow.check (fun _ => rfl)

/-- `GatewayStore::finish_outbound`. -/
def finishOutbound (envelope_id : Uuid) (owner : String) (revision : Nat) (phase : String)
    (event_id : Option String) : Db → Except GatewayError Bool × Db :=
  updateDelivery
    (fun d => d.ownedAt envelope_id owner revision && decide (d.direction = .outbound))
    (fun d => { d.setPhase phase with event_id := event_id <|> d.event_id })
    (GatewayDeliveryRow.checkPhase phase) (fun _ => rfl)

/-! ### Hand-over to the worker -/

/-- `GatewayStore::enqueue_ready`. -/
def enqueueReady (task_id : TaskId) (runtime : String) (revision : Nat) (now : String) :
    Db → Bool × Db :=
  updateAdmission
    (fun a => decide (a.task_id = task_id ∧ a.state = .ready ∧
      a.runtime_instance = some runtime ∧ a.revision = revision))
    (fun a => { a with state := .enqueued, revision := a.revision + 1, updated_at := now })
    (fun _ => rfl)

/-- `GatewayStore::restore_ready`. -/
def restoreReady (task_id : TaskId) (runtime : String) (revision : Nat) (now : String) :
    Db → Bool × Db :=
  updateAdmission
    (fun a => decide (a.task_id = task_id ∧ a.state = .enqueued ∧
      a.runtime_instance = some runtime ∧ a.revision = revision))
    (fun a => { a with state := .ready, revision := a.revision + 1, updated_at := now })
    (AdmissionRow.ready_key now)

/-! ### Retention -/

section

variable [Externals]

/-- `a <= b` of two columns; a comparison with `NULL` does not hold. -/
def notLater (a b : Option String) : Bool :=
  match a, b with
  | some a, some b => decide (a ≤ b)
  | _, _ => false

/-- The envelope ended, and its retention of seven days is over. -/
def GatewayEnvelopeRow.retentionOver (now : String) (r : GatewayEnvelopeRow) : Bool :=
  decide (r.state = .terminal ∨ r.state = .stale) &&
    notLater r.terminal_at (Externals.sqliteDatetime now "-7 days")

/-- The envelope is not claimed, claimed by `owner`, or its claim is old and its owner
stopped. -/
def GatewayEnvelopeRow.cleanupFree (owner now : String) (db : Db) (r : GatewayEnvelopeRow) :
    Bool :=
  decide (r.cleanup_owner = none ∨ r.cleanup_owner = some owner) ||
    (notLater r.cleanup_claimed_at (Externals.sqliteDatetime now "-900 seconds") &&
      db.stoppedInstance r.cleanup_owner)

/-- The envelope under a claim of `owner`. -/
def GatewayEnvelopeRow.claimedBy (owner now : String) (r : GatewayEnvelopeRow) :
    GatewayEnvelopeRow :=
  { r with cleanup_owner := some owner, cleanup_revision := r.cleanup_revision + 1,
           cleanup_claimed_at := some now }

/-- `GatewayStore::claim_cleanup`; `picked` are the rows that the `LIMIT` keeps. -/
def claimCleanup (owner now : String) (picked : Uuid → Bool) (db : Db) : Nat × Db :=
  let p := fun r : GatewayEnvelopeRow =>
    r.retentionOver now && r.cleanupFree owner now db && picked r.envelope_id
  (db.gatewayEnvelopes.affected p,
    { db with gatewayEnvelopes :=
        db.gatewayEnvelopes.updateWhere p (GatewayEnvelopeRow.claimedBy owner now) })

/-- The envelope that a claim may delete: ended long ago, no delivery under way, and its task,
if it brought one, finished. -/
def GatewayEnvelopeRow.deletable (owner : String) (revision : Nat) (now : String) (db : Db)
    (r : GatewayEnvelopeRow) : Bool :=
  decide (r.cleanup_owner = some owner ∧ r.cleanup_revision = revision) &&
    r.retentionOver now &&
    (db.gatewayDeliveries.rows.all fun d => decide (d.envelope_id = r.envelope_id →
      d.phase = .terminal ∨ d.phase = .stale ∨ d.phase = .recoveryNeeded)) &&
    (match r.internal_task_id with
      | none => true
      | some task_id => (db.lastStatus task_id).any (·.isTerminal))

/-- `GatewayStore::delete_cleanup`; deliveries and artifacts go with their envelope. -/
def deleteCleanup (envelope_id : Uuid) (owner : String) (revision : Nat) (now : String)
    (db : Db) : Bool × Db :=
  match db.gatewayEnvelopes.get envelope_id with
  | none => (false, db)
  | some r =>
    if r.deletable owner revision now db then
      (true, { db with
        gatewayEnvelopes := db.gatewayEnvelopes.deleteWhere fun r =>
          decide (r.envelope_id = envelope_id)
        gatewayDeliveries := db.gatewayDeliveries.deleteWhere fun d =>
          decide (d.envelope_id = envelope_id)
        gatewayArtifacts := db.gatewayArtifacts.deleteWhere fun a =>
          decide (a.envelope_id = envelope_id) })
    else (false, db)

end

/-- The size that an envelope row should state. -/
def Db.retainedBy (db : Db) (r : GatewayEnvelopeRow) : Nat :=
  r.canonical_json.utf8ByteSize +
    ((db.gatewayArtifacts.rows.filter (·.envelope_id = r.envelope_id)).map (·.byte_len)).sum

/-- `GatewayStore::validate_retained_bytes`. -/
def validateRetainedBytes (db : Db) : Bool :=
  db.gatewayEnvelopes.rows.all (fun r => decide (r.retained_bytes = db.retainedBy r)) &&
    decide (db.retainedBytes < retainedBytesHigh)

/-! ### What the calls do -/

/-- A body that writes a row back as it is changes nothing. -/
theorem fenceRuntime_ok {runtime_instance : String} {s s' : Db} {u : Unit}
    (h : fenceRuntime runtime_instance s = .ok (u, s')) :
    s' = s ∧ ∃ r, s.runtimeInstances.get runtime_instance = some r ∧ r.state = .active := by
  simp only [fenceRuntime, Tx.bind_ok, Tx.require_ok] at h
  obtain ⟨n, s₁, hupd, hn, rfl⟩ := h
  obtain ⟨haff, rfl⟩ := Tx.update_ok.1 hupd
  obtain ⟨r, hr, hp⟩ := (Table.affected_eq_one_iff fun r hp => (of_decide_eq_true hp).1).mp
    (haff.trans (of_decide_eq_true hn))
  refine ⟨?_, r, hr, (of_decide_eq_true hp).2⟩
  have hsame : s.runtimeInstances.updateWhere
      (fun r => decide (r.instance_token = runtime_instance ∧ r.state = .active))
      (fun r => r) = s.runtimeInstances := by
    apply Table.ext_rows
    simp [Table.updateWhere]
  show { s with runtimeInstances := _ } = s
  rw [hsame]

theorem insertEnvelope_ok {ρ : Type} {row : GatewayEnvelopeRow} {refused : ρ} {s s' : Db}
    {u : Unit} (h : insertEnvelope row refused s = .ok (u, s')) :
    ∃ t, s' = { s with gatewayEnvelopes := t } ∧ s.gatewayEnvelopes.insert row = some t ∧
      s.envelopeFree row = true ∧ row.check = true := by
  simp only [insertEnvelope, Tx.bind_ok, Tx.read_ok, Tx.require_ok, Tx.insert_ok,
    Bool.and_eq_true] at h
  obtain ⟨_, _, ⟨rfl, rfl⟩, _, _, ⟨⟨hfree, hcheck⟩, rfl⟩, t, hins, rfl⟩ := h
  exact ⟨t, rfl, hins, hfree, hcheck⟩

theorem insertGatewayDelivery_ok {ρ : Type} {row : GatewayDeliveryRow} {refused : ρ} {s s' : Db}
    {u : Unit} (h : insertGatewayDelivery row refused s = .ok (u, s')) :
    ∃ t, s' = { s with gatewayDeliveries := t } ∧ s.gatewayDeliveries.insert row = some t ∧
      row.check = true := by
  simp only [insertGatewayDelivery, Tx.bind_ok, Tx.require_ok, Tx.insert_ok] at h
  obtain ⟨_, _, ⟨hcheck, rfl⟩, t, hins, rfl⟩ := h
  exact ⟨t, rfl, hins, hcheck⟩

section

variable [Externals]

/-- Everything the admission of a request wrote. -/
structure RequestStep (envelope : GatewayEnvelope) (conversation_id : ConversationId)
    (now runtime_instance sender_user event_id room_id : String) (thread_root : Option String)
    (generation : UInt64) (db db' : Db) : Prop where
  active : ∃ r, db.runtimeInstances.get runtime_instance = some r ∧ r.state = .active
  unseen : db.inboundWinner envelope.peer_id sender_user envelope.idempotency_key = none
  admitted : Admitted (envelope.taskRow conversation_id) (envelope.queuedRow now)
    (envelope.readyAdmission now runtime_instance) db db'
  budget : db.retainedBytes + envelope.encodedLen < retainedBytesHigh
  free : db.envelopeFree (envelope.inboundRow sender_user now generation) = true
  check : (envelope.inboundRow sender_user now generation).check = true
  stored : db.gatewayEnvelopes.insert (envelope.inboundRow sender_user now generation) =
    some db'.gatewayEnvelopes
  delivery : db.gatewayDeliveries.insert
    (envelope.inboundDelivery event_id room_id thread_root) = some db'.gatewayDeliveries
  frame : db' = { db with tasks := db'.tasks, taskEvents := db'.taskEvents,
                          taskAdmissions := db'.taskAdmissions,
                          gatewayEnvelopes := db'.gatewayEnvelopes,
                          gatewayDeliveries := db'.gatewayDeliveries }

omit [Externals] in
theorem replayEnvelope_ok {envelope : GatewayEnvelope} {runtime_instance : String}
    {existing : GatewayEnvelopeRow} {s s' : Db} {r : Except GatewayError TaskWinner}
    (h : replayEnvelope envelope runtime_instance existing s = .ok (r, s')) :
    s' = s ∧ r = .ok (.replay envelope.taskId) ∧
      existing.internal_task_id = some envelope.taskId ∧
      existing.payload_sha256 = envelope.payload_sha256 ∧
      s.siblings envelope runtime_instance = (1, 1, 1, 1) := by
  simp only [replayEnvelope, Tx.bind_ok, Tx.orElse_ok, Tx.require_ok, Tx.read_ok,
    Tx.pure_ok, decide_eq_true_eq] at h
  obtain ⟨t, _, ⟨htask, rfl⟩, _, _, ⟨⟨rfl, hhash⟩, rfl⟩, _, _, ⟨rfl, rfl⟩, _, _, ⟨hsib, rfl⟩, hr,
    rfl⟩ := h
  exact ⟨rfl, hr.symm, htask, hhash, hsib⟩

/-- What `admit_task_ready` returns early is an error. -/
theorem admitTaskReady_aborts (envelope : GatewayEnvelope) (conversation_id : ConversationId)
    (now runtime_instance sender_user event_id room_id : String) (thread_root : Option String)
    (generation : UInt64) :
    Tx.Aborts (fun r => ∀ t, r ≠ .ok t) (do
      fenceRuntime runtime_instance
      let existing ← Tx.read fun db =>
        db.inboundWinner envelope.peer_id sender_user envelope.idempotency_key
      match existing with
      | some existing => replayEnvelope envelope runtime_instance existing
      | none =>
        insertRequest envelope conversation_id now runtime_instance sender_user event_id room_id
          thread_root generation) := by
  refine Tx.aborts_bind ?_ fun _ => Tx.aborts_bind (Tx.aborts_read _) fun existing => ?_
  · exact Tx.aborts_bind (Tx.aborts_update _ _ _ _) fun _ => Tx.aborts_require nofun
  cases existing with
  | some existing =>
    refine Tx.aborts_bind (Tx.aborts_orElse nofun) fun _ => ?_
    refine Tx.aborts_bind (Tx.aborts_require nofun) fun _ => ?_
    refine Tx.aborts_bind (Tx.aborts_read _) fun _ => ?_
    exact Tx.aborts_bind (Tx.aborts_require nofun) fun _ => Tx.aborts_pure _
  | none =>
    refine Tx.aborts_bind (Tx.aborts_insert nofun) fun _ => ?_
    refine Tx.aborts_bind ?_ fun _ => ?_
    · refine Tx.aborts_bind (Tx.aborts_require nofun) fun _ => ?_
      refine Tx.aborts_bind (Tx.aborts_read _) fun _ => ?_
      exact Tx.aborts_bind (Tx.aborts_require nofun) fun _ => Tx.aborts_insert nofun
    refine Tx.aborts_bind (Tx.aborts_insert nofun) fun _ => ?_
    refine Tx.aborts_bind (Tx.aborts_read _) fun _ => ?_
    refine Tx.aborts_bind (Tx.aborts_require nofun) fun _ => ?_
    refine Tx.aborts_bind ?_ fun _ => ?_
    · refine Tx.aborts_bind (Tx.aborts_read _) fun _ => ?_
      exact Tx.aborts_bind (Tx.aborts_require nofun) fun _ => Tx.aborts_insert nofun
    refine Tx.aborts_bind ?_ fun _ => Tx.aborts_pure _
    exact Tx.aborts_bind (Tx.aborts_require nofun) fun _ => Tx.aborts_insert nofun

/-- `admit_task_ready` either leaves the store as it was or admits the request. -/
theorem admitTaskReady_cases {envelope : GatewayEnvelope} {conversation_id : ConversationId}
    {now runtime_instance sender_user event_id room_id : String} {thread_root : Option String}
    {generation : UInt64} {db db' : Db} {r : Except GatewayError TaskWinner}
    (h : admitTaskReady envelope conversation_id now runtime_instance sender_user event_id
      room_id thread_root generation db = (r, db')) :
    (db' = db ∧ ∀ t, r ≠ .ok (.inserted t)) ∨
    (r = .ok (.inserted envelope.taskId) ∧
      RequestStep envelope conversation_id now runtime_instance sender_user event_id room_id
        thread_root generation db db') := by
  rcases Tx.commit_cases h with hok | ⟨hdb, e, he, rfl⟩
  · simp only [Tx.bind_ok, Tx.read_ok] at hok
    obtain ⟨_, s₁, hfence, existing, _, ⟨hex, rfl⟩, hok⟩ := hok
    obtain ⟨rfl, hactive⟩ := fenceRuntime_ok hfence
    cases existing with
    | some existing =>
      obtain ⟨hsame, rfl, -⟩ := replayEnvelope_ok hok
      exact Or.inl ⟨hsame, nofun⟩
    | none =>
      simp only [insertRequest, Tx.bind_ok, Tx.insert_ok, Tx.read_ok, Tx.require_ok,
        Tx.pure_ok] at hok
      obtain ⟨_, _, ⟨t, ht, rfl⟩, _, s₂, hev, _, _, ⟨ad, had, rfl⟩, hmore⟩ := hok
      obtain ⟨_, _, ⟨rfl, rfl⟩, _, _, ⟨hbudget, rfl⟩, _, s₃, henv, hmore⟩ := hmore
      obtain ⟨_, s₄, hdel, hr, rfl⟩ := hmore
      obtain ⟨ev, rfl, happended⟩ := insertEvent_ok hev
      obtain ⟨en, rfl, hstored, hfree, hcheck⟩ := insertEnvelope_ok henv
      obtain ⟨de, rfl, hdelivery, -⟩ := insertGatewayDelivery_ok hdel
      exact Or.inr ⟨hr.symm,
        { active := hactive
          unseen := hex
          admitted := ⟨ht, happended, had⟩
          budget := of_decide_eq_true hbudget
          free := hfree
          check := hcheck
          stored := hstored
          delivery := hdelivery
          frame := rfl }⟩
  · have hno := Tx.Aborts.of_error he (admitTaskReady_aborts envelope conversation_id now
      runtime_instance sender_user event_id room_id thread_root generation)
    exact Or.inl ⟨hdb, fun t => hno _⟩

/-- `reserve_outbound` either leaves the store as it was or reserves envelope and delivery. -/
theorem reserveOutbound_cases {envelope : GatewayEnvelope} {room_id : String}
    {thread_root : Option String} {txn_id : String} {generation : UInt64} {owner : String}
    {db db' : Db} {r : Except GatewayError Bool}
    (h : reserveOutbound envelope room_id thread_root txn_id generation owner db = (r, db')) :
    (db' = db ∧ r ≠ .ok true) ∨
    (r = .ok true ∧ db.envelopeFree (envelope.outboundRow generation owner) = true ∧
      (envelope.outboundRow generation owner).check = true ∧
      db.gatewayEnvelopes.insert (envelope.outboundRow generation owner) =
        some db'.gatewayEnvelopes ∧
      db.gatewayDeliveries.insert (envelope.outboundDelivery room_id thread_root txn_id owner) =
        some db'.gatewayDeliveries ∧
      db' = { db with gatewayEnvelopes := db'.gatewayEnvelopes,
                      gatewayDeliveries := db'.gatewayDeliveries }) := by
  rcases Tx.commit_cases h with hok | ⟨hdb, e, he, rfl⟩
  · simp only [Tx.bind_ok, Tx.read_ok, Tx.ite_ok, Tx.insert_ok, Tx.require_ok, Tx.pure_ok,
      Bool.and_eq_true] at hok
    obtain ⟨_, _, ⟨rfl, rfl⟩, ⟨⟨hfree, hcheck⟩, _, _, ⟨en, henv, rfl⟩, _, s₁, hdel, hr, rfl⟩ |
      ⟨-, _, _, ⟨-, rfl⟩, _, _, ⟨-, rfl⟩, rfl, rfl⟩⟩ := hok
    · obtain ⟨de, rfl, hdelivery, -⟩ := insertGatewayDelivery_ok hdel
      exact Or.inr ⟨hr.symm, hfree, hcheck, henv, hdelivery, rfl⟩
    · exact Or.inl ⟨rfl, by simp⟩
  · refine Or.inl ⟨hdb, ?_⟩
    -- no early return of the body reports a reservation
    refine Tx.Aborts.of_error (P := fun e => id e ≠ .ok true) he ?_
    refine Tx.aborts_bind (Tx.aborts_read _) fun _ => ?_
    refine Tx.aborts_ite ?_ ?_
    · refine Tx.aborts_bind (Tx.aborts_insert (by simp)) fun _ => ?_
      refine Tx.aborts_bind ?_ fun _ => Tx.aborts_pure _
      exact Tx.aborts_bind (Tx.aborts_require (by simp)) fun _ => Tx.aborts_insert (by simp)
    · refine Tx.aborts_bind (Tx.aborts_read _) fun _ => ?_
      exact Tx.aborts_bind (Tx.aborts_require (by simp)) fun _ => Tx.aborts_pure _

end

/-- A compare-and-set on deliveries either fails with the store as it was, or writes every row
it selects, each passing its check. -/
theorem updateDelivery_cases {p : GatewayDeliveryRow → Bool}
    {f : GatewayDeliveryRow → GatewayDeliveryRow} {check : GatewayDeliveryRow → Bool}
    {hf : ∀ d, (f d).key = d.key} {db db' : Db} {r : Except GatewayError Bool}
    (h : updateDelivery p f check hf db = (r, db')) :
    (r = .error (.sql .constraint) ∧ db' = db ∧
      ∃ d ∈ db.gatewayDeliveries.rows, p d = true ∧ check (f d) = false) ∨
    (r = .ok (decide (db.gatewayDeliveries.affected p = 1)) ∧
      db' = { db with gatewayDeliveries := db.gatewayDeliveries.updateWhere p f hf } ∧
      ∀ d ∈ db.gatewayDeliveries.rows, p d = true → check (f d) = true) := by
  simp only [updateDelivery, Tx.commit, Tx.bind_apply, Tx.updateChecked] at h
  by_cases hall : (db.gatewayDeliveries.rows.all fun d => !p d || check (f d)) = true
  · rw [if_pos hall] at h
    simp only [Tx.update_apply, Tx.pure_apply, Prod.mk.injEq] at h
    obtain ⟨rfl, rfl⟩ := h
    refine Or.inr ⟨rfl, rfl, ?_⟩
    intro d hd hp
    have hd' := List.all_eq_true.mp hall d hd
    simpa [hp] using hd'
  · rw [if_neg hall] at h
    obtain ⟨rfl, rfl⟩ := Prod.mk.inj h
    refine Or.inl ⟨rfl, rfl, ?_⟩
    simpa [List.all_eq_true] using hall

section

variable {p : GatewayDeliveryRow → Bool} {f : GatewayDeliveryRow → GatewayDeliveryRow}
  {check : GatewayDeliveryRow → Bool} {hf : ∀ d, (f d).key = d.key} {db : Db}
  {d : GatewayDeliveryRow}

/-- The statement selects no row but the one under the key of `d`. -/
theorem updateDelivery_selects (hd : db.gatewayDeliveries.get d.key = some d)
    (hkey : ∀ x ∈ db.gatewayDeliveries.rows, p x = true → x.key = d.key)
    {x : GatewayDeliveryRow} (hx : x ∈ db.gatewayDeliveries.rows) :
    p x = (decide (x.key = d.key) && p d) := by
  by_cases hk : x.key = d.key
  · have hxd : x = d :=
      db.gatewayDeliveries.eq_of_key_eq hx (Table.mem_of_get hd) hk
    rw [hxd]
    simp
  · have hpx : p x = false := by
      cases hpx : p x with
      | false => rfl
      | true => exact absurd (hkey x hx hpx) hk
    simp [hk, hpx]

/-- A statement that selects no row changes nothing. -/
theorem updateDelivery_none (hnone : ∀ x ∈ db.gatewayDeliveries.rows, p x = false) :
    updateDelivery p f check hf db = (.ok false, db) := by
  have hzero := (Table.affected_eq_zero_iff _ p).mpr hnone
  rcases updateDelivery_cases (Prod.mk.eta (p := updateDelivery p f check hf db)).symm with
    ⟨-, -, x, hx, hpx, -⟩ | ⟨hr, hdb, -⟩
  · rw [hnone x hx] at hpx
    cases hpx
  · rw [Table.updateWhere_of_affected_zero hf hzero] at hdb
    rw [hzero] at hr
    exact Prod.ext hr hdb

theorem updateDelivery_miss (hd : db.gatewayDeliveries.get d.key = some d)
    (hkey : ∀ x ∈ db.gatewayDeliveries.rows, p x = true → x.key = d.key) (hp : p d = false) :
    updateDelivery p f check hf db = (.ok false, db) := by
  refine updateDelivery_none ?_
  intro x hx
  rw [updateDelivery_selects hd hkey hx, hp, Bool.and_false]

/-- One compare-and-set that finds its row. -/
theorem updateDelivery_hit (hd : db.gatewayDeliveries.get d.key = some d)
    (hkey : ∀ x ∈ db.gatewayDeliveries.rows, p x = true → x.key = d.key) (hp : p d = true)
    (hcheck : check (f d) = true) :
    ∃ t, updateDelivery p f check hf db =
        (.ok true, { db with gatewayDeliveries := t }) ∧
      db.gatewayDeliveries.Puts d.key (f d) t := by
  have hsel : ∀ x ∈ db.gatewayDeliveries.rows, p x = decide (x.key = d.key) := by
    intro x hx
    rw [updateDelivery_selects hd hkey hx, hp, Bool.and_true]
  have hone : db.gatewayDeliveries.affected p = 1 := by
    rw [Table.affected_congr hsel]
    exact (Table.affected_eq_one_iff fun r h => of_decide_eq_true h).mpr
      ⟨d, hd, decide_eq_true rfl⟩
  rcases updateDelivery_cases (Prod.mk.eta (p := updateDelivery p f check hf db)).symm with
    ⟨-, -, x, hx, hpx, hcx⟩ | ⟨hr, hdb, -⟩
  · have hxd : x = d :=
      db.gatewayDeliveries.eq_of_key_eq hx (Table.mem_of_get hd) (hkey x hx hpx)
    rw [hxd, hcheck] at hcx
    cases hcx
  · rw [hone] at hr
    refine ⟨_, Prod.ext hr hdb, ?_⟩
    rw [Table.updateWhere_congr hsel]
    exact Table.puts_updateWhere (fun r h => of_decide_eq_true h) hd (decide_eq_true rfl)

/-- A row that would fail its check makes the whole call an error. -/
theorem updateDelivery_refused (hd : db.gatewayDeliveries.get d.key = some d) (hp : p d = true)
    (hcheck : check (f d) = false) :
    updateDelivery p f check hf db = (.error (.sql .constraint), db) := by
  rcases updateDelivery_cases (Prod.mk.eta (p := updateDelivery p f check hf db)).symm with
    ⟨hr, hdb, -⟩ | ⟨-, -, hall⟩
  · exact Prod.ext hr hdb
  · rw [hall d (Table.mem_of_get hd) hp] at hcheck
    cases hcheck

end

end GuiguBridge
