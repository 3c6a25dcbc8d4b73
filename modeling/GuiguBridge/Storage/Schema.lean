import GuiguBridge.Lib.Transaction
import GuiguBridge.Externals

/-!
# The SQLite schema

One structure a table of `src/migrations`, one field a column that the modelled code writes
or reads, and the store `Db` that holds the tables.

* identifiers stand in their columns as values, because their text form is injective and
  only ever written from a value;
* timestamp columns are **texts**: the statements compare them as texts, and what reads
  them parses them;
* a column under a `CHECK (… IN …)` is an enumeration;
* primary keys are the keys of the tables.

Each table comes with its lens, the handle that statements take.
-/

namespace GuiguBridge

open Relational

/-- `length` of a text: its characters before the first NUL. -/
def sqlLength (text : String) : Nat := (text.toList.takeWhile fun c => c != Char.ofNat 0).length

/-! ### Event store -/

structure TaskRow where
  task_id : TaskId
  root_task_id : TaskId
  parent_task_id : Option TaskId
  from_agent : EndpointId
  to_agent : EndpointId
  conversation_id : ConversationId
  reply_to : Option MessageId
  text : String
  priority : Nat
  depth : Nat
  hops : Nat
  deadline : Option String
  version : Nat
  deriving DecidableEq

structure EventRow where
  event_id : EventId
  task_id : TaskId
  seq : Nat
  status : TaskStatus
  timestamp : String
  payload : String
  deriving DecidableEq

structure DeliveryRow where
  delivery_id : DeliveryId
  task_id : TaskId
  attempt : Nat
  target_endpoint_id : EndpointId
  dispatched_at : String
  acknowledged_at : Option String
  deriving DecidableEq

theorem DeliveryRow.acknowledged_key (now : String) (d : DeliveryRow) :
    { d with acknowledged_at := some now }.delivery_id = d.delivery_id := rfl

/-! ### Runtime control -/

inductive LeaseState where
  | active | released | recoveryNeeded
  deriving DecidableEq

/-- `ExecutionResourceKey`. -/
structure ResourceKey where
  uuid : Uuid
  deriving DecidableEq, Inhabited

structure LeaseRow where
  resource_key : ResourceKey
  task_id : TaskId
  owner_token : Uuid
  fence : Nat
  state : LeaseState
  acquired_at : String
  heartbeat_at : String
  expires_at : String
  deriving DecidableEq

inductive ContinuationState where
  | ready | inFlight | recoveryNeeded | blocked | terminal
  deriving DecidableEq

structure ContinuationRow where
  task_id : TaskId
  resource_key : ResourceKey
  delivery_id : DeliveryId
  lease_fence : Nat
  revision : Nat
  state : ContinuationState
  next_turn : Nat
  completed_turns : Nat
  consecutive_no_progress : Nat
  next_prompt : String
  started_at : String
  heartbeat_at : String
  last_progress_at : String
  observed_output_bytes : Nat
  runtime_generation : String
  deriving DecidableEq

/-- `format!("{}:{}:{}:{}", task, delivery or event, fence, revision)`. -/
structure ReceiptKey where
  task_id : TaskId
  source : Uuid
  fence : Nat
  revision : Nat
  deriving DecidableEq

inductive ReceiptOutcomeKind where
  | compatibilityEndTurn | structured | protocolFailure
  deriving DecidableEq

structure ResponseReceiptRow where
  idempotency_key : ReceiptKey
  task_id : TaskId
  delivery_id : DeliveryId
  resource_key : ResourceKey
  lease_fence : Nat
  continuation_revision : Nat
  response_hash : Uuid
  outcome : ReceiptOutcomeKind
  output_bytes : Nat
  runtime_generation : String
  created_at : String
  deriving DecidableEq

inductive ClaimState where
  | active | recoveryNeeded
  deriving DecidableEq

/-- A workspace claim; `path_components` is the JSON array of the column
`path_components_json`. -/
structure ClaimRow where
  claim_id : Uuid
  runtime_owner : Uuid
  task_id : TaskId
  canonical_path : String
  path_components : List String
  owner_fence : Nat
  revision : Nat
  state : ClaimState
  created_at : String
  updated_at : String
  deriving DecidableEq

/-! ### Admission and delivery -/

inductive ReceiptKind where
  | ordinary | admin
  deriving DecidableEq

inductive ReceiptState where
  | reserved | admitted | rejected
  deriving DecidableEq

structure TransportReceiptRow where
  transport : String
  external_event_id : String
  room_id : String
  thread_ref : Option String
  reply_event_id : Option String
  conversation_id : Option ConversationId
  selected_endpoint_id : Option EndpointId
  task_id : Option TaskId
  source_task_id : Option TaskId
  retry_task_id : Option TaskId
  receipt_kind : ReceiptKind
  route_kind : String
  state : ReceiptState
  result_code : String
  admin_actor : Option String
  command_reply_body : Option String
  created_at : String
  updated_at : String
  deriving DecidableEq

/-- `PRIMARY KEY (transport, external_event_id)`. -/
def TransportReceiptRow.key (r : TransportReceiptRow) : String × String :=
  (r.transport, r.external_event_id)

inductive InstanceState where
  | active | stopping | stopped
  deriving DecidableEq

structure RuntimeInstanceRow where
  instance_token : String
  started_at : String
  heartbeat_at : String
  state : InstanceState
  process_fingerprint : String
  deriving DecidableEq

theorem RuntimeInstanceRow.heartbeat_key (now : String) (r : RuntimeInstanceRow) :
    { r with heartbeat_at := now }.instance_token = r.instance_token := rfl

theorem RuntimeInstanceRow.state_key (state : InstanceState) (now : String)
    (r : RuntimeInstanceRow) :
    { r with state := state, heartbeat_at := now }.instance_token = r.instance_token := rfl

inductive AdmissionState where
  | ready | enqueued | dispatching | running | terminal | recoveryNeeded
  deriving DecidableEq

structure AdmissionRow where
  task_id : TaskId
  state : AdmissionState
  revision : Nat
  runtime_instance : Option String
  reply_room : Option String
  reply_thread_root : Option String
  reply_event_id : Option String
  monitor_room : Option String
  monitor_generation : Option Nat
  render_version : Option String
  created_at : String
  updated_at : String
  deriving DecidableEq

theorem AdmissionRow.ready_key (now : String) (a : AdmissionRow) :
    { a with state := .ready, revision := a.revision + 1, updated_at := now }.task_id =
      a.task_id := rfl

inductive DispositionState where
  | prepared | acknowledged | outcomeUnknown | terminal
  deriving DecidableEq

structure DispositionRow where
  delivery_id : DeliveryId
  task_id : TaskId
  attempt : Nat
  state : DispositionState
  session_id : Option String
  child_fingerprint : Option String
  reason_code : Option String
  deriving DecidableEq

theorem DispositionRow.terminal_key (d : DispositionRow) :
    { d with state := .terminal, reason_code := none }.delivery_id = d.delivery_id := rfl

theorem DispositionRow.recovery_key (d : DispositionRow) :
    { d with state := .outcomeUnknown, reason_code := some "recovery_needed" }.delivery_id =
      d.delivery_id := rfl

inductive SourceKind where
  | taskEvent | transportReceipt
  deriving DecidableEq

inductive Projection where
  | terminalReply | observer | commandReply
  deriving DecidableEq

/-- The text of the `projection` column. -/
def Projection.asStr : Projection → String
  | .terminalReply => "terminal_reply"
  | .observer => "observer"
  | .commandReply => "command_reply"

inductive OutboxState where
  | pending | sending | sent | abandoned
  deriving DecidableEq

structure OutboxRow where
  source_kind : SourceKind
  source_id : String
  projection : Projection
  transport : Option String
  stable_txn_id : String
  room_id : String
  thread_root : Option String
  reply_event_id : Option String
  monitor_generation : Option Nat
  render_version : String
  body : String
  body_hash : String
  state : OutboxState
  attempt_count : Nat
  claim_owner : Option String
  claim_revision : Option Nat
  created_at : String
  updated_at : String
  deriving DecidableEq

/-- `PRIMARY KEY (source_kind, source_id, projection)`. -/
def OutboxRow.key (r : OutboxRow) : SourceKind × String × Projection :=
  (r.source_kind, r.source_id, r.projection)

/-! ### Durable output -/

inductive SetState where
  | assembling | prepared | sealed | delivering | delivered | partial_ | abandoned | cleaning
  | cleaned | quarantined
  deriving DecidableEq

structure OutputSetRow where
  set_id : String
  task_id : TaskId
  attempt : Nat
  turn : Nat
  runtime_fence : String
  room_id : String
  thread_root : Option String
  reply_event_id : Option String
  render_version : String
  total_bytes : Option Nat
  total_hash : Option String
  segment_count : Option Nat
  acknowledged_cursor : Int
  state : SetState
  claim_owner : Option String
  claim_revision : Nat
  attempt_count : Nat
  failure_class : Option String
  created_at : String
  updated_at : String
  deriving DecidableEq

inductive SegmentState where
  | reserved | landed | cleaned | quarantined
  deriving DecidableEq

/-- One spool file.  The column `byte_end` is `byte_start + byte_length`: the table checks
it. -/
structure SegmentRow where
  set_id : String
  segment_index : Nat
  byte_start : Nat
  byte_length : Nat
  content_hash : String
  relative_name : String
  state : SegmentState
  reservation_owner : String
  revision : Nat
  created_at : String
  updated_at : String
  deriving DecidableEq

/-- `PRIMARY KEY (set_id, segment_index)`. -/
def SegmentRow.key (r : SegmentRow) : String × Nat := (r.set_id, r.segment_index)

def SegmentRow.byte_end (r : SegmentRow) : Nat := r.byte_start + r.byte_length

/-- One message that carries a part of the output. -/
structure DeliverySegmentRow where
  set_id : String
  delivery_index : Int
  spool_index : Int
  byte_start : Int
  byte_end : Int
  content_hash : String
  stable_txn_id : String
  deriving DecidableEq

/-- `PRIMARY KEY (set_id, delivery_index)`. -/
def DeliverySegmentRow.key (r : DeliverySegmentRow) : String × Int :=
  (r.set_id, r.delivery_index)

/-- The one row of `acp_output_quota`, which the migration inserts. -/
structure QuotaRow where
  reserved_bytes : Int
  landed_bytes : Int
  revision : Nat
  deriving DecidableEq, Inhabited

/-! ### Workflow queue -/

structure WorkflowEnvelopeRow where
  transport : String
  external_event_id : String
  sender_endpoint_id : EndpointId
  target_endpoint_id : EndpointId
  task_id : TaskId
  correlation_id : String
  idempotency_key : String
  schema : String
  kind : String
  state : String
  outcome : Option String
  body_hash : String
  created_at : String
  updated_at : String
  deriving DecidableEq

/-- `PRIMARY KEY (transport, external_event_id)`. -/
def WorkflowEnvelopeRow.key (r : WorkflowEnvelopeRow) : String × String :=
  (r.transport, r.external_event_id)

structure QueueCounterRow where
  target_endpoint_id : EndpointId
  next_sequence : Nat
  capacity : Int
  updated_at : String
  deriving DecidableEq

theorem QueueCounterRow.capacity_key (capacity : Int) (now : String) (c : QueueCounterRow) :
    { c with capacity := capacity, updated_at := now }.target_endpoint_id =
      c.target_endpoint_id := rfl

theorem QueueCounterRow.sequence_key (now : String) (c : QueueCounterRow) :
    { c with next_sequence := c.next_sequence + 1, updated_at := now }.target_endpoint_id =
      c.target_endpoint_id := rfl

inductive QueueLane where
  | ordinary | control
  deriving DecidableEq

inductive QueueState where
  | queued | claimed | running | paused | completed | expired | superseded | recoveryNeeded
  deriving DecidableEq

structure WorkQueueRow where
  queue_id : Uuid
  task_id : TaskId
  delivery_id : DeliveryId
  target_endpoint_id : EndpointId
  room_id : String
  thread_root : Option String
  sender_endpoint_id : EndpointId
  idempotency_key : String
  body_hash : String
  lane : QueueLane
  state : QueueState
  sequence : Nat
  revision : Nat
  claimed_at : Option String
  send_started : Bool
  runtime_owner : Option Uuid
  owner_fence : Option Nat
  reason : Option String
  created_at : String
  updated_at : String
  deriving DecidableEq

/-! ### Gateway -/

inductive Direction where
  | inbound | outbound
  deriving DecidableEq

inductive DeliveryPhase where
  | pending | sendUnknown | transportAcked | taskAccepted | terminal | stale | recoveryNeeded
  deriving DecidableEq

inductive EnvelopeState where
  | received | acked | accepted | running | terminal | cancelRequested | stale | recoveryNeeded
  deriving DecidableEq

structure GatewayEnvelopeRow where
  envelope_id : Uuid
  version : String
  direction : Direction
  peer_id : String
  sender_user_id : String
  idempotency_key : String
  sender_endpoint : EndpointId
  recipient_endpoint : EndpointId
  conversation_id : ConversationId
  correlation_id : Uuid
  internal_task_id : Option TaskId
  kind : String
  canonical_json : String
  payload_sha256 : String
  created_at : String
  deadline : Option String
  route_generation : Int
  state : EnvelopeState
  owner_runtime : Option String
  cleanup_owner : Option String
  cleanup_revision : Nat
  cleanup_claimed_at : Option String
  terminal_at : Option String
  retained_bytes : Nat
  deriving DecidableEq

structure GatewayDeliveryRow where
  envelope_id : Uuid
  direction : Direction
  transport : String
  phase : DeliveryPhase
  attempt : Nat
  txn_id : Option String
  event_id : Option String
  room_id : String
  thread_root : Option String
  owner_runtime : Option String
  owner_revision : Nat
  deriving DecidableEq

/-- `PRIMARY KEY (envelope_id, direction, transport)`. -/
def GatewayDeliveryRow.key (r : GatewayDeliveryRow) : Uuid × Direction × String :=
  (r.envelope_id, r.direction, r.transport)

structure GatewayArtifactRow where
  artifact_id : Uuid
  envelope_id : Uuid
  byte_len : Nat
  deriving DecidableEq

/-! ### The store -/

/-- Every table of the model. -/
structure Db where
  tasks : Table TaskRow.task_id
  taskEvents : Table EventRow.event_id
  deliveries : Table DeliveryRow.delivery_id
  executionLeases : Table LeaseRow.resource_key
  taskContinuations : Table ContinuationRow.task_id
  continuationResponseReceipts : Table ResponseReceiptRow.idempotency_key
  workspaceClaims : Table ClaimRow.claim_id
  transportReceipts : Table TransportReceiptRow.key
  runtimeInstances : Table RuntimeInstanceRow.instance_token
  taskAdmissions : Table AdmissionRow.task_id
  deliveryDispositions : Table DispositionRow.delivery_id
  projectionOutbox : Table OutboxRow.key
  acpOutputSets : Table OutputSetRow.set_id
  acpOutputSegments : Table SegmentRow.key
  acpOutputDeliverySegments : Table DeliverySegmentRow.key
  acpOutputQuota : QuotaRow
  workflowEnvelopes : Table WorkflowEnvelopeRow.key
  agentQueueCounters : Table QueueCounterRow.target_endpoint_id
  agentWorkQueue : Table WorkQueueRow.queue_id
  gatewayEnvelopes : Table GatewayEnvelopeRow.envelope_id
  gatewayDeliveries : Table GatewayDeliveryRow.key
  gatewayArtifacts : Table GatewayArtifactRow.artifact_id
  deriving Inhabited, DecidableEq

namespace Db

/-- The freshly migrated store. -/
def empty : Db := default

abbrev tasksL : Lens Db (Table TaskRow.task_id) :=
  ⟨tasks, fun t db => { db with tasks := t }⟩

abbrev taskEventsL : Lens Db (Table EventRow.event_id) :=
  ⟨taskEvents, fun t db => { db with taskEvents := t }⟩

abbrev deliveriesL : Lens Db (Table DeliveryRow.delivery_id) :=
  ⟨deliveries, fun t db => { db with deliveries := t }⟩

abbrev executionLeasesL : Lens Db (Table LeaseRow.resource_key) :=
  ⟨executionLeases, fun t db => { db with executionLeases := t }⟩

abbrev taskContinuationsL : Lens Db (Table ContinuationRow.task_id) :=
  ⟨taskContinuations, fun t db => { db with taskContinuations := t }⟩

abbrev continuationResponseReceiptsL : Lens Db (Table ResponseReceiptRow.idempotency_key) :=
  ⟨continuationResponseReceipts, fun t db => { db with continuationResponseReceipts := t }⟩

abbrev workspaceClaimsL : Lens Db (Table ClaimRow.claim_id) :=
  ⟨workspaceClaims, fun t db => { db with workspaceClaims := t }⟩

abbrev transportReceiptsL : Lens Db (Table TransportReceiptRow.key) :=
  ⟨transportReceipts, fun t db => { db with transportReceipts := t }⟩

abbrev runtimeInstancesL : Lens Db (Table RuntimeInstanceRow.instance_token) :=
  ⟨runtimeInstances, fun t db => { db with runtimeInstances := t }⟩

abbrev taskAdmissionsL : Lens Db (Table AdmissionRow.task_id) :=
  ⟨taskAdmissions, fun t db => { db with taskAdmissions := t }⟩

abbrev deliveryDispositionsL : Lens Db (Table DispositionRow.delivery_id) :=
  ⟨deliveryDispositions, fun t db => { db with deliveryDispositions := t }⟩

abbrev projectionOutboxL : Lens Db (Table OutboxRow.key) :=
  ⟨projectionOutbox, fun t db => { db with projectionOutbox := t }⟩

abbrev acpOutputSetsL : Lens Db (Table OutputSetRow.set_id) :=
  ⟨acpOutputSets, fun t db => { db with acpOutputSets := t }⟩

abbrev acpOutputSegmentsL : Lens Db (Table SegmentRow.key) :=
  ⟨acpOutputSegments, fun t db => { db with acpOutputSegments := t }⟩

abbrev acpOutputDeliverySegmentsL : Lens Db (Table DeliverySegmentRow.key) :=
  ⟨acpOutputDeliverySegments, fun t db => { db with acpOutputDeliverySegments := t }⟩

abbrev workflowEnvelopesL : Lens Db (Table WorkflowEnvelopeRow.key) :=
  ⟨workflowEnvelopes, fun t db => { db with workflowEnvelopes := t }⟩

abbrev agentQueueCountersL : Lens Db (Table QueueCounterRow.target_endpoint_id) :=
  ⟨agentQueueCounters, fun t db => { db with agentQueueCounters := t }⟩

abbrev agentWorkQueueL : Lens Db (Table WorkQueueRow.queue_id) :=
  ⟨agentWorkQueue, fun t db => { db with agentWorkQueue := t }⟩

abbrev gatewayEnvelopesL : Lens Db (Table GatewayEnvelopeRow.envelope_id) :=
  ⟨gatewayEnvelopes, fun t db => { db with gatewayEnvelopes := t }⟩

abbrev gatewayDeliveriesL : Lens Db (Table GatewayDeliveryRow.key) :=
  ⟨gatewayDeliveries, fun t db => { db with gatewayDeliveries := t }⟩

end Db

/-- `i64::try_from` of an unsigned value. -/
def toI64 (v : Nat) : Option Nat := if v < 2 ^ 63 then some v else none

theorem toI64_eq_some {v w : Nat} (h : toI64 v = some w) : v = w ∧ v < 2 ^ 63 := by
  unfold toI64 at h
  split at h
  · rename_i hv
    exact ⟨by simpa using h, hv⟩
  · cases h

end GuiguBridge
