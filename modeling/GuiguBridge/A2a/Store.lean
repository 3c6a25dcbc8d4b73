import GuiguBridge.A2a.Wire
import GuiguBridge.Lib.Totals
import GuiguBridge.Storage.Workflow
import Mathlib.Data.List.Lex
import Mathlib.Data.String.Basic

/-!
# The exchanges of the A2A adapter

What the adapter keeps of the requests it answers and makes (`src/src/a2a/store.rs`,
`src/src/a2a/content.rs`, `src/migrations/0005_a2a_interop.sql`).

* `ExchangeRow`, `MessageRow`, `ArtifactRow`, `PartRow` — the tables, `Tables` — all of them
  beside the store of the bridge;
* `reserveInbound`, `bindTask` — an exchange is reserved under its request and bound to its
  task once;
* `storeMessage`, `storeArtifacts` — the parts of a message or of the artifacts of a result,
  with the bytes they take;
* `claimCleanup`, `cleanClaim` — the content of a finished exchange is removed by the one that
  claimed it;
* `Tables.storedBytes` — **the bytes that are really stored for an exchange**.
-/

namespace GuiguBridge

open Relational

namespace A2a

/-! ### Errors -/

inductive IngressStage where
  | httpBody | authentication | authorization | rpcEnvelope | method | paramsDecode
  | versionValidate | idempotencyReserve | contentPersist | endpointResolve | peerPersist
  | conversation | admission | binding | snapshot | responseEncode
  deriving DecidableEq

inductive IngressCause where
  | bodyTooLarge | malformedJson | invalidParams | authenticationFailed | targetUnavailable
  | unsupported | idempotencyConflict | storage | admissionBusy | admissionClosed
  | bindingIncomplete | recoveryRequired | internal
  deriving DecidableEq

inductive Retryability where
  | never | credentialsChange | policyChange | sameRequest | backoff | serviceRecovery
  deriving DecidableEq

/-- The errors of `A2aError` that the store and the ingress return. -/
inductive A2aError where
  | ingress (stage : IngressStage) (cause : IngressCause) (retryability : Retryability)
  | config (reason : String)
  | unsupported
  | protocol (reason : String)
  | tooLarge
  | conflict
  | recoveryNeeded
  | storage (source : StorageError)
  deriving DecidableEq

/-! ### The rows -/

inductive Direction where
  | inbound | outbound
  deriving DecidableEq

inductive ExchangeState where
  | reserved | submitted | working | completed | failed | canceled | rejected
  | acceptanceUnknown | recoveryNeeded
  deriving DecidableEq

inductive CleanupState where
  | pending | claimed | cleaned
  deriving DecidableEq

structure ExchangeRow where
  exchange_id : Uuid
  peer_id : String
  direction : Direction
  request_id : String
  request_hash : String
  external_task_id : Option String
  external_context_id : Option String
  internal_task_id : Option TaskId
  state : ExchangeState
  revision : Nat
  content_bytes : Nat
  terminal_at : Option String
  cleanup_state : CleanupState
  cleanup_owner : Option String
  cleanup_revision : Nat
  cleanup_claimed_at : Option String
  content_cleaned_at : Option String
  created_at : String
  updated_at : String
  deriving DecidableEq

structure MessageRow where
  message_id : Uuid
  exchange_id : Uuid
  external_message_id : String
  role : Role
  ordinal : Nat
  created_at : String
  deriving DecidableEq

structure ArtifactRow where
  artifact_id : Uuid
  exchange_id : Uuid
  external_artifact_id : String
  ordinal : Nat
  name : Option String
  description : Option String
  deriving DecidableEq

inductive PartKind where
  | text | data | fileInline
  deriving DecidableEq

/-- A row of `a2a_message_parts` or of `a2a_artifact_parts`; `owner_id` is the message or the
artifact. -/
structure PartRow where
  owner_id : Uuid
  ordinal : Nat
  kind : PartKind
  mime_type : Option String
  text_value : Option String
  json_value : Option String
  blob_value : Option String
  content_hash : String
  deriving DecidableEq

/-- `PRIMARY KEY(message_id, ordinal)`. -/
def PartRow.key (p : PartRow) : Uuid × Nat := (p.owner_id, p.ordinal)

/-- The bytes of the value of a stored part. -/
def PartRow.bytes (p : PartRow) : Nat :=
  match p.text_value, p.json_value, p.blob_value with
  | some text, _, _ => text.utf8ByteSize
  | none, some json, _ => json.utf8ByteSize
  | none, none, some blob => blob.utf8ByteSize
  | none, none, none => 0

/-- A conversation with a peer; `external_id` names it. -/
structure ConversationRow where
  conversation_id : ConversationId
  external_id : String
  participants : List EndpointId
  deriving DecidableEq

/-- The tables of the adapter beside the store of the bridge. -/
structure Tables where
  db : Db
  conversations : Table ConversationRow.conversation_id
  exchanges : Table ExchangeRow.exchange_id
  messages : Table MessageRow.message_id
  messageParts : Table PartRow.key
  artifacts : Table ArtifactRow.artifact_id
  artifactParts : Table PartRow.key
  deriving DecidableEq

namespace Tables

def empty : Tables :=
  ⟨Db.empty, Table.empty, Table.empty, Table.empty, Table.empty, Table.empty, Table.empty⟩

abbrev exchangesL : Lens Tables (Table ExchangeRow.exchange_id) :=
  ⟨exchanges, fun t s => { s with exchanges := t }⟩

abbrev messagesL : Lens Tables (Table MessageRow.message_id) :=
  ⟨messages, fun t s => { s with messages := t }⟩

abbrev messagePartsL : Lens Tables (Table PartRow.key) :=
  ⟨messageParts, fun t s => { s with messageParts := t }⟩

abbrev artifactsL : Lens Tables (Table ArtifactRow.artifact_id) :=
  ⟨artifacts, fun t s => { s with artifacts := t }⟩

abbrev artifactPartsL : Lens Tables (Table PartRow.key) :=
  ⟨artifactParts, fun t s => { s with artifactParts := t }⟩

/-- The bytes of the parts of one message or artifact. -/
def partBytes (parts : Table PartRow.key) (owner_id : Uuid) : Nat :=
  parts.sumWhere (fun p => decide (p.owner_id = owner_id)) PartRow.bytes

/-- The bytes of the stored message of an exchange. -/
def messageBytes (s : Tables) (exchange_id : Uuid) : Nat :=
  s.messages.sumWhere (fun m => decide (m.exchange_id = exchange_id))
    fun m => partBytes s.messageParts m.message_id

/-- The bytes of the stored artifacts of an exchange. -/
def artifactBytes (s : Tables) (exchange_id : Uuid) : Nat :=
  s.artifacts.sumWhere (fun a => decide (a.exchange_id = exchange_id))
    fun a => partBytes s.artifactParts a.artifact_id

/-- **The bytes stored for an exchange.** -/
def storedBytes (s : Tables) (exchange_id : Uuid) : Nat :=
  s.messageBytes exchange_id + s.artifactBytes exchange_id

end Tables

/-! ### Exchanges -/

structure ExchangeRecord where
  exchange_id : Uuid
  peer_id : String
  request_id : String
  request_hash : String
  external_context_id : Option String
  external_task_id : Option String
  internal_task_id : Option TaskId
  state : ExchangeState
  revision : Nat
  content_bytes : Nat
  content_cleaned : Bool
  deriving DecidableEq

/-- `decode`. -/
def ExchangeRow.decode (e : ExchangeRow) : ExchangeRecord :=
  { exchange_id := e.exchange_id, peer_id := e.peer_id, request_id := e.request_id,
    request_hash := e.request_hash, external_context_id := e.external_context_id,
    external_task_id := e.external_task_id, internal_task_id := e.internal_task_id,
    state := e.state, revision := e.revision, content_bytes := e.content_bytes,
    content_cleaned := decide (e.cleanup_state = .cleaned) }

inductive InboundReservation where
  | new (row : ExchangeRecord)
  | replay (row : ExchangeRecord)
  deriving DecidableEq

def InboundReservation.row : InboundReservation → ExchangeRecord
  | .new row => row
  | .replay row => row

/-- `read_request`. -/
def readRequest (peer_id : String) (direction : Direction) (request_id : String)
    (s : Tables) : Option ExchangeRow :=
  s.exchanges.rows.find? fun e =>
    decide (e.peer_id = peer_id ∧ e.direction = direction ∧ e.request_id = request_id)

/-- An `UPDATE` of the exchanges. -/
def Tables.updateExchanges (p : ExchangeRow → Bool) (f : ExchangeRow → ExchangeRow)
    (hf : ∀ e, (f e).exchange_id = e.exchange_id) (s : Tables) : Tables :=
  { s with exchanges := s.exchanges.updateWhere p f hf }

/-- The same, with the number of rows. -/
def updateExchange (p : ExchangeRow → Bool) (f : ExchangeRow → ExchangeRow)
    (hf : ∀ e, (f e).exchange_id = e.exchange_id) (s : Tables) : Except A2aError Bool × Tables :=
  (.ok (decide (s.exchanges.affected p = 1)), s.updateExchanges p f hf)

section

variable [Externals]

/-- The exchange that `reserve_inbound` inserts. -/
def reservedInbound (exchange_id : Uuid) (peer_id request_id request_hash context_id : String)
    (now : DateTime) : ExchangeRow :=
  { exchange_id := exchange_id, peer_id := peer_id, direction := .inbound,
    request_id := request_id, request_hash := request_hash, external_task_id := none,
    external_context_id := some context_id, internal_task_id := none, state := .reserved,
    revision := 0, content_bytes := 0, terminal_at := none, cleanup_state := .pending,
    cleanup_owner := none, cleanup_revision := 0, cleanup_claimed_at := none,
    content_cleaned_at := none, created_at := Externals.toRfc3339 now,
    updated_at := Externals.toRfc3339 now }

/-- `A2aStore::reserve_inbound`; `exchange_id` is the identity it draws. -/
def reserveInbound (peer_id request_id request_hash context_id : String) (exchange_id : Uuid)
    (now : DateTime) (s : Tables) : Except A2aError InboundReservation × Tables :=
  match readRequest peer_id .inbound request_id s with
  | some existing =>
    if existing.request_hash = request_hash then (.ok (.replay existing.decode), s)
    else (.error .conflict, s)
  | none =>
    let row := reservedInbound exchange_id peer_id request_id request_hash context_id now
    match s.exchanges.insert row with
    | some t => (.ok (.new row.decode), { s with exchanges := t })
    | none => (.error (.storage .constraint), s)

/-- `A2aStore::reserve_outbound`. -/
def reserveOutbound (peer_id request_id : String) (internal_task_id : TaskId)
    (context_id : String) (exchange_id : Uuid) (now : DateTime) (s : Tables) :
    Except A2aError InboundReservation × Tables :=
  match readRequest peer_id .outbound request_id s with
  | some existing =>
    if existing.internal_task_id = some internal_task_id then
      (.ok (.replay existing.decode), s)
    else (.error .conflict, s)
  | none =>
    let row := { reservedInbound exchange_id peer_id request_id request_id context_id now with
                 direction := .outbound, internal_task_id := some internal_task_id }
    match s.exchanges.insert row with
    | some t => (.ok (.new row.decode), { s with exchanges := t })
    | none => (.error (.storage .constraint), s)

/-- `UNIQUE(peer_id, direction, external_task_id)`: another exchange of the peer has the task. -/
def Tables.externalTaken (s : Tables) (exchange_id : Uuid) (external_task_id : String) : Bool :=
  s.exchanges.rows.any fun e => decide (e.exchange_id = exchange_id) &&
    s.exchanges.rows.any fun o => decide (o.exchange_id ≠ e.exchange_id ∧
      o.peer_id = e.peer_id ∧ o.direction = e.direction ∧
      o.external_task_id = some external_task_id)

/-- The exchanges that `bind_task` may bind. -/
def unbound (exchange_id : Uuid) (e : ExchangeRow) : Bool :=
  decide (e.exchange_id = exchange_id ∧ e.state = .reserved ∧ e.internal_task_id = none ∧
    e.external_task_id = none)

/-- The exchange under its task. -/
def ExchangeRow.boundTo (internal_task_id : TaskId) (external_task_id : String)
    (content_bytes : Nat) (now : DateTime) (e : ExchangeRow) : ExchangeRow :=
  { e with internal_task_id := some internal_task_id, external_task_id := some external_task_id,
           state := .submitted, revision := e.revision + 1, content_bytes := content_bytes,
           updated_at := Externals.toRfc3339 now }

/-- `A2aStore::bind_task`. -/
def bindTask (exchange_id : Uuid) (internal_task_id : TaskId) (external_task_id : String)
    (content_bytes : Nat) (now : DateTime) (s : Tables) : Except A2aError Bool × Tables :=
  if s.exchanges.affected (unbound exchange_id) = 1 ∧
      s.externalTaken exchange_id external_task_id = true then
    (.error (.storage .constraint), s)
  else
    updateExchange (unbound exchange_id)
      (ExchangeRow.boundTo internal_task_id external_task_id content_bytes now) (fun _ => rfl) s

/-- `A2aStore::acknowledge_outbound`; the state is one of the two that it accepts. -/
def acknowledgeOutbound (exchange_id : Uuid) (remote_task_id : String) (working : Bool)
    (now : DateTime) (s : Tables) : Except A2aError Bool × Tables :=
  let p := fun e : ExchangeRow => decide (e.exchange_id = exchange_id ∧ e.state = .reserved ∧
    e.external_task_id = none)
  if s.exchanges.affected p = 1 ∧ s.externalTaken exchange_id remote_task_id = true then
    (.error (.storage .constraint), s)
  else
    updateExchange p
      (fun e => { e with external_task_id := some remote_task_id,
                         state := if working then .working else .submitted,
                         revision := e.revision + 1, updated_at := Externals.toRfc3339 now })
      (fun _ => rfl) s

/-- `A2aStore::mark_acceptance_unknown`. -/
def markAcceptanceUnknown (exchange_id : Uuid) (expected_revision : Nat) (now : DateTime) :
    Tables → Except A2aError Bool × Tables :=
  updateExchange
    (fun e => decide (e.exchange_id = exchange_id ∧ e.revision = expected_revision ∧
      e.state = .reserved ∧ e.external_task_id = none))
    (fun e => { e with state := .acceptanceUnknown, revision := e.revision + 1,
                       updated_at := Externals.toRfc3339 now }) (fun _ => rfl)

/-! ### Content -/

structure Encoded where
  kind : PartKind
  mime : Option String
  text : Option String
  json : Option String
  blob : Option String
  bytes : Nat
  deriving DecidableEq

/-- `encode`. -/
def encode : Part → Except A2aError Encoded
  | .text text => .ok ⟨.text, none, some text, none, none, text.utf8ByteSize⟩
  | .data data =>
    .ok ⟨.data, none, none, some (Externals.jsonText data), none,
      (Externals.jsonText data).utf8ByteSize⟩
  | .fileInline mime_type data =>
    if 262144 < data.utf8ByteSize then .error .tooLarge
    else .ok ⟨.fileInline, some mime_type, none, none, some data, data.utf8ByteSize⟩
  | .fileUri _ => .error .unsupported

/-- The hash of the value of a part. -/
def Encoded.hash (e : Encoded) : String :=
  Externals.uuidText (Externals.newV5 namespaceOid
    ((e.text.or (e.json.or e.blob)).getD ""))

/-- The row of a part. -/
def Encoded.row (e : Encoded) (owner_id : Uuid) (ordinal : Nat) : PartRow :=
  { owner_id := owner_id, ordinal := ordinal, kind := e.kind, mime_type := e.mime,
    text_value := e.text, json_value := e.json, blob_value := e.blob, content_hash := e.hash }

/-- The loop over the parts of a message or an artifact, from `ordinal` on; it returns the total
so far with their bytes. -/
def insertParts (parts : Lens Tables (Table PartRow.key)) (owner_id : Uuid) :
    List Part → Nat → Nat → Tx Tables A2aError Nat
  | [], _, total => pure total
  | part :: rest, ordinal, total => do
    let encoded ← Tx.ofExcept (encode part)
    Tx.require (total + encoded.bytes ≤ 1048576) .tooLarge
    Tx.insert parts (encoded.row owner_id ordinal) (.storage .constraint)
    insertParts parts owner_id rest (ordinal + 1) (total + encoded.bytes)

/-- The first read of `message_matches_on`: the message of the exchange and how many parts it
has. -/
def messageHeader (exchange_id : Uuid) (s : Tables) : Option (String × Role × Nat) :=
  (s.messages.rows.find? fun m => decide (m.exchange_id = exchange_id)).map fun m =>
    (m.external_message_id, m.role,
      s.messageParts.affected fun p => decide (p.owner_id = m.message_id))

/-- The second read: the hashes of the parts in their order. -/
def messageHashes (exchange_id : Uuid) (s : Tables) : List (Nat × String) :=
  ((s.messageParts.rows.filter fun p => s.messages.rows.any fun m =>
      decide (m.exchange_id = exchange_id ∧ m.message_id = p.owner_id)).insertionSort
    fun a b => a.ordinal ≤ b.ordinal).map fun p => (p.ordinal, p.content_hash)

/-- The header is the one of the message. -/
def headerMatches (message : Message) : Option (String × Role × Nat) → Bool
  | none => false
  | some (external_id, role, count) =>
    decide (external_id = message.message_id ∧ role = message.role ∧
      count = message.parts.length)

/-- The loop that compares the hashes, from `ordinal` on. -/
def hashesMatch (hashes : List (Nat × String)) : List Part → Nat → Except A2aError Bool
  | [], _ => .ok true
  | part :: rest, ordinal =>
    match encode part with
    | .error e => .error e
    | .ok encoded =>
      if hashes[ordinal]? = some (ordinal, encoded.hash) then hashesMatch hashes rest (ordinal + 1)
      else .ok false

/-- `message_matches_on`. -/
def messageMatchesOn (exchange_id : Uuid) (message : Message) (s : Tables) :
    Except A2aError Bool :=
  if headerMatches message (messageHeader exchange_id s) then
    hashesMatch (messageHashes exchange_id s) message.parts 0
  else .ok false

/-- The insert of the message; two unique indexes admit one message under its ordinal. -/
def insertMessage (row : MessageRow) : Tx Tables A2aError Unit := do
  let taken ← Tx.read fun s => s.messages.rows.any fun m => decide
    (m.exchange_id = row.exchange_id ∧
      (m.external_message_id = row.external_message_id ∨ m.ordinal = row.ordinal))
  Tx.require (!taken) (.storage .constraint)
  Tx.insert Tables.messagesL row (.storage .constraint)

/-- A message that is not stored yet. -/
def insertContent (exchange_id : Uuid) (message : Message) (stored_id : Uuid) (now : DateTime) :
    Tx Tables A2aError Nat := do
  insertMessage
    { message_id := stored_id, exchange_id := exchange_id,
      external_message_id := message.message_id, role := message.role, ordinal := 0,
      created_at := Externals.toRfc3339 now }
  let total ← insertParts Tables.messagePartsL stored_id message.parts 0 0
  let _ ← Tx.update Tables.exchangesL
    (fun e => decide (e.exchange_id = exchange_id ∧ e.state = .reserved))
    (fun e => { e with content_bytes := total, updated_at := Externals.toRfc3339 now })
  pure total

/-- `store_message`.  **What it inserts is counted only while the exchange is reserved.** -/
def storeMessage (exchange_id : Uuid) (message : Message) (stored_id : Uuid) (now : DateTime)
    (s : Tables) : Except A2aError Nat × Tables :=
  if 64 < message.parts.length then (.error .tooLarge, s)
  else
    Tx.commit .error (do
      let found ← Tx.read (messageMatchesOn exchange_id message)
      let found ← Tx.ofExcept found
      if found = true then do
        let row ← Tx.read fun s => s.exchanges.get exchange_id
        let row ← Tx.orElse row (.storage .rowNotFound)
        pure (.ok row.content_bytes)
      else do
        let total ← insertContent exchange_id message stored_id now
        pure (.ok total)) s

/-- The insert of an artifact, under its two unique indexes. -/
def insertArtifact (row : ArtifactRow) : Tx Tables A2aError Unit := do
  let taken ← Tx.read fun s => s.artifacts.rows.any fun a => decide
    (a.exchange_id = row.exchange_id ∧
      (a.external_artifact_id = row.external_artifact_id ∨ a.ordinal = row.ordinal))
  Tx.require (!taken) (.storage .constraint)
  Tx.insert Tables.artifactsL row (.storage .constraint)

/-- The loop over the artifacts, from `ordinal` on; `newId` draws their identities. -/
def insertArtifacts (exchange_id : Uuid) (newId : Nat → Uuid) :
    List Artifact → Nat → Nat → Tx Tables A2aError Nat
  | [], _, total => pure total
  | artifact :: rest, ordinal, total => do
    Tx.require (artifact.parts.length ≤ 64) .tooLarge
    insertArtifact
      { artifact_id := newId ordinal, exchange_id := exchange_id,
        external_artifact_id := artifact.artifact_id, ordinal := ordinal, name := artifact.name,
        description := artifact.description }
    let total ← insertParts Tables.artifactPartsL (newId ordinal) artifact.parts 0 total
    insertArtifacts exchange_id newId rest (ordinal + 1) total

/-- `store_artifacts`. -/
def storeArtifacts (exchange_id : Uuid) (artifacts : List Artifact) (newId : Nat → Uuid)
    (now : DateTime) (s : Tables) : Except A2aError Nat × Tables :=
  if 16 < artifacts.length then (.error .tooLarge, s)
  else
    Tx.commit .error (do
      let total ← insertArtifacts exchange_id newId artifacts 0 0
      let _ ← Tx.update Tables.exchangesL (fun e => decide (e.exchange_id = exchange_id))
        (fun e => { e with content_bytes := e.content_bytes + total,
                           updated_at := Externals.toRfc3339 now })
      pure (.ok total)) s

/-! ### The end of an exchange -/

/-- The last event of a task. -/
def lastEventRow (db : Db) (task_id : TaskId) : Option EventRow :=
  ((db.taskEvents.rows.filter (·.task_id = task_id)).mergeSort
    (fun a b => decide (b.seq ≤ a.seq))).head?

/-- The last event of the task of an exchange is a terminal one. -/
def Tables.taskEnded (s : Tables) (e : ExchangeRow) : Bool :=
  ((e.internal_task_id.bind (lastEventRow s.db)).map (·.status.isTerminal)).getD false

/-- The state of an exchange whose task ended so. -/
def terminalState : TaskStatus → ExchangeState
  | .completed => .completed
  | .cancelled => .canceled
  | _ => .failed

/-- The exchange at the end of its task. -/
def Tables.ended (s : Tables) (e : ExchangeRow) : ExchangeRow :=
  match e.internal_task_id.bind (lastEventRow s.db) with
  | some event => { e with state := terminalState event.status, revision := e.revision + 1,
                           terminal_at := some event.timestamp, updated_at := event.timestamp }
  | none => e

omit [Externals] in
theorem Tables.ended_exchange_id (s : Tables) (e : ExchangeRow) :
    (s.ended e).exchange_id = e.exchange_id := by
  unfold Tables.ended
  split <;> rfl

/-- `reconcile_terminals`. -/
def reconcileTerminals (s : Tables) : Tables :=
  s.updateExchanges (fun e => decide (e.terminal_at = none) && s.taskEnded e) s.ended
    s.ended_exchange_id

/-- `A2aStore::project_task_terminal`. -/
def projectTaskTerminal (internal_task_id : TaskId) (s : Tables) : Tables :=
  s.updateExchanges (fun e => decide (e.internal_task_id = some internal_task_id ∧
    e.terminal_at = none) && s.taskEnded e) s.ended s.ended_exchange_id

/-- What the ceiling check counts of the exchanges. -/
def retained (s : Tables) (e : ExchangeRow) : Bool :=
  decide (e.terminal_at ≠ none ∧ e.cleanup_state ≠ .cleaned) && s.taskEnded e

/-- `A2aStore::retained_terminal_bytes`. -/
def retainedTerminalBytes (s : Tables) : Nat × Tables :=
  let s := reconcileTerminals s
  (s.exchanges.sumWhere (retained s) (·.content_bytes), s)

/-! ### Cleanup -/

structure CleanupClaim where
  exchange_id : Uuid
  revision : Nat
  deriving DecidableEq

/-- `state='stopped'` of the owner of a claim. -/
def Tables.ownerStopped (s : Tables) (e : ExchangeRow) : Bool :=
  s.db.stoppedInstance e.cleanup_owner && e.cleanup_owner.isSome

/-- The runtime is an active one. -/
def Tables.activeRuntime (s : Tables) (runtime : String) : Bool :=
  s.db.runtimeInstances.rows.any fun r =>
    decide (r.instance_token = runtime ∧ r.state = .active)

/-- An exchange whose content may be claimed. -/
def Tables.claimable (s : Tables) (e : ExchangeRow) : Bool :=
  decide (e.terminal_at ≠ none) && s.taskEnded e &&
    (decide (e.cleanup_state = .pending) ||
      (decide (e.cleanup_state = .claimed) && s.ownerStopped e))

/-- The exchanges that `claim_cleanup` selects. -/
def cleanupCandidates (before : DateTime) (limit : Nat) (s : Tables) : List (Uuid × Nat) :=
  (((s.exchanges.rows.filter fun e => s.claimable e &&
      e.terminal_at.any fun at_ => decide (at_ ≤ Externals.toRfc3339 before)).insertionSort
    fun a b => [a.terminal_at.getD "", Externals.uuidText a.exchange_id] ≤
      [b.terminal_at.getD "", Externals.uuidText b.exchange_id]).take limit).map
    fun e => (e.exchange_id, e.cleanup_revision)

/-- The exchange under a claim. -/
def ExchangeRow.claimedBy (runtime : String) (now : DateTime) (e : ExchangeRow) : ExchangeRow :=
  { e with cleanup_state := .claimed, cleanup_owner := some runtime,
           cleanup_revision := e.cleanup_revision + 1,
           cleanup_claimed_at := some (Externals.toRfc3339 now),
           updated_at := Externals.toRfc3339 now }

/-- The statement of the loop of `claim_cleanup`. -/
def claimOne (runtime : String) (now : DateTime) (candidate : Uuid × Nat) (s : Tables) :
    Except A2aError Bool × Tables :=
  updateExchange
    (fun e => decide (e.exchange_id = candidate.1 ∧ e.cleanup_revision = candidate.2) &&
      s.claimable e && s.activeRuntime runtime)
    (ExchangeRow.claimedBy runtime now) (fun _ => rfl) s

/-- The loop of `claim_cleanup`. -/
def claimAll (runtime : String) (now : DateTime) :
    List (Uuid × Nat) → Tables → List CleanupClaim × Tables
  | [], s => ([], s)
  | candidate :: rest, s =>
    let r := claimOne runtime now candidate s
    let claims := claimAll runtime now rest r.2
    (if r.1 = .ok true then ⟨candidate.1, candidate.2 + 1⟩ :: claims.1 else claims.1, claims.2)

/-- `A2aStore::claim_cleanup`. -/
def claimCleanup (runtime : String) (before : DateTime) (limit : Nat) (now : DateTime)
    (s : Tables) : Except A2aError (List CleanupClaim) × Tables :=
  if limit = 0 ∨ 256 < limit then (.error (.config "cleanup batch must be 1..=256"), s)
  else
    let s := reconcileTerminals s
    let r := claimAll runtime now (cleanupCandidates before limit s) s
    (.ok r.1, r.2)

/-- The exchange of a claim that its runtime still holds. -/
def CleanupClaim.holds (claim : CleanupClaim) (runtime : String) (s : Tables)
    (e : ExchangeRow) : Bool :=
  decide (e.exchange_id = claim.exchange_id ∧ e.cleanup_state = .claimed ∧
    e.cleanup_owner = some runtime ∧ e.cleanup_revision = claim.revision ∧
    e.terminal_at ≠ none) && s.activeRuntime runtime && s.taskEnded e

/-- The messages and artifacts of an exchange go, and their parts with them. -/
def Tables.dropContent (s : Tables) (exchange_id : Uuid) : Tables :=
  { s with
    messages := s.messages.deleteWhere fun m => decide (m.exchange_id = exchange_id)
    messageParts := s.messageParts.deleteWhere fun p => s.messages.rows.any fun m =>
      decide (m.exchange_id = exchange_id ∧ m.message_id = p.owner_id)
    artifacts := s.artifacts.deleteWhere fun a => decide (a.exchange_id = exchange_id)
    artifactParts := s.artifactParts.deleteWhere fun p => s.artifacts.rows.any fun a =>
      decide (a.exchange_id = exchange_id ∧ a.artifact_id = p.owner_id) }

/-- The exchange without its content. -/
def ExchangeRow.cleaned (now : DateTime) (e : ExchangeRow) : ExchangeRow :=
  { e with cleanup_state := .cleaned, content_bytes := 0,
           content_cleaned_at := some (Externals.toRfc3339 now),
           updated_at := Externals.toRfc3339 now }

/-- `A2aStore::clean_claim`. -/
def cleanClaim (runtime : String) (claim : CleanupClaim) (now : DateTime) (s : Tables) :
    Except A2aError Bool × Tables :=
  if s.exchanges.rows.any (claim.holds runtime s) then
    updateExchange
      (fun e => decide (e.exchange_id = claim.exchange_id ∧ e.cleanup_owner = some runtime ∧
        e.cleanup_revision = claim.revision ∧ e.terminal_at ≠ none) && s.taskEnded e)
      (ExchangeRow.cleaned now) (fun _ => rfl) (s.dropContent claim.exchange_id)
  else (.ok false, s)

/-! ### What the calls do to the exchanges -/

omit [Externals] in
theorem readRequest_some {peer_id request_id : String} {direction : Direction} {s : Tables}
    {e : ExchangeRow} (h : readRequest peer_id direction request_id s = some e) :
    e ∈ s.exchanges.rows ∧ e.peer_id = peer_id ∧ e.direction = direction ∧
      e.request_id = request_id := by
  have hsel : decide (e.peer_id = peer_id ∧ e.direction = direction ∧
      e.request_id = request_id) = true := by
    have hfound := List.find?_some h
    exact hfound
  exact ⟨List.mem_of_find?_eq_some h, of_decide_eq_true hsel⟩

omit [Externals] in
theorem readRequest_none {peer_id request_id : String} {direction : Direction} {s : Tables}
    (h : readRequest peer_id direction request_id s = none) :
    ∀ e ∈ s.exchanges.rows, ¬ (e.peer_id = peer_id ∧ e.direction = direction ∧
      e.request_id = request_id) := by
  intro e he hsel
  exact List.find?_eq_none.mp h e he (decide_eq_true hsel)

/-- `reserve_inbound` finds the exchange of the request, or makes it. -/
theorem reserveInbound_cases {peer_id request_id request_hash context_id : String}
    {exchange_id : Uuid} {now : DateTime} {s s' : Tables}
    {r : Except A2aError InboundReservation}
    (h : reserveInbound peer_id request_id request_hash context_id exchange_id now s = (r, s')) :
    (∃ e, readRequest peer_id .inbound request_id s = some e ∧ s' = s ∧
      ((e.request_hash = request_hash ∧ r = .ok (.replay e.decode)) ∨
        (e.request_hash ≠ request_hash ∧ r = .error .conflict))) ∨
    (readRequest peer_id .inbound request_id s = none ∧ s' = s ∧
      r = .error (.storage .constraint)) ∨
    (readRequest peer_id .inbound request_id s = none ∧ ∃ t,
      s.exchanges.insert (reservedInbound exchange_id peer_id request_id request_hash context_id
        now) = some t ∧ s' = { s with exchanges := t } ∧
      r = .ok (.new (reservedInbound exchange_id peer_id request_id request_hash context_id
        now).decode)) := by
  unfold reserveInbound at h
  cases hread : readRequest peer_id .inbound request_id s with
  | some e =>
    rw [hread] at h
    by_cases hhash : e.request_hash = request_hash
    · simp only [hhash, if_true] at h
      cases h
      exact Or.inl ⟨e, rfl, rfl, Or.inl ⟨hhash, rfl⟩⟩
    · simp only [hhash, if_false] at h
      cases h
      exact Or.inl ⟨e, rfl, rfl, Or.inr ⟨hhash, rfl⟩⟩
  | none =>
    rw [hread] at h
    dsimp only at h
    cases hinsert : s.exchanges.insert (reservedInbound exchange_id peer_id request_id
        request_hash context_id now) with
    | none =>
      rw [hinsert] at h
      cases h
      exact Or.inr (Or.inl ⟨rfl, rfl, rfl⟩)
    | some t =>
      rw [hinsert] at h
      cases h
      exact Or.inr (Or.inr ⟨rfl, t, rfl, rfl, rfl⟩)

/-- `reserve_outbound` changes nothing, or makes an outbound exchange. -/
theorem reserveOutbound_cases (peer_id request_id : String) (internal_task_id : TaskId)
    (context_id : String) (exchange_id : Uuid) (now : DateTime) (s : Tables) :
    (reserveOutbound peer_id request_id internal_task_id context_id exchange_id now s).2 = s ∨
    ∃ t, s.exchanges.insert
        { reservedInbound exchange_id peer_id request_id request_id context_id now with
          direction := .outbound, internal_task_id := some internal_task_id } = some t ∧
      (reserveOutbound peer_id request_id internal_task_id context_id exchange_id now s).2 =
        { s with exchanges := t } := by
  unfold reserveOutbound
  cases readRequest peer_id .outbound request_id s with
  | some e =>
    dsimp only
    split
    · exact Or.inl rfl
    · exact Or.inl rfl
  | none =>
    dsimp only
    cases hinsert : s.exchanges.insert
        { reservedInbound exchange_id peer_id request_id request_id context_id now with
          direction := .outbound, internal_task_id := some internal_task_id } with
    | none => exact Or.inl rfl
    | some t => exact Or.inr ⟨t, rfl, rfl⟩

/-- `bind_task` fails, or binds what it may bind. -/
theorem bindTask_cases {exchange_id : Uuid} {internal_task_id : TaskId}
    {external_task_id : String} {content_bytes : Nat} {now : DateTime} {s s' : Tables}
    {r : Except A2aError Bool}
    (h : bindTask exchange_id internal_task_id external_task_id content_bytes now s = (r, s')) :
    (s' = s ∧ ∃ e, r = .error e) ∨
    (r = .ok (decide (s.exchanges.affected (unbound exchange_id) = 1)) ∧
      s' = s.updateExchanges (unbound exchange_id)
        (ExchangeRow.boundTo internal_task_id external_task_id content_bytes now)
        (fun _ => rfl)) := by
  unfold bindTask at h
  split at h
  · cases h
    exact Or.inl ⟨rfl, _, rfl⟩
  · cases h
    exact Or.inr ⟨rfl, rfl⟩

/-- `acknowledge_outbound` fails, or writes the exchanges under its identity. -/
theorem acknowledgeOutbound_cases (exchange_id : Uuid) (remote_task_id : String) (working : Bool)
    (now : DateTime) (s : Tables) :
    (acknowledgeOutbound exchange_id remote_task_id working now s).2 = s ∨
    (acknowledgeOutbound exchange_id remote_task_id working now s).2 = s.updateExchanges
      (fun e => decide (e.exchange_id = exchange_id ∧ e.state = .reserved ∧
        e.external_task_id = none))
      (fun e => { e with external_task_id := some remote_task_id,
                         state := if working then .working else .submitted,
                         revision := e.revision + 1, updated_at := Externals.toRfc3339 now })
      (fun _ => rfl) := by
  unfold acknowledgeOutbound
  dsimp only
  split
  · exact Or.inl rfl
  · exact Or.inr rfl

omit [Externals] in
/-- The exchange of a task that ended. -/
theorem Tables.ended_eq {s : Tables} {e : ExchangeRow} (h : s.taskEnded e = true) :
    ∃ task_id event, e.internal_task_id = some task_id ∧
      s.ended e = { e with state := terminalState event.status, revision := e.revision + 1,
                           terminal_at := some event.timestamp, updated_at := event.timestamp } ∧
      (event : EventRow).status.isTerminal = true := by
  unfold Tables.taskEnded at h
  cases htask : e.internal_task_id with
  | none =>
    rw [htask] at h
    cases h
  | some task_id =>
    cases hevent : lastEventRow s.db task_id with
    | none =>
      rw [htask, Option.bind_some, hevent] at h
      cases h
    | some event =>
      rw [htask, Option.bind_some, hevent] at h
      refine ⟨task_id, event, rfl, ?_, h⟩
      unfold Tables.ended
      rw [htask, Option.bind_some, hevent]

omit [Externals] in
theorem terminalState_ne_reserved (status : TaskStatus) : terminalState status ≠ .reserved := by
  cases status <;> nofun

end

end A2a

end GuiguBridge
