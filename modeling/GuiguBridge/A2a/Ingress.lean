import GuiguBridge.A2a.Store
import GuiguBridge.App.System
import GuiguBridge.Bus.Worker
import GuiguBridge.Lib.Client
import GuiguBridge.Lib.Thread
import GuiguBridge.Storage.RowCodec

/-!
# The ingress of the A2A adapter

A `message/send` of a peer becomes a task (`src/src/a2a/ingress.rs`).  The path is a saga: the
exchange, its message, the conversation, the task and the binding are written one after the
other, each in its own transaction, and the process may stop between any two.

* `Request`, `serve` — the statements that the path makes, and what each does to the tables; a
  statement may fail before it took effect or after;
* `prepareSend`, `prepareIdentity`, `admitPrepared`, `bindAndSnapshot`, `send` — the path as the
  source has it;
* `Outside` — what the rest of the adapter and of the bridge writes meanwhile;
* `ingressSystem` — any number of sends over one store.
-/

namespace GuiguBridge

open Relational Interleave

namespace A2a

/-- `uuid`, of a name in bytes. -/
class NameCrates where
  /-- `Uuid::new_v5` of a name that need not be a text. -/
  newV5OfBytes : Uuid → List UInt8 → Uuid

/-! ### Identities -/

inductive WireProfile where
  | legacyOwnedV030 | a2aV030
  deriving DecidableEq

/-- `profile_tag`. -/
def profileTag : WireProfile → String
  | .legacyOwnedV030 => "legacy_owned_v030"
  | .a2aV030 => "a2a_v030"

def Role.toJson : Role → Json
  | .user => .str "user"
  | .agent => .str "agent"

def Part.toJson : Part → Json
  | .text value => .obj [("kind", .str "text"), ("text", .str value)]
  | .data value => .obj [("kind", .str "data"), ("data", value)]
  | .fileInline mime_type value =>
    .obj [("kind", .str "file_inline"), ("mime_type", .str mime_type), ("data", .str value)]
  | .fileUri uri => .obj [("kind", .str "file_uri"), ("uri", .str uri)]

def Message.toJson (m : Message) : Json :=
  .obj [("messageId", .str m.message_id), ("role", m.role.toJson),
    ("parts", .arr (m.parts.map Part.toJson))]

/-- `NormalizedSend`; its canonical bytes are those of `canonical`. -/
structure NormalizedSend where
  profile : WireProfile
  request_id : String
  context_id : String
  message : Message

section

variable [Externals] [NameCrates]

/-- The canonical text of a send. -/
def NormalizedSend.canonical (p : NormalizedSend) : String :=
  Externals.jsonText (.arr [.str (profileTag p.profile), .str p.request_id, .str p.context_id,
    p.message.toJson])

/-- The hash of a send. -/
def NormalizedSend.hash (p : NormalizedSend) : String :=
  Externals.uuidText (Externals.newV5 namespaceOid p.canonical)

/-- `external_task_id`. -/
def externalTaskId (exchange_id : Uuid) : String :=
  Externals.uuidText (Externals.newV5 namespaceOid
    ("guigu-agent-bridge:a2a:external-task:" ++ Externals.uuidText exchange_id))

/-- `u64::to_be_bytes`. -/
def beBytes (n : Nat) : List UInt8 :=
  [56, 48, 40, 32, 24, 16, 8, 0].map fun shift => UInt8.ofNat (n >>> shift)

/-- The bytes that `admission_key` hashes. -/
def admissionName (peer request_id : String) : List UInt8 :=
  "guigu-agent-bridge:a2a:admission:v1".toUTF8.toList ++ [0] ++
    beBytes peer.utf8ByteSize ++ peer.toUTF8.toList ++
    beBytes request_id.utf8ByteSize ++ request_id.toUTF8.toList

/-- `admission_key`. -/
def admissionKey (peer request_id : String) : String :=
  Externals.uuidText (NameCrates.newV5OfBytes namespaceOid (admissionName peer request_id))

/-- `Uuid::NAMESPACE_URL`. -/
def namespaceUrl : Uuid := 0x6ba7b8119dad11d180b400c04fd430c8#128

/-- `derive_peer_endpoint_id`. -/
def derivePeerEndpointId (peer : String) : EndpointId :=
  ⟨Externals.newV5 (Externals.newV5 namespaceUrl "guigu-agent-bridge/a2a-peer/v1") peer⟩

/-! ### Errors of the stages -/

/-- `storage`. -/
def storage (stage : IngressStage) : A2aError := .ingress stage .storage .sameRequest

/-- `recovery`. -/
def recovery (stage : IngressStage) : A2aError := .ingress stage .recoveryRequired .never

/-- `target_unavailable`. -/
def targetUnavailable (stage : IngressStage) : A2aError :=
  .ingress stage .targetUnavailable .policyChange

/-- `admission_error`. -/
def admissionError : BusError → A2aError
  | .queueFull | .eventBufferFull => .ingress .admission .admissionBusy .backoff
  | .taskChannelClosed | .eventSinkClosed => .ingress .admission .admissionClosed .serviceRecovery
  | .unknownTarget _ | .targetDisabled _ | .addressUnavailable _ => targetUnavailable .admission

/-! ### The statements -/

/-- What `admit` submits. -/
structure Submission where
  from_agent : EndpointId
  to_agent : EndpointId
  conversation_id : ConversationId
  text : String
  deriving DecidableEq

/-- One statement of the path. -/
inductive Request where
  | reserveInbound (peer_id request_id request_hash context_id : String)
  | messageHeader (row : ExchangeRecord)
  | messageHashes (row : ExchangeRecord)
  | storeMessage (row : ExchangeRecord) (message : Message)
  | upsertAgent (peer : String)
  | conversationByExternalRef (external_id : String)
  | insertConversation (external_id : String) (participants : List EndpointId)
  | validateTarget (to_agent : EndpointId)
  | receipt (key : String)
  | taskExists (task_id : TaskId)
  | getTask (task_id : TaskId)
  | tryReserve
  | admitTask (task : Submission) (context : AdmissionContext)
  | emit
  | bindTask (exchange_id : Uuid) (internal_task_id : TaskId) (external_task_id : String)
      (content_bytes : Nat)
  | exchange (exchange_id : Uuid)
  | latestEvent (task_id : TaskId)

/-- What a statement returns. -/
def Request.Value : Request → Type
  | .reserveInbound _ _ _ _ => InboundReservation
  | .messageHeader _ => Option (String × Role × Nat)
  | .messageHashes _ => List (Nat × String)
  | .storeMessage _ _ => Nat
  | .upsertAgent _ => Unit
  | .conversationByExternalRef _ => Option ConversationRow
  | .insertConversation _ _ => ConversationRow
  | .validateTarget _ => Unit
  | .receipt _ => Option TransportReceiptRow
  | .taskExists _ => Bool
  | .getTask _ => Option AgentTask
  | .tryReserve => Unit
  | .admitTask _ _ => ReceiptOutcome
  | .emit => Unit
  | .bindTask _ _ _ _ => Bool
  | .exchange _ => Option ExchangeRecord
  | .latestEvent _ => Option TaskEvent

/-- The reply: the value or an error. -/
abbrev Request.Answered (k : Request) : Type := Except A2aError k.Value

/-- How a statement is answered, and what the process draws and reads while it makes it. -/
structure SendInput where
  answer : Answer
  id : Uuid
  event_id : Uuid
  now : DateTime
  deadline : Option DateTime
  bus : BusError
  runtime_instance : String

/-- What the path leaves in the log. -/
inductive SendEvent where
  | admitted (key : String) (task_id : TaskId)
  deriving DecidableEq

/-- The task that the bus admits. -/
def SendInput.task (i : SendInput) (t : Submission) : NewTask :=
  { task_id := ⟨i.id⟩, root_task_id := ⟨i.id⟩, parent_task_id := none,
    from_agent := t.from_agent, to_agent := t.to_agent, conversation_id := t.conversation_id,
    reply_to := none, text := t.text, priority := .default, depth := 0, hops := 0,
    deadline := i.deadline, version := 0, version_zero := rfl }

/-- The first event of that task. -/
def SendInput.event (i : SendInput) : TaskEvent :=
  { id := ⟨i.event_id⟩, task_id := ⟨i.id⟩, seq := 1, status := .queued, timestamp := i.now,
    payload := .queued }

/-- A statement that may fail before it took effect or after. -/
def statement {α : Type} (answer : Answer) (f : Tables → Except A2aError α × Tables)
    (s : Tables) : Except A2aError α × Tables :=
  match answer with
  | .ok => f s
  | .failed => (.error (.storage .unavailable), s)
  | .lost => (.error (.storage .unavailable), (f s).2)

/-- A statement that only reads. -/
def query {α : Type} (answer : Answer) (f : Tables → Except A2aError α) (s : Tables) :
    Except A2aError α × Tables × List SendEvent :=
  match answer with
  | .ok => (f s, s, [])
  | _ => (.error (.storage .unavailable), s, [])

/-- A step of the bus that touches no table; its error is the bus's own. -/
def busStep (i : SendInput) (s : Tables) : Except A2aError Unit × Tables × List SendEvent :=
  match i.answer with
  | .ok => (.ok (), s, [])
  | _ => (.error (admissionError i.bus), s, [])

omit [NameCrates] [Externals] in
/-- A statement took effect or it did not. -/
theorem statement_store {α : Type} (answer : Answer) (f : Tables → Except A2aError α × Tables)
    (s : Tables) : (statement answer f s).2 = s ∨ (statement answer f s).2 = (f s).2 := by
  cases answer with
  | ok => exact Or.inr rfl
  | failed => exact Or.inl rfl
  | lost => exact Or.inr rfl

omit [NameCrates] [Externals] in
/-- A value comes from a statement that took effect. -/
theorem statement_ok {α : Type} {answer : Answer} {f : Tables → Except A2aError α × Tables}
    {s : Tables} {a : α} (h : (statement answer f s).1 = .ok a) :
    statement answer f s = f s := by
  cases answer with
  | ok => rfl
  | failed => cases h
  | lost => cases h

omit [NameCrates] [Externals] in
@[simp] theorem query_store {α : Type} (answer : Answer) (f : Tables → Except A2aError α)
    (s : Tables) : (query answer f s).2 = (s, []) := by
  cases answer <;> rfl

omit [NameCrates] [Externals] in
theorem query_keeps {α : Type} (answer : Answer) (f : Tables → Except A2aError α) (s : Tables) :
    (query answer f s).2.1 = s := by
  rw [query_store]

omit [NameCrates] [Externals] in
theorem query_ok {α : Type} {answer : Answer} {f : Tables → Except A2aError α} {s : Tables}
    {a : α} (h : (query answer f s).1 = .ok a) : f s = .ok a := by
  cases answer with
  | ok => exact h
  | failed => cases h
  | lost => cases h

omit [NameCrates] [Externals] in
@[simp] theorem busStep_store (i : SendInput) (s : Tables) : (busStep i s).2 = (s, []) := by
  unfold busStep
  cases i.answer <;> rfl

/-- `Repository::insert_conversation` of a conversation with a fresh identity. -/
def insertConversation (id : ConversationId) (external_id : String)
    (participants : List EndpointId) (s : Tables) : Except A2aError ConversationRow × Tables :=
  let row : ConversationRow := ⟨id, external_id, participants⟩
  if s.conversations.rows.any fun c => decide (c.external_id = external_id) then
    if s.conversations.get id = some row then (.ok row, s)
    else (.error (.storage .constraint), s)
  else
    match s.conversations.insert row with
    | some t => (.ok row, { s with conversations := t })
    | none => (.error (.storage .constraint), s)

/-- `ReliabilityStore::admit_task` under the message of the send. -/
def admitSend (i : SendInput) (task : Submission) (context : AdmissionContext) (s : Tables) :
    Except A2aError ReceiptOutcome × Tables :=
  let r := GuiguBridge.admitTask (i.task task).toAgentTask i.event i.runtime_instance
    (some context) s.db
  ((match r.1 with
    | .ok outcome => .ok outcome
    | .error _ => .error (admissionError .taskChannelClosed)), { s with db := r.2 })

/-- The log of an admission that took effect. -/
def admissionLog (i : SendInput) (task : Submission) (context : AdmissionContext) (s : Tables) :
    List SendEvent :=
  if i.answer ≠ .failed ∧ (admitSend i task context s).1 = .ok .inserted then
    [.admitted context.external_event_id ⟨i.id⟩]
  else []

/-- What a statement does. -/
def serve : (k : Request) → SendInput → Tables → k.Answered × Tables × List SendEvent
  | .reserveInbound peer_id request_id request_hash context_id, i, s =>
    let r := statement i.answer
      (A2a.reserveInbound peer_id request_id request_hash context_id i.id i.now) s
    (r.1, r.2, [])
  | .messageHeader row, i, s => query i.answer (fun s => .ok (A2a.messageHeader row.exchange_id s)) s
  | .messageHashes row, i, s => query i.answer (fun s => .ok (A2a.messageHashes row.exchange_id s)) s
  | .storeMessage row message, i, s =>
    let r := statement i.answer (A2a.storeMessage row.exchange_id message i.id i.now) s
    (r.1, r.2, [])
  | .upsertAgent _, i, s => query i.answer (fun _ => .ok ()) s
  | .conversationByExternalRef external_id, i, s =>
    query i.answer (fun s => .ok (s.conversations.rows.find? fun c =>
      decide (c.external_id = external_id))) s
  | .insertConversation external_id participants, i, s =>
    let r := statement i.answer (A2a.insertConversation ⟨i.id⟩ external_id participants) s
    (r.1, r.2, [])
  | .validateTarget _, i, s => busStep i s
  | .receipt key, i, s => query i.answer (fun s => .ok (s.db.transportReceipts.get ("a2a", key))) s
  | .taskExists task_id, i, s =>
    query i.answer (fun s => .ok (s.db.tasks.get task_id).isSome) s
  | .getTask task_id, i, s =>
    query i.answer (fun s => match GuiguBridge.getTask s.db task_id with
      | some task => .ok task
      | none => .error (.storage .unavailable)) s
  | .tryReserve, i, s => busStep i s
  | .admitTask task context, i, s =>
    let r := statement i.answer (admitSend i task context) s
    (r.1, r.2, admissionLog i task context s)
  | .emit, i, s => busStep i s
  | .bindTask exchange_id internal_task_id external_task_id content_bytes, i, s =>
    let r := statement i.answer
      (A2a.bindTask exchange_id internal_task_id external_task_id content_bytes i.now) s
    (r.1, r.2, [])
  | .exchange exchange_id, i, s =>
    query i.answer (fun s => .ok ((s.exchanges.get exchange_id).map ExchangeRow.decode)) s
  | .latestEvent task_id, i, s =>
    query i.answer (fun s => match GuiguBridge.latestEvent s.db task_id with
      | some event => .ok event
      | none => .error (.storage .unavailable)) s

def server : Server Request Request.Answered Tables SendInput SendEvent := ⟨serve⟩

/-! ### The path -/

/-- A part of the path. -/
abbrev Path (α : Type) : Type := ExceptT A2aError (Client Request Request.Answered) α

/-- Make a statement. -/
def ask (k : Request) : Path k.Value := ExceptT.mk (Client.request k)

/-- `map_err(|_| error)`. -/
def orFail {α : Type} (error : A2aError) (t : Path α) : Path α :=
  ExceptT.mk (t.run >>= fun r => match r with
    | .ok a => pure (.ok a)
    | .error _ => pure (.error error))

/-- `is_ok`: what a failure leaves is `none`. -/
def attempt {α : Type} (t : Path α) : Path (Option α) :=
  ExceptT.mk (t.run >>= fun r => match r with
    | .ok a => pure (.ok (some a))
    | .error _ => pure (.ok none))

/-- `ok_or_else`. -/
def orElse {α : Type} (error : A2aError) : Option α → Path α
  | some a => pure a
  | none => throw error

/-- `message_matches`. -/
def messageMatches (row : ExchangeRecord) (message : Message) : Path Bool := do
  let header ← ask (.messageHeader row)
  if headerMatches message header then do
    let hashes ← ask (.messageHashes row)
    match hashesMatch hashes message.parts 0 with
    | .ok found => pure found
    | .error e => throw e
  else pure false

structure PreparedSend where
  params : NormalizedSend
  row : ExchangeRecord
  to_agent : EndpointId
  task_text : String
  content_bytes : Nat

/-- The bytes that the exchange has, or gets. -/
def prepareContent (row : ExchangeRecord) (message : Message) : Path Nat := do
  let found ← messageMatches row message
  if found = true then pure row.content_bytes
  else if row.content_bytes = 0 then ask (.storeMessage row message)
  else throw (recovery .contentPersist)

/-- `prepare_send`, from its normalised parameters on. -/
def prepareSend (endpoints : String → Option EndpointId) (peer endpoint : String)
    (params : NormalizedSend) : Path PreparedSend := do
  let task_text ← orElse .unsupported (textParts params.message.parts)
  let to_agent ← orElse (targetUnavailable .endpointResolve) (endpoints endpoint)
  let reservation ← ask (.reserveInbound peer params.request_id params.hash params.context_id)
  let content_bytes ← prepareContent reservation.row params.message
  pure ⟨params, reservation.row, to_agent, task_text, content_bytes⟩

/-- `conversation`. -/
def conversation (external_id : String) (from_agent to_agent : EndpointId) :
    Path ConversationRow := do
  let found ← orFail (storage .conversation) (ask (.conversationByExternalRef external_id))
  match found with
  | some value => pure value
  | none => do
    let inserted ← attempt (ask (.insertConversation external_id [from_agent, to_agent]))
    match inserted with
    | some value => pure value
    | none => do
      let found ← orFail (storage .conversation) (ask (.conversationByExternalRef external_id))
      orElse (recovery .conversation) found

/-- `prepare_identity`. -/
def prepareIdentity (peer : String) (prepared : PreparedSend) :
    Path (EndpointId × ConversationRow) := do
  let from_agent := derivePeerEndpointId peer
  let _ ← orFail (storage .peerPersist) (ask (.upsertAgent peer))
  let conversation ← conversation (peer ++ "/" ++ prepared.params.context_id) from_agent
    prepared.to_agent
  pure (from_agent, conversation)

/-- `A2aStore::admitted_task`. -/
def admittedTask (key : String) : Path (Option TaskId) := do
  let row ← ask (.receipt key)
  match row with
  | none => pure none
  | some row =>
    match row.task_id with
    | some task_id =>
      if row.receipt_kind = .ordinary ∧ row.state = .admitted then do
        let found : Bool ← ask (.taskExists task_id)
        if found = true then pure (some task_id) else throw .recoveryNeeded
      else throw .recoveryNeeded
    | none => throw .recoveryNeeded

/-- The task that `PersistingBus::submit_inner` finds already admitted. -/
def receiptTask (key : String) : Path (Option TaskId) := do
  let row ← orFail (admissionError .taskChannelClosed) (ask (.receipt key))
  match row with
  | none => pure none
  | some row =>
    if row.receipt_kind = .ordinary ∧ row.state = .admitted then pure row.task_id
    else throw (admissionError .taskChannelClosed)

/-- The bus looks up the task that won. -/
def readWinner (task_id : TaskId) : Path Unit := do
  let task ← orFail (admissionError .taskChannelClosed) (ask (.getTask task_id))
  match task with
  | some _ => pure ()
  | none => throw (admissionError .taskChannelClosed)

/-- `PersistingBus::submit_inner` under a message. -/
def submit (task : Submission) (context : AdmissionContext) : Path Unit := do
  let _ ← ask (.validateTarget task.to_agent)
  let existing ← receiptTask context.external_event_id
  match existing with
  | some task_id => readWinner task_id
  | none => do
    let _ ← ask .tryReserve
    let outcome ← orFail (admissionError .taskChannelClosed) (ask (.admitTask task context))
    match outcome with
    | .replay (some task_id) _ => readWinner task_id
    | .replay none _ => throw (admissionError .taskChannelClosed)
    | .inserted => ask .emit

/-- The message that a send admits its task for. -/
def sendContext (key : String) (params : NormalizedSend) : AdmissionContext :=
  { transport := "a2a", external_event_id := key, room_id := params.context_id,
    thread_root := none, reply_event_id := params.message.message_id, monitor_room := none,
    monitor_generation := 0 }

/-- `if existing.is_none()`. -/
def submitUnless (existing : Option TaskId) (task : Submission) (context : AdmissionContext) :
    Path Unit :=
  match existing with
  | some _ => pure ()
  | none => submit task context

/-- `admit`. -/
def admitPrepared (peer : String) (prepared : PreparedSend) (from_agent : EndpointId)
    (conversation : ConversationRow) : Path TaskId := do
  let key := admissionKey peer prepared.params.request_id
  let existing ← admittedTask key
  submitUnless existing
    ⟨from_agent, prepared.to_agent, conversation.conversation_id, prepared.task_text⟩
    (sendContext key prepared.params)
  let winner ← admittedTask key
  let winner ← orElse (recovery .admission) winner
  let task ← orFail (storage .admission) (ask (.getTask winner))
  let task ← orElse (recovery .admission) task
  if task.from_agent = from_agent ∧ task.to_agent = prepared.to_agent ∧
      task.conversation_id = conversation.conversation_id then
    pure winner
  else throw (recovery .admission)

inductive TaskState where
  | submitted | working | completed | failed | canceled | rejected | inputRequired | authRequired
  deriving DecidableEq

/-- `project`. -/
def project : TaskStatus → TaskState
  | .queued => .submitted
  | .dispatched | .running => .working
  | .completed => .completed
  | .failed | .timedOut => .failed
  | .cancelled => .canceled

structure TaskSnapshot where
  id : String
  context_id : String
  status : TaskState
  artifacts : List Artifact
  contentExpired : Bool

/-- `output_artifacts`. -/
def outputArtifacts (row : ExchangeRecord) (event : Option TaskEvent) : List Artifact :=
  if row.content_cleaned then []
  else
    match event with
    | some { status := .completed, payload := .completed output, .. } =>
      [{ artifact_id := Externals.uuidText row.exchange_id ++ ":output", name := some "response",
         description := none, parts := [.text output] }]
    | _ => []

/-- `snapshot`. -/
def snapshot (row : ExchangeRecord) : Path TaskSnapshot := do
  let task_id ← orElse .recoveryNeeded row.internal_task_id
  let event ← orFail (storage .snapshot) (ask (.latestEvent task_id))
  let id ← orElse .recoveryNeeded row.external_task_id
  pure { id := id, context_id := row.external_context_id.getD "",
         status := (event.map fun e => project e.status).getD .submitted,
         artifacts := outputArtifacts row event, contentExpired := row.content_cleaned }

/-- The exchange is bound to `winner`, now or since an earlier copy of the send. -/
def bind (prepared : PreparedSend) (winner : TaskId) : Path Unit := do
  let external_task := externalTaskId prepared.row.exchange_id
  if prepared.row.state = .submitted then
    if prepared.row.internal_task_id = some winner ∧
        prepared.row.external_task_id = some external_task then
      pure ()
    else throw (recovery .binding)
  else do
    let changed : Bool ← ask (.bindTask prepared.row.exchange_id winner external_task
      prepared.content_bytes)
    if changed = true then pure ()
    else do
      let rebound ← ask (.exchange prepared.row.exchange_id)
      let rebound ← orElse (recovery .binding) rebound
      if rebound.internal_task_id = some winner ∧ rebound.external_task_id = some external_task
      then pure ()
      else throw (recovery .binding)

/-- `bind_and_snapshot`. -/
def bindAndSnapshot (prepared : PreparedSend) (winner : TaskId) : Path TaskSnapshot := do
  bind prepared winner
  let bound ← ask (.exchange prepared.row.exchange_id)
  let bound ← orElse (recovery .snapshot) bound
  snapshot bound

/-- `send`. -/
def send (endpoints : String → Option EndpointId) (peer endpoint : String)
    (params : NormalizedSend) : Path TaskSnapshot := do
  let prepared ← prepareSend endpoints peer endpoint params
  let (from_agent, conversation) ← prepareIdentity peer prepared
  let winner ← admitPrepared peer prepared from_agent conversation
  bindAndSnapshot prepared winner

/-- What a peer is answered, with the identity and the hash of what it sent. -/
structure Reply where
  peer : String
  request_id : String
  request_hash : String
  result : Except A2aError TaskSnapshot

/-- One `message/send`. -/
def handle (endpoints : String → Option EndpointId) (peer endpoint : String)
    (params : NormalizedSend) : Client Request Request.Answered Reply := do
  let result ← (send endpoints peer endpoint params).run
  pure ⟨peer, params.request_id, params.hash, result⟩

end

/-! ### The rest of the world -/

/-- The receipts of the messages that came through the adapter. -/
def a2aReceipts (db : Db) : List TransportReceiptRow :=
  db.transportReceipts.rows.filter fun r => decide (r.transport = "a2a")

/-- What the dispatcher, the projection and the cleanup of the adapter write, and the rest of the
bridge. -/
inductive Outside where
  | bridge (call : BridgeCall)
  | reserveOutbound (peer_id request_id : String) (internal_task_id : TaskId)
      (context_id : String) (exchange_id : Uuid) (now : DateTime)
  | acknowledgeOutbound (exchange_id : Uuid) (remote_task_id : String) (working : Bool)
      (now : DateTime)
  | markAcceptanceUnknown (exchange_id : Uuid) (expected_revision : Nat) (now : DateTime)
  | storeArtifacts (exchange_id : Uuid) (artifacts : List Artifact) (newId : Nat → Uuid)
      (now : DateTime)
  | projectTaskTerminal (internal_task_id : TaskId)
  | retainedTerminalBytes
  | claimCleanup (runtime : String) (before : DateTime) (limit : Nat) (now : DateTime)
  | cleanClaim (runtime : String) (claim : CleanupClaim) (now : DateTime)

/-- The dispatcher has the identities of outbound exchanges only. -/
def Tables.outbound (s : Tables) (exchange_id : Uuid) : Bool :=
  s.exchanges.rows.any fun e => decide (e.exchange_id = exchange_id ∧ e.direction = .outbound)

section

variable [Externals]

/-- The tables after one of them wrote.  The ingress is the only one that writes a receipt under
`a2a`: a call of the bridge that would is not one that the bridge makes. -/
def outsideStep (fs : FileSystem) (o : Outside) (s : Tables) : Tables :=
  match o with
  | .bridge call =>
    if a2aReceipts (bridgeStep fs s.db call) = a2aReceipts s.db then
      { s with db := bridgeStep fs s.db call }
    else s
  | .reserveOutbound peer_id request_id internal_task_id context_id exchange_id now =>
    (A2a.reserveOutbound peer_id request_id internal_task_id context_id exchange_id now s).2
  | .acknowledgeOutbound exchange_id remote_task_id working now =>
    if s.outbound exchange_id then
      (A2a.acknowledgeOutbound exchange_id remote_task_id working now s).2
    else s
  | .markAcceptanceUnknown exchange_id expected_revision now =>
    if s.outbound exchange_id then
      (A2a.markAcceptanceUnknown exchange_id expected_revision now s).2
    else s
  | .storeArtifacts exchange_id artifacts newId now =>
    if s.outbound exchange_id then (A2a.storeArtifacts exchange_id artifacts newId now s).2
    else s
  | .projectTaskTerminal internal_task_id => A2a.projectTaskTerminal internal_task_id s
  | .retainedTerminalBytes => (A2a.retainedTerminalBytes s).2
  | .claimCleanup runtime before limit now => (A2a.claimCleanup runtime before limit now s).2
  | .cleanClaim runtime claim now => (A2a.cleanClaim runtime claim now s).2

/-- The sends of the peers over one store. -/
def ingressSystem [NameCrates] (fs : FileSystem) :
    System Tables (Client Request Request.Answered Reply) SendInput Outside SendEvent :=
  clientSystem server (outsideStep fs)

/-- A move of the sends and of what is around them; every send starts at its beginning. -/
abbrev IngressMove : Type :=
  Move (Client Request Request.Answered Reply) SendInput Outside

/-- The tables, the sends and the log after the first `n` moves from empty tables. -/
def ingressAt [NameCrates] (fs : FileSystem) (moves : List IngressMove) (n : Nat) :
    World Tables (Client Request Request.Answered Reply) SendEvent :=
  (ingressSystem fs).worldAt Tables.empty moves n

/-- Each process of a run is a `message/send`. -/
def Sends [NameCrates] (moves : List IngressMove) : Prop :=
  ∀ t, .start t ∈ moves →
    ∃ endpoints peer endpoint params, t = handle endpoints peer endpoint params

/-! ### Rules for the path -/

section

variable {fs : FileSystem} {T : Rules server (outsideStep fs)} {α : Type}
  {c : Tables × List SendEvent} {P : Request → Prop}

/-- One statement. -/
theorem succeeds_ask {k : Request} {Q : k.Value → Tables × List SendEvent → Prop}
    (h : ∀ c', T.rely c c' → T.inv c' → T.met k c'.1 → T.needed k c' ∧
      ∀ i a, (server.serve k i c'.1).1 = .ok a → Q a (server.after k i c')) :
    Client.Succeeds T Q (ask k) c := by
  intro c' hrely hinv hmet
  exact h c' hrely hinv hmet

theorem succeeds_orElse {Q : α → Tables × List SendEvent → Prop} {error : A2aError}
    {o : Option α} (h : ∀ a, o = some a → Q a c) : Client.Succeeds T Q (orElse error o) c := by
  cases o with
  | none => exact .throw
  | some a => exact .pure (h a rfl)

theorem succeeds_orFail {Q : α → Tables × List SendEvent → Prop} {error : A2aError} {t : Path α}
    (h : Client.Succeeds T Q t c) : Client.Succeeds T Q (orFail error t) c := by
  refine Client.Keeps.bind h ?_
  intro r c hr
  cases r with
  | ok a =>
    intro b hb
    cases hb
    exact hr a rfl
  | error e =>
    intro b hb
    cases hb

omit [Externals] in
theorem only_ask {k : Request} (h : P k) : (ask k).run.Only P := Client.Only.request h

omit [Externals] in
theorem only_pure (a : α) : (pure a : Path α).run.Only P := trivial

omit [Externals] in
theorem only_throw (e : A2aError) : (throw e : Path α).run.Only P := trivial

omit [Externals] in
theorem only_orElse (error : A2aError) (o : Option α) : (orElse error o).run.Only P := by
  cases o with
  | none => trivial
  | some a => trivial

omit [Externals] in
theorem only_orFail {error : A2aError} {t : Path α} (h : t.run.Only P) :
    (orFail error t).run.Only P := by
  refine Client.Only.bind h ?_
  intro r
  cases r with
  | ok a => trivial
  | error e => trivial

omit [Externals] in
theorem only_attempt {t : Path α} (h : t.run.Only P) : (attempt t).run.Only P := by
  refine Client.Only.bind h ?_
  intro r
  cases r with
  | ok a => trivial
  | error e => trivial

/-- The statements that touch neither the content nor the binding of an exchange; a task is
admitted under the transport of the adapter. -/
def Request.Aside : Request → Prop
  | .reserveInbound _ _ _ _ | .storeMessage _ _ | .bindTask _ _ _ _ => False
  | .admitTask _ context => context.transport = "a2a"
  | _ => True

theorem prepareIdentity_aside [NameCrates] (peer : String) (prepared : PreparedSend) :
    (prepareIdentity peer prepared).run.Only Request.Aside := by
  unfold prepareIdentity
  refine Client.Only.bindT (only_orFail (only_ask trivial)) ?_
  intro _
  refine Client.Only.bindT ?_ fun conversation => only_pure _
  unfold conversation
  refine Client.Only.bindT (only_orFail (only_ask trivial)) ?_
  intro found
  cases found with
  | some value => exact only_pure value
  | none =>
    refine Client.Only.bindT (only_attempt (only_ask trivial)) ?_
    intro inserted
    cases inserted with
    | some value => exact only_pure value
    | none =>
      refine Client.Only.bindT (only_orFail (only_ask trivial)) ?_
      intro found
      exact only_orElse _ found

omit [Externals] in
theorem admittedTask_aside (key : String) : (admittedTask key).run.Only Request.Aside := by
  unfold admittedTask
  refine Client.Only.bindT (only_ask trivial) ?_
  intro row
  cases row with
  | none => exact only_pure none
  | some row =>
    dsimp only
    cases row.task_id with
    | none => exact only_throw _
    | some task_id =>
      dsimp only
      split
      · refine Client.Only.bindT (only_ask trivial) ?_
        intro found
        cases found with
        | true => exact only_pure _
        | false => exact only_throw _
      · exact only_throw _

omit [Externals] in
theorem readWinner_aside (task_id : TaskId) : (readWinner task_id).run.Only Request.Aside := by
  unfold readWinner
  refine Client.Only.bindT (only_orFail (only_ask trivial)) ?_
  intro task
  cases task with
  | some task => exact only_pure ()
  | none => exact only_throw _

omit [Externals] in
theorem submit_aside (task : Submission) {context : AdmissionContext}
    (hcontext : context.transport = "a2a") : (submit task context).run.Only Request.Aside := by
  unfold submit
  refine Client.Only.bindT (only_ask trivial) fun _ => ?_
  refine Client.Only.bindT ?_ ?_
  · unfold receiptTask
    refine Client.Only.bindT (only_orFail (only_ask trivial)) ?_
    intro row
    cases row with
    | none => exact only_pure none
    | some row =>
      dsimp only
      split
      · exact only_pure _
      · exact only_throw _
  · intro existing
    cases existing with
    | some task_id => exact readWinner_aside task_id
    | none =>
      refine Client.Only.bindT (only_ask trivial) fun _ => ?_
      refine Client.Only.bindT (only_orFail (only_ask hcontext)) ?_
      intro outcome
      cases outcome with
      | inserted => exact only_ask trivial
      | replay task_id result_code =>
        cases task_id with
        | some task_id => exact readWinner_aside task_id
        | none => exact only_throw _

theorem admit_aside [NameCrates] (peer : String) (prepared : PreparedSend)
    (from_agent : EndpointId) (conversation : ConversationRow) :
    (admitPrepared peer prepared from_agent conversation).run.Only Request.Aside := by
  unfold admitPrepared
  refine Client.Only.bindT (admittedTask_aside _) fun existing => ?_
  refine Client.Only.bindT ?_ fun _ => ?_
  · cases existing with
    | some task_id => exact only_pure ()
    | none => exact submit_aside _ rfl
  · refine Client.Only.bindT (admittedTask_aside _) fun winner => ?_
    refine Client.Only.bindT (only_orElse _ winner) fun winner => ?_
    refine Client.Only.bindT (only_orFail (only_ask trivial)) fun task => ?_
    refine Client.Only.bindT (only_orElse _ task) fun task => ?_
    split
    · exact only_pure winner
    · exact only_throw _

theorem snapshot_aside [NameCrates] (row : ExchangeRecord) :
    (snapshot row).run.Only Request.Aside := by
  unfold snapshot
  refine Client.Only.bindT (only_orElse _ _) fun task_id => ?_
  refine Client.Only.bindT (only_orFail (only_ask trivial)) fun event => ?_
  exact Client.Only.bindT (only_orElse _ _) fun id => only_pure _

end

end

end A2a

end GuiguBridge
