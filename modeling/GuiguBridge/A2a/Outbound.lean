import GuiguBridge.A2a.Saga

/-!
# The dispatcher of the A2A adapter

A task for a peer is sent once and then polled (`src/src/a2a/dispatcher.rs`).  Any number of
`deliver` and `execute` calls run beside each other, each stopping between two statements when the
process does; a stopped call takes no further step.

* `DispatchPhase`, `DispatchCall.step` — the two calls, one awaited operation a step;
* `OutboundEvent` — what was sent to a peer, what the peer reported, and what was answered with
  `NotAccepted`;
* `outboundRows` — what the dispatcher reads of the exchanges; **the rest of the adapter leaves it
  alone** (`beside_outboundRows`);
* `OutboundInv` — a send is counted with the calls that are about to send;
* `outbound_sends_once` — **one send for a task; and when `NotAccepted` is truthful**.
-/

namespace GuiguBridge

namespace A2a

open Relational Interleave

/-! ### The calls -/

/-- The errors of the client. -/
inductive RpcError where
  | unauthorized | tooLarge | network
  | protocol (reason : String)
  deriving DecidableEq

/-- The text of an error. -/
def RpcError.text : RpcError → String
  | .unauthorized => "A2A authentication failed"
  | .tooLarge => "A2A request exceeds configured bounds"
  | .network => "A2A network operation failed"
  | .protocol reason => "invalid A2A request: " ++ reason

def A2aError.text : A2aError → String
  | .ingress _ _ _ => "A2A ingress failed"
  | .config reason => "invalid A2A configuration: " ++ reason
  | .unsupported => "unsupported A2A protocol or method"
  | .protocol reason => "invalid A2A request: " ++ reason
  | .tooLarge => "A2A request exceeds configured bounds"
  | .conflict => "A2A request conflicts with an existing idempotency key"
  | .recoveryNeeded => "A2A recovery requires operator action"
  | .storage _ => "A2A storage operation failed"

/-- `TaskState::is_terminal`. -/
def TaskState.isTerminal : TaskState → Bool
  | .completed | .failed | .canceled | .rejected => true
  | _ => false

structure SendParams where
  protocol_version : String
  request_id : String
  context_id : String
  message : Message

/-- Where a call is: the operation that it awaits, with what it has read, or its result. -/
inductive DispatchPhase where
  | reserving
  | sending (exchange : ExchangeRecord)
  | marking (exchange : ExchangeRecord)
  | acknowledging (exchange : ExchangeRecord) (snapshot : TaskSnapshot)
  | looking
  | polling (exchange : ExchangeRecord) (remote_id : String) (left : Nat)
  | storing (exchange : ExchangeRecord) (snapshot : TaskSnapshot)
  | delivered (result : Except DispatchError Unit)
  | executed (result : Except DispatchError DispatchOutcome)

/-- A call of the dispatcher of `peer_id` for a task. -/
structure DispatchCall where
  peer_id : String
  max_polls : Nat
  task_id : TaskId
  conversation_id : ConversationId
  text : String
  phase : DispatchPhase

/-- What a call is answered in one step, and what it draws. -/
structure DispatchInput where
  answer : Answer
  remote : Except RpcError TaskSnapshot
  exchange_id : Uuid
  newId : Nat → Uuid
  now : DateTime

inductive OutboundEvent where
  | sent (peer_id : String) (task_id : TaskId) (params : SendParams)
  | reported (peer_id : String) (task_id : TaskId) (status : TaskState)
  | notAccepted (peer_id : String) (task_id : TaskId)

/-- `render_artifacts`. -/
def renderArtifacts (artifacts : List Artifact) : String :=
  joinLines (artifacts.flatMap fun artifact => artifact.parts.filterMap fun part =>
    match part with
    | .text text => some text
    | _ => none)

section

variable [Externals]

/-- `outbound_for_task`. -/
def outboundForTask (peer_id : String) (internal_task_id : TaskId) (s : Tables) :
    Except A2aError (Option ExchangeRecord) :=
  .ok ((s.exchanges.rows.find? fun e => decide (e.peer_id = peer_id ∧ e.direction = .outbound ∧
    e.internal_task_id = some internal_task_id)).map ExchangeRow.decode)

namespace DispatchCall

/-- `local_id`. -/
def localId (c : DispatchCall) : String := Externals.uuidText c.task_id.uuid

def sendParams (c : DispatchCall) : SendParams :=
  { protocol_version := "0.3.0", request_id := c.localId,
    context_id := Externals.uuidText c.conversation_id.uuid,
    message := { message_id := c.localId, role := .user, parts := [.text c.text] } }

/-- After `reserve_outbound`. -/
def afterReserve : Except A2aError InboundReservation → DispatchPhase
  | .error error => .delivered (.error (.notAccepted error.text))
  | .ok (.replay row) =>
    if row.external_task_id.isSome then .delivered (.ok ())
    else .delivered (.error .acceptanceUnknown)
  | .ok (.new row) => .sending row

/-- After `client.send`. -/
def afterSend (exchange : ExchangeRecord) : Except RpcError TaskSnapshot → DispatchPhase
  | .error .unauthorized => .delivered (.error (.notAccepted "A2A authentication failed"))
  | .error _ => .marking exchange
  | .ok snapshot =>
    if snapshot.status = .submitted ∨ snapshot.status = .working then
      .acknowledging exchange snapshot
    else .delivered (.error (.notAccepted "remote did not accept task"))

/-- After `acknowledge_outbound`. -/
def afterAcknowledge : Except A2aError Bool → DispatchPhase
  | .error _ => .delivered (.error .acceptanceUnknown)
  | .ok _ => .delivered (.ok ())

/-- After `outbound_for_task`. -/
def afterLookup (c : DispatchCall) : Except A2aError (Option ExchangeRecord) → DispatchPhase
  | .error error => .executed (.error (.executionFailed error.text))
  | .ok none => .executed (.error (.executionFailed "remote task binding missing"))
  | .ok (some exchange) =>
    match exchange.external_task_id with
    | none => .executed (.error (.executionFailed "remote task binding missing"))
    | some remote_id => .polling exchange remote_id c.max_polls

/-- After `client.get`. -/
def afterPoll (exchange : ExchangeRecord) (remote_id : String) (left : Nat) :
    Except RpcError TaskSnapshot → DispatchPhase
  | .error error => .executed (.error (.executionFailed error.text))
  | .ok snapshot =>
    match snapshot.status with
    | .submitted | .working => .polling exchange remote_id left
    | .completed => .storing exchange snapshot
    | .failed => .executed (.ok (.failed "remote_failed"))
    | .canceled => .executed (.ok (.failed "remote_cancelled"))
    | .rejected => .executed (.error (.notAccepted "remote rejected task"))
    | .inputRequired | .authRequired =>
      .executed (.error (.executionFailed "unsupported remote task state"))

/-- After `store_artifacts`. -/
def afterStore (snapshot : TaskSnapshot) : Except A2aError Nat → DispatchPhase
  | .error error => .executed (.error (.executionFailed error.text))
  | .ok _ => .executed (.ok (.completed (renderArtifacts snapshot.artifacts)))

/-- What the peer reported. -/
def reports (c : DispatchCall) : Except RpcError TaskSnapshot → List OutboundEvent
  | .error _ => []
  | .ok snapshot => [.reported c.peer_id c.task_id snapshot.status]

/-- One step of `deliver` or `execute`. -/
def step (c : DispatchCall) (i : DispatchInput) (s : Tables) :
    DispatchPhase × Tables × List OutboundEvent :=
  match c.phase with
  | .reserving =>
    let r := statement i.answer (reserveOutbound c.peer_id c.localId c.task_id
      (Externals.uuidText c.conversation_id.uuid) i.exchange_id i.now) s
    (afterReserve r.1, r.2, [])
  | .sending exchange =>
    (afterSend exchange i.remote, s, .sent c.peer_id c.task_id c.sendParams :: c.reports i.remote)
  | .marking exchange =>
    let r := statement i.answer (markAcceptanceUnknown exchange.exchange_id exchange.revision
      i.now) s
    (.delivered (.error .acceptanceUnknown), r.2, [])
  | .acknowledging exchange snapshot =>
    let r := statement i.answer (acknowledgeOutbound exchange.exchange_id snapshot.id
      (decide (snapshot.status = .working)) i.now) s
    (afterAcknowledge r.1, r.2, [])
  | .looking =>
    let r := statement i.answer (fun s => (outboundForTask c.peer_id c.task_id s, s)) s
    (c.afterLookup r.1, r.2, [])
  | .polling _ _ 0 => (.executed (.error .recoveryNeeded), s, [])
  | .polling exchange remote_id (left + 1) =>
    (afterPoll exchange remote_id left i.remote, s, c.reports i.remote)
  | .storing exchange snapshot =>
    let r := statement i.answer (storeArtifacts exchange.exchange_id snapshot.artifacts i.newId
      i.now) s
    (afterStore snapshot r.1, r.2, [])
  | .delivered result => (.delivered result, s, [])
  | .executed result => (.executed result, s, [])

/-- The call has returned. -/
def returned (c : DispatchCall) : Bool :=
  match c.phase with
  | .delivered _ | .executed _ => true
  | _ => false

omit [Externals] in
/-- The answer `NotAccepted`, as it is given. -/
def answers (c : DispatchCall) : DispatchPhase → List OutboundEvent
  | .delivered (.error (.notAccepted _)) => [.notAccepted c.peer_id c.task_id]
  | .executed (.error (.notAccepted _)) => [.notAccepted c.peer_id c.task_id]
  | _ => []

def advance (c : DispatchCall) (i : DispatchInput) (s : Tables) :
    DispatchCall × Tables × List OutboundEvent :=
  if c.returned then (c, s, [])
  else
    let r := c.step i s
    ({ c with phase := r.1 }, r.2.1, r.2.2 ++ c.answers r.1)

end DispatchCall

/-! ### The rest of the adapter -/

/-- What the rest of the bridge, the ingress, the projection and the cleanup write. -/
inductive BesideOutbound where
  | bridge (call : BridgeCall)
  | ingress (k : Request) (i : SendInput)
  | projectTaskTerminal (internal_task_id : TaskId)
  | retainedTerminalBytes
  | claimCleanup (runtime : String) (before : DateTime) (limit : Nat) (now : DateTime)
  | cleanClaim (runtime : String) (claim : CleanupClaim) (now : DateTime)

def besideOutbound (fs : FileSystem) (o : BesideOutbound) (s : Tables) : Tables :=
  match o with
  | .bridge call => { s with db := bridgeStep fs s.db call }
  | .ingress k i => (serve k i s).2.1
  | .projectTaskTerminal internal_task_id => A2a.projectTaskTerminal internal_task_id s
  | .retainedTerminalBytes => (A2a.retainedTerminalBytes s).2
  | .claimCleanup runtime before limit now => (A2a.claimCleanup runtime before limit now s).2
  | .cleanClaim runtime claim now => (A2a.cleanClaim runtime claim now s).2

/-- The calls of the dispatchers over one store. -/
def outboundSystem (fs : FileSystem) :
    System Tables DispatchCall DispatchInput BesideOutbound OutboundEvent where
  advance _ i c s := c.advance i s
  outside := besideOutbound fs

end

/-- A move of a run: a call begins, a call takes a step, or the rest of the adapter writes. -/
inductive OutboundMove where
  | deliver (peer_id : String) (task_id : TaskId) (conversation_id : ConversationId)
      (text : String)
  | execute (peer_id : String) (max_polls : Nat) (task_id : TaskId)
      (conversation_id : ConversationId) (text : String)
  | advance (index : Nat) (input : DispatchInput)
  | beside (o : BesideOutbound)

def OutboundMove.move : OutboundMove → Move DispatchCall DispatchInput BesideOutbound
  | .deliver peer_id task_id conversation_id text =>
    .start ⟨peer_id, 0, task_id, conversation_id, text, .reserving⟩
  | .execute peer_id max_polls task_id conversation_id text =>
    .start ⟨peer_id, max_polls, task_id, conversation_id, text, .looking⟩
  | .advance index input => .advance index input
  | .beside o => .outside o

/-- The tables, the calls and the log after the first `n` moves from empty tables. -/
def outboundAt [Externals] (fs : FileSystem) (moves : List OutboundMove) (n : Nat) :
    World Tables DispatchCall OutboundEvent :=
  (outboundSystem fs).worldAt Tables.empty (moves.map OutboundMove.move) n

/-! ### What the dispatcher reads of the exchanges -/

structure OutboundRow where
  exchange_id : Uuid
  peer_id : String
  request_id : String
  internal_task_id : Option TaskId
  external_task_id : Option String
  deriving DecidableEq

def ExchangeRow.outboundRow (e : ExchangeRow) : Option OutboundRow :=
  if e.direction = .outbound then
    some ⟨e.exchange_id, e.peer_id, e.request_id, e.internal_task_id, e.external_task_id⟩
  else none

def Tables.outboundRows (s : Tables) : List OutboundRow :=
  s.exchanges.rows.filterMap ExchangeRow.outboundRow

theorem mem_outboundRows {s : Tables} {a : OutboundRow} :
    a ∈ s.outboundRows ↔ ∃ e ∈ s.exchanges.rows, e.direction = .outbound ∧
      a = ⟨e.exchange_id, e.peer_id, e.request_id, e.internal_task_id, e.external_task_id⟩ := by
  unfold Tables.outboundRows ExchangeRow.outboundRow
  rw [List.mem_filterMap]
  constructor
  · intro h
    obtain ⟨e, he, hrow⟩ := h
    split at hrow
    · rename_i hdirection
      exact ⟨e, he, hdirection, (Option.some.inj hrow).symm⟩
    · cases hrow
  · intro h
    obtain ⟨e, he, hdirection, rfl⟩ := h
    exact ⟨e, he, if_pos hdirection⟩

theorem mem_updateExchanges {s : Tables} {p : ExchangeRow → Bool}
    {f : ExchangeRow → ExchangeRow} {hf : ∀ e, (f e).exchange_id = e.exchange_id}
    {e : ExchangeRow} : e ∈ (s.updateExchanges p f hf).exchanges.rows ↔
      (∃ e₀ ∈ s.exchanges.rows, p e₀ = true ∧ f e₀ = e) ∨ (e ∈ s.exchanges.rows ∧ p e = false) := by
  show e ∈ (s.exchanges.updateWhere p f hf).rows ↔ _
  exact Table.mem_updateWhere

/-- An `UPDATE` that the dispatcher does not see. -/
theorem outboundRows_updated {s : Tables} {p : ExchangeRow → Bool}
    {f : ExchangeRow → ExchangeRow} {hf : ∀ e, (f e).exchange_id = e.exchange_id}
    (h : ∀ e ∈ s.exchanges.rows, p e = true → (f e).outboundRow = e.outboundRow) :
    (s.updateExchanges p f hf).outboundRows = s.outboundRows := by
  show (s.exchanges.rows.map fun e => if p e then f e else e).filterMap ExchangeRow.outboundRow =
    s.exchanges.rows.filterMap ExchangeRow.outboundRow
  rw [List.filterMap_map]
  apply List.filterMap_congr
  intro e he
  show ExchangeRow.outboundRow (if p e then f e else e) = e.outboundRow
  by_cases hp : p e = true
  · rw [if_pos hp, h e he hp]
  · rw [if_neg hp]

/-- An outbound exchange has the task that its request is named after. -/
def Named [Externals] (rows : List OutboundRow) : Prop :=
  ∀ a ∈ rows, ∃ t : TaskId, a.internal_task_id = some t ∧ a.request_id = Externals.uuidText t.uuid

section Beside

variable [Externals] {s : Tables}

omit [Externals] in
theorem ended_outboundRow (e : ExchangeRow) : (s.ended e).outboundRow = e.outboundRow := by
  unfold Tables.ended
  split <;> rfl

omit [Externals] in
theorem reconcile_outboundRows : (reconcileTerminals s).outboundRows = s.outboundRows :=
  outboundRows_updated fun e _ _ => ended_outboundRow e

theorem claimAll_outboundRows (runtime : String) (now : DateTime)
    (candidates : List (Uuid × Nat)) :
    (claimAll runtime now candidates s).2.outboundRows = s.outboundRows := by
  induction candidates generalizing s with
  | nil => rfl
  | cons candidate rest ih =>
    have hone : (claimOne runtime now candidate s).2.outboundRows = s.outboundRows :=
      outboundRows_updated fun _ _ _ => rfl
    exact ih.trans hone

theorem reserveInbound_outboundRows (peer_id request_id request_hash context_id : String)
    (exchange_id : Uuid) (now : DateTime) :
    (reserveInbound peer_id request_id request_hash context_id exchange_id now s).2.outboundRows =
      s.outboundRows := by
  obtain ⟨⟨r, s'⟩, hcall⟩ : ∃ result, reserveInbound peer_id request_id request_hash context_id
    exchange_id now s = result := ⟨_, rfl⟩
  rw [hcall]
  rcases reserveInbound_cases hcall with ⟨-, -, rfl, -⟩ | ⟨-, rfl, -⟩ | ⟨-, t, ht, rfl, -⟩
  · rfl
  · rfl
  · show t.rows.filterMap ExchangeRow.outboundRow = s.exchanges.rows.filterMap _
    rw [((Table.insert_eq_some_iff _ _ _).mp ht).2, List.filterMap_append]
    show _ ++ [] = _
    rw [List.append_nil]

/-- A binding is for an inbound exchange: an outbound one has its task. -/
theorem bindTask_outboundRows (hnamed : Named s.outboundRows) (exchange_id : Uuid)
    (internal_task_id : TaskId) (external_task_id : String) (content_bytes : Nat) (now : DateTime) :
    (bindTask exchange_id internal_task_id external_task_id content_bytes now s).2.outboundRows =
      s.outboundRows := by
  obtain ⟨⟨r, s'⟩, hcall⟩ : ∃ result, bindTask exchange_id internal_task_id external_task_id
    content_bytes now s = result := ⟨_, rfl⟩
  rw [hcall]
  rcases bindTask_cases hcall with ⟨rfl, -⟩ | ⟨-, rfl⟩
  · rfl
  · apply outboundRows_updated
    intro e he hp
    obtain ⟨-, -, hnone, -⟩ := of_decide_eq_true hp
    by_cases hdirection : e.direction = .outbound
    · obtain ⟨t, ht, -⟩ := hnamed _ (mem_outboundRows.2 ⟨e, he, hdirection, rfl⟩)
      rw [hnone] at ht
      cases ht
    · unfold ExchangeRow.outboundRow
      rw [if_neg hdirection]
      exact if_neg hdirection

theorem storeMessage_outboundRows (exchange_id : Uuid) (message : Message) (stored_id : Uuid)
    (now : DateTime) :
    (storeMessage exchange_id message stored_id now s).2.outboundRows = s.outboundRows := by
  obtain ⟨⟨r, s'⟩, hcall⟩ : ∃ result, storeMessage exchange_id message stored_id now s = result :=
    ⟨_, rfl⟩
  rw [hcall]
  rcases storeMessage_cases hcall with ⟨rfl, -⟩ | ⟨rfl, -⟩ | ⟨total, -, hstored⟩
  · rfl
  · rfl
  · obtain ⟨-, row, t, parts, -, -, -, -, now', rfl⟩ := hstored
    exact outboundRows_updated fun _ _ _ => rfl

omit [Externals] in
theorem statement_outboundRows {α : Type} (answer : Answer)
    {f : Tables → Except A2aError α × Tables} (h : (f s).2.outboundRows = s.outboundRows) :
    (statement answer f s).2.outboundRows = s.outboundRows := by
  rcases statement_store answer f s with hs | hs
  · rw [hs]
  · rw [hs]
    exact h

theorem serve_outboundRows (hnamed : Named s.outboundRows) (k : Request) (i : SendInput) :
    (serve k i s).2.1.outboundRows = s.outboundRows := by
  cases k with
  | reserveInbound peer_id request_id request_hash context_id =>
    exact statement_outboundRows i.answer (reserveInbound_outboundRows peer_id request_id
      request_hash context_id i.id i.now)
  | storeMessage row message =>
    exact statement_outboundRows i.answer
      (storeMessage_outboundRows row.exchange_id message i.id i.now)
  | bindTask exchange_id internal_task_id external_task_id content_bytes =>
    exact statement_outboundRows i.answer (bindTask_outboundRows hnamed exchange_id
      internal_task_id external_task_id content_bytes i.now)
  | insertConversation external_id participants =>
    apply statement_outboundRows i.answer
    unfold insertConversation
    dsimp only
    split
    · split <;> rfl
    · split <;> rfl
  | admitTask task context =>
    exact statement_outboundRows i.answer (f := admitSend i task context) rfl
  | messageHeader row => rw [serve, query_store]
  | messageHashes row => rw [serve, query_store]
  | upsertAgent peer => rw [serve, query_store]
  | conversationByExternalRef external_id => rw [serve, query_store]
  | receipt key => rw [serve, query_store]
  | taskExists task_id => rw [serve, query_store]
  | getTask task_id => rw [serve, query_store]
  | exchange exchange_id => rw [serve, query_store]
  | latestEvent task_id => rw [serve, query_store]
  | validateTarget to_agent => rw [serve, busStep_store]
  | tryReserve => rw [serve, busStep_store]
  | emit => rw [serve, busStep_store]

/-- **The rest of the adapter leaves the exchanges of the dispatcher alone.** -/
theorem beside_outboundRows (fs : FileSystem) (hnamed : Named s.outboundRows)
    (o : BesideOutbound) : (besideOutbound fs o s).outboundRows = s.outboundRows := by
  cases o with
  | bridge call => rfl
  | ingress k i => exact serve_outboundRows hnamed k i
  | projectTaskTerminal internal_task_id =>
    exact outboundRows_updated fun e _ _ => ended_outboundRow e
  | retainedTerminalBytes => exact reconcile_outboundRows
  | claimCleanup runtime before limit now =>
    simp only [besideOutbound, A2a.claimCleanup]
    split
    · rfl
    · exact (claimAll_outboundRows runtime now _).trans reconcile_outboundRows
  | cleanClaim runtime claim now =>
    show (A2a.cleanClaim runtime claim now s).2.outboundRows = s.outboundRows
    unfold A2a.cleanClaim
    split
    · exact outboundRows_updated (s := s.dropContent claim.exchange_id) fun _ _ _ => rfl
    · rfl

end Beside

/-! ### The invariant -/

/-- A send to this peer for this task. -/
def OutboundEvent.sends (peer_id : String) (task_id : TaskId) : OutboundEvent → Bool
  | .sent peer task _ => decide (peer = peer_id ∧ task = task_id)
  | _ => false

/-- The call is about to send for this task. -/
def DispatchCall.sends (peer_id : String) (task_id : TaskId) (c : DispatchCall) : Bool :=
  match c.phase with
  | .sending _ => decide (c.peer_id = peer_id ∧ c.task_id = task_id)
  | _ => false

def Sent (peer_id : String) (task_id : TaskId) (log : List OutboundEvent) : Prop :=
  0 < log.countP (OutboundEvent.sends peer_id task_id)

/-- The task has an exchange with the peer. -/
def Exchanged (peer_id : String) (task_id : TaskId) (rows : List OutboundRow) : Prop :=
  ∃ a ∈ rows, a.peer_id = peer_id ∧ a.internal_task_id = some task_id

/-- The exchange that a call holds is that of its task. -/
def DispatchCall.Owns (c : DispatchCall) (exchange_id : Uuid) (rows : List OutboundRow) : Prop :=
  ∃ a ∈ rows, a.exchange_id = exchange_id ∧ a.peer_id = c.peer_id ∧
    a.internal_task_id = some c.task_id

/-- What a call knows where it is. -/
def DispatchCall.Knows (c : DispatchCall) (rows : List OutboundRow) (log : List OutboundEvent) :
    Prop :=
  match c.phase with
  | .sending exchange => c.Owns exchange.exchange_id rows
  | .acknowledging exchange _ =>
    c.Owns exchange.exchange_id rows ∧ Sent c.peer_id c.task_id log
  | .polling _ _ _ | .storing _ _ => Sent c.peer_id c.task_id log
  | _ => True

section

variable [Externals]

/-- **A task has one exchange, and its sends, those made and those about to be made, are one.** -/
structure OutboundInv (rows : List OutboundRow) (calls : List DispatchCall)
    (log : List OutboundEvent) : Prop where
  named : Named rows
  unique : ∀ a ∈ rows, ∀ b ∈ rows, a.peer_id = b.peer_id → a.request_id = b.request_id → a = b
  acked : ∀ a ∈ rows, a.external_task_id ≠ none → ∀ t, a.internal_task_id = some t →
    Sent a.peer_id t log
  reported : ∀ p t status, .reported p t status ∈ log → Sent p t log
  once : ∀ p t, log.countP (OutboundEvent.sends p t) + calls.countP (DispatchCall.sends p t) ≤ 1
  unsent : ∀ p t, ¬ Exchanged p t rows →
    log.countP (OutboundEvent.sends p t) + calls.countP (DispatchCall.sends p t) = 0
  calls : ∀ c ∈ calls, c.Knows rows log

end

/-- From `rows` to `rows'` no exchange goes, and none changes what it is for. -/
def RowsGrow (rows rows' : List OutboundRow) : Prop :=
  ∀ a ∈ rows, ∃ b ∈ rows', b.exchange_id = a.exchange_id ∧ b.peer_id = a.peer_id ∧
    b.internal_task_id = a.internal_task_id

variable {rows rows' : List OutboundRow} {calls : List DispatchCall}
  {log events : List OutboundEvent} {peer_id : String} {task_id : TaskId} {c c' : DispatchCall}

theorem Sent.later (h : Sent peer_id task_id log) : Sent peer_id task_id (log ++ events) := by
  unfold Sent at h ⊢
  rw [List.countP_append]
  omega

theorem RowsGrow.refl (rows : List OutboundRow) : RowsGrow rows rows :=
  fun a ha => ⟨a, ha, rfl, rfl, rfl⟩

theorem Exchanged.grow (h : Exchanged peer_id task_id rows) (hgrow : RowsGrow rows rows') :
    Exchanged peer_id task_id rows' := by
  obtain ⟨a, ha, hpeer, htask⟩ := h
  obtain ⟨b, hb, -, hpeer', htask'⟩ := hgrow a ha
  exact ⟨b, hb, hpeer'.trans hpeer, htask'.trans htask⟩

theorem DispatchCall.Owns.grow {exchange_id : Uuid} (h : c.Owns exchange_id rows)
    (hgrow : RowsGrow rows rows') : c.Owns exchange_id rows' := by
  obtain ⟨a, ha, hid, hpeer, htask⟩ := h
  obtain ⟨b, hb, hid', hpeer', htask'⟩ := hgrow a ha
  exact ⟨b, hb, hid'.trans hid, hpeer'.trans hpeer, htask'.trans htask⟩

theorem DispatchCall.Knows.later (h : c.Knows rows log) (hgrow : RowsGrow rows rows') :
    c.Knows rows' (log ++ events) := by
  unfold DispatchCall.Knows at h ⊢
  cases hphase : c.phase with
  | sending exchange =>
    rw [hphase] at h
    exact DispatchCall.Owns.grow h hgrow
  | acknowledging exchange snapshot =>
    rw [hphase] at h
    exact ⟨h.1.grow hgrow, h.2.later⟩
  | polling exchange remote_id left =>
    rw [hphase] at h
    exact Sent.later h
  | storing exchange snapshot =>
    rw [hphase] at h
    exact Sent.later h
  | _ => trivial

section

variable [Externals]

/-- **One step of one call**, from what it does to the exchanges and to the log: it sends what it
was about to send, or it is about to send for a task that has its exchange from this step. -/
theorem OutboundInv.step (hinv : OutboundInv rows calls log) {index : Nat}
    (hc : calls[index]? = some c) (hgrow : RowsGrow rows rows') (hnamed : Named rows')
    (hunique : ∀ a ∈ rows', ∀ b ∈ rows', a.peer_id = b.peer_id → a.request_id = b.request_id →
      a = b)
    (hacked : ∀ a ∈ rows', a.external_task_id ≠ none → ∀ t, a.internal_task_id = some t →
      Sent a.peer_id t (log ++ events))
    (hreported : ∀ p t status, .reported p t status ∈ events → Sent p t (log ++ events))
    (hweight : ∀ p t, events.countP (OutboundEvent.sends p t) + (if c'.sends p t then 1 else 0) ≤
        (if c.sends p t then 1 else 0) ∨
      (events.countP (OutboundEvent.sends p t) + (if c'.sends p t then 1 else 0) ≤ 1 ∧
        ¬ Exchanged p t rows ∧ Exchanged p t rows'))
    (hknows : c'.Knows rows' (log ++ events)) :
    OutboundInv rows' (calls.set index c') (log ++ events) where
  named := hnamed
  unique := hunique
  acked := hacked
  reported p t status h := by
    rcases List.mem_append.mp h with hold | hnew
    · exact (hinv.reported p t status hold).later
    · exact hreported p t status hnew
  once p t := by
    have hset := countP_set_add (DispatchCall.sends p t) c' hc
    have honce := hinv.once p t
    rw [List.countP_append]
    rcases hweight p t with hle | ⟨hle, hnone, -⟩
    · omega
    · have hzero := hinv.unsent p t hnone
      omega
  unsent p t hnone := by
    have hset := countP_set_add (DispatchCall.sends p t) c' hc
    have hzero := hinv.unsent p t fun h => hnone (h.grow hgrow)
    rw [List.countP_append]
    rcases hweight p t with hle | ⟨-, -, hhas⟩
    · omega
    · exact absurd hhas hnone
  calls d hd := by
    rcases List.mem_or_eq_of_mem_set hd with hold | rfl
    · exact (hinv.calls d hold).later hgrow
    · exact hknows

/-- A step that neither sends nor begins to, and leaves the exchanges alone. -/
theorem OutboundInv.quiet (hinv : OutboundInv rows calls log) {index : Nat}
    (hc : calls[index]? = some c) (hsends : ∀ p t, c'.sends p t = false)
    (hnone : ∀ p t, events.countP (OutboundEvent.sends p t) = 0)
    (hreported : ∀ p t status, .reported p t status ∈ events → Sent p t log)
    (hknows : c'.Knows rows (log ++ events)) :
    OutboundInv rows (calls.set index c') (log ++ events) := by
  refine hinv.step hc (.refl rows) hinv.named hinv.unique ?_ ?_ ?_ hknows
  · intro a ha hext t ht
    exact (hinv.acked a ha hext t ht).later
  · intro p t status h
    exact (hreported p t status h).later
  · intro p t
    left
    rw [hnone, hsends]
    exact Nat.zero_le _

/-- Nothing was reported for a task without an exchange, nor for one that is about to be sent. -/
theorem OutboundInv.unreported (hinv : OutboundInv rows calls log) {status : TaskState}
    (h : ¬ Exchanged peer_id task_id rows ∨
      ∃ d ∈ calls, DispatchCall.sends peer_id task_id d = true) :
    .reported peer_id task_id status ∉ log := by
  intro hreported
  have hsent : 0 < log.countP (OutboundEvent.sends peer_id task_id) :=
    hinv.reported peer_id task_id status hreported
  cases h with
  | inl hnone =>
    have hzero := hinv.unsent peer_id task_id hnone
    omega
  | inr hsending =>
    have hpos := List.countP_pos_iff.mpr hsending
    have honce := hinv.once peer_id task_id
    omega

end

/-! ### The steps -/

section Steps

variable [Externals] {s : Tables}

/-- **`reserve_outbound` in three cases.** -/
theorem reserveOutbound_result (peer_id request_id : String) (internal_task_id : TaskId)
    (context_id : String) (exchange_id : Uuid) (now : DateTime) (s : Tables)
    {r : Except A2aError InboundReservation × Tables}
    (h : reserveOutbound peer_id request_id internal_task_id context_id exchange_id now s = r) :
    (∃ e ∈ s.exchanges.rows, e.direction = .outbound ∧ e.peer_id = peer_id ∧
      e.request_id = request_id ∧ r.2 = s ∧
      ((∃ row, r.1 = .ok (.replay row)) ∨
        (e.internal_task_id ≠ some internal_task_id ∧ r.1 = .error .conflict))) ∨
    ((∀ a ∈ s.outboundRows, ¬ (a.peer_id = peer_id ∧ a.request_id = request_id)) ∧
      (r = (.error (.storage .constraint), s) ∨
        ∃ row, r.1 = .ok (.new row) ∧ row.exchange_id = exchange_id ∧
          r.2.outboundRows =
            s.outboundRows ++ [⟨exchange_id, peer_id, request_id, some internal_task_id, none⟩])) := by
  subst h
  unfold reserveOutbound
  cases hread : readRequest peer_id .outbound request_id s with
  | some e =>
    obtain ⟨he, hpeer, hdirection, hrequest⟩ := readRequest_some hread
    left
    refine ⟨e, he, hdirection, hpeer, hrequest, ?_⟩
    dsimp only
    by_cases htask : e.internal_task_id = some internal_task_id
    · rw [if_pos htask]
      exact ⟨rfl, Or.inl ⟨_, rfl⟩⟩
    · rw [if_neg htask]
      exact ⟨rfl, Or.inr ⟨htask, rfl⟩⟩
  | none =>
    right
    constructor
    · intro a ha hsame
      obtain ⟨e, he, hdirection, rfl⟩ := mem_outboundRows.1 ha
      exact readRequest_none hread e he ⟨hsame.1, hdirection, hsame.2⟩
    · dsimp only
      cases hinsert : s.exchanges.insert
          { reservedInbound exchange_id peer_id request_id request_id context_id now with
            direction := .outbound, internal_task_id := some internal_task_id } with
      | none => exact Or.inl rfl
      | some t =>
        refine Or.inr ⟨_, rfl, rfl, ?_⟩
        show t.rows.filterMap ExchangeRow.outboundRow = _
        rw [((Table.insert_eq_some_iff _ _ _).mp hinsert).2, List.filterMap_append]
        rfl

/-- **`acknowledge_outbound`** changes nothing, or binds the exchanges under its identity. -/
theorem acknowledgeOutbound_rows (exchange_id : Uuid) (remote_task_id : String) (working : Bool)
    (now : DateTime) {a : OutboundRow}
    (ha : a ∈ (acknowledgeOutbound exchange_id remote_task_id working now s).2.outboundRows) :
    a ∈ s.outboundRows ∨ ∃ b ∈ s.outboundRows, b.exchange_id = exchange_id ∧
      a = { b with external_task_id := some remote_task_id } := by
  rcases acknowledgeOutbound_cases exchange_id remote_task_id working now s with h | h
  · rw [h] at ha
    exact Or.inl ha
  · rw [h] at ha
    obtain ⟨e, he, hdirection, rfl⟩ := mem_outboundRows.1 ha
    rcases mem_updateExchanges.1 he with ⟨e₀, he₀, hp, rfl⟩ | ⟨he₀, -⟩
    · exact Or.inr ⟨_, mem_outboundRows.2 ⟨e₀, he₀, hdirection, rfl⟩, (of_decide_eq_true hp).1,
        rfl⟩
    · exact Or.inl (mem_outboundRows.2 ⟨e, he₀, hdirection, rfl⟩)

theorem acknowledgeOutbound_grow (exchange_id : Uuid) (remote_task_id : String) (working : Bool)
    (now : DateTime) : RowsGrow s.outboundRows
      (acknowledgeOutbound exchange_id remote_task_id working now s).2.outboundRows := by
  rcases acknowledgeOutbound_cases exchange_id remote_task_id working now s with h | h
  · rw [h]
    exact .refl _
  · rw [h]
    intro a ha
    obtain ⟨e, he, hdirection, rfl⟩ := mem_outboundRows.1 ha
    by_cases hp : e.exchange_id = exchange_id ∧ e.state = .reserved ∧ e.external_task_id = none
    · exact ⟨_, mem_outboundRows.2 ⟨_, mem_updateExchanges.2
        (Or.inl ⟨e, he, decide_eq_true hp, rfl⟩), hdirection, rfl⟩, rfl, rfl, rfl⟩
    · exact ⟨_, mem_outboundRows.2 ⟨e, mem_updateExchanges.2
        (Or.inr ⟨he, decide_eq_false hp⟩), hdirection, rfl⟩, rfl, rfl, rfl⟩

omit [Externals] in
/-- The exchange of an identity. -/
theorem outboundRow_eq {a b : OutboundRow} (ha : a ∈ s.outboundRows) (hb : b ∈ s.outboundRows)
    (hid : a.exchange_id = b.exchange_id) : a = b := by
  obtain ⟨e, he, -, rfl⟩ := mem_outboundRows.1 ha
  obtain ⟨e', he', -, rfl⟩ := mem_outboundRows.1 hb
  rw [exchange_unique he he' hid]

theorem storeArtifacts_outboundRows (exchange_id : Uuid) (list : List Artifact)
    (newId : Nat → Uuid) (now : DateTime) :
    (storeArtifacts exchange_id list newId now s).2.outboundRows = s.outboundRows := by
  obtain ⟨⟨r, s'⟩, hcall⟩ : ∃ result, storeArtifacts exchange_id list newId now s = result :=
    ⟨_, rfl⟩
  rw [hcall]
  by_cases hmany : 16 < list.length
  · simp only [storeArtifacts, hmany, if_true] at hcall
    cases hcall
    rfl
  · simp only [storeArtifacts, hmany, if_false] at hcall
    rcases Tx.commit_cases hcall with hok | ⟨rfl, -⟩
    · simp only [Tx.bind_ok, Tx.update_ok, Tx.pure_ok] at hok
      obtain ⟨total, s₁, hinsert, _, _, ⟨-, rfl⟩, -, rfl⟩ := hok
      have hframe := (insertArtifacts_frame hinsert).1
      have hrows : s₁.outboundRows = s.outboundRows := by
        unfold Tables.outboundRows
        rw [hframe]
      have hsame : (s₁.updateExchanges (fun e => decide (e.exchange_id = exchange_id))
          (ExchangeRow.recounted total now) fun _ => rfl).outboundRows = s₁.outboundRows :=
        outboundRows_updated fun _ _ _ => rfl
      exact hsame.trans hrows
    · rfl

omit [Externals] in
theorem answers_sends (phase : DispatchPhase) (p : String) (t : TaskId) :
    (c.answers phase).countP (OutboundEvent.sends p t) = 0 := by
  unfold DispatchCall.answers
  split <;> rfl

omit [Externals] in
theorem reported_answers {phase : DispatchPhase} {p : String} {t : TaskId} {status : TaskState} :
    .reported p t status ∉ c.answers phase := by
  unfold DispatchCall.answers
  split <;> simp

omit [Externals] in
theorem reports_sends (remote : Except RpcError TaskSnapshot) (p : String) (t : TaskId) :
    (c.reports remote).countP (OutboundEvent.sends p t) = 0 := by
  cases remote <;> rfl

omit [Externals] in
theorem mem_reports {remote : Except RpcError TaskSnapshot} {p : String} {t : TaskId}
    {status : TaskState} (h : .reported p t status ∈ c.reports remote) :
    p = c.peer_id ∧ t = c.task_id ∧ ∃ snapshot, remote = .ok snapshot ∧ snapshot.status = status := by
  cases remote with
  | error e => cases h
  | ok snapshot =>
    cases List.mem_singleton.mp h
    exact ⟨rfl, rfl, snapshot, rfl, rfl⟩

/-- The task of a call has no exchange when no exchange has its name. -/
theorem OutboundInv.not_exchanged (hinv : OutboundInv rows calls log)
    (h : ∀ a ∈ rows, ¬ (a.peer_id = c.peer_id ∧ a.request_id = c.localId)) :
    ¬ Exchanged c.peer_id c.task_id rows := by
  intro hexchanged
  obtain ⟨a, ha, hpeer, htask⟩ := hexchanged
  obtain ⟨t, ht, hname⟩ := hinv.named a ha
  obtain rfl : t = c.task_id := Option.some.inj (ht.symm.trans htask)
  exact h a ha ⟨hpeer, hname⟩

/-- What the statement of `reserve_outbound` leaves. -/
theorem reserve_rows (c : DispatchCall) (i : DispatchInput)
    {r : Except A2aError InboundReservation × Tables}
    (h : statement i.answer (reserveOutbound c.peer_id c.localId c.task_id
      (Externals.uuidText c.conversation_id.uuid) i.exchange_id i.now) s = r) :
    (r.2.outboundRows = s.outboundRows ∧ ∀ row, r.1 ≠ .ok (.new row)) ∨
    ((∀ a ∈ s.outboundRows, ¬ (a.peer_id = c.peer_id ∧ a.request_id = c.localId)) ∧
      r.2.outboundRows =
        s.outboundRows ++ [⟨i.exchange_id, c.peer_id, c.localId, some c.task_id, none⟩] ∧
      ∀ row, r.1 = .ok (.new row) → row.exchange_id = i.exchange_id) := by
  subst h
  obtain ⟨r, hr⟩ : ∃ r, reserveOutbound c.peer_id c.localId c.task_id
    (Externals.uuidText c.conversation_id.uuid) i.exchange_id i.now s = r := ⟨_, rfl⟩
  have hresult := reserveOutbound_result c.peer_id c.localId c.task_id _ i.exchange_id i.now s hr
  cases hanswer : i.answer with
  | failed => exact Or.inl ⟨rfl, by rintro _ ⟨⟩⟩
  | ok =>
    show (Tables.outboundRows (reserveOutbound _ _ _ _ _ _ s).2 = _ ∧ _) ∨ _
    simp only [statement, hr]
    rcases hresult with ⟨e, -, -, -, -, hs, ⟨row, hok⟩ | ⟨-, herror⟩⟩ |
      ⟨hfree, rfl | ⟨row, hok, hid, hrows⟩⟩
    · rw [hs, hok]
      exact Or.inl ⟨rfl, by rintro _ ⟨⟩⟩
    · rw [hs, herror]
      exact Or.inl ⟨rfl, by rintro _ ⟨⟩⟩
    · exact Or.inl ⟨rfl, by rintro _ ⟨⟩⟩
    · refine Or.inr ⟨hfree, hrows, ?_⟩
      intro row' hrow'
      rw [hok] at hrow'
      cases hrow'
      exact hid
  | lost =>
    simp only [statement, hr]
    rcases hresult with ⟨e, -, -, -, -, hs, -⟩ | ⟨hfree, rfl | ⟨row, -, -, hrows⟩⟩
    · rw [hs]
      exact Or.inl ⟨rfl, by rintro _ ⟨⟩⟩
    · exact Or.inl ⟨rfl, by rintro _ ⟨⟩⟩
    · exact Or.inr ⟨hfree, hrows, by rintro _ ⟨⟩⟩

/-- A call that reserved its exchange. -/
theorem OutboundInv.reserve (hinv : OutboundInv s.outboundRows calls log) {index : Nat}
    (hc : calls[index]? = some c) (i : DispatchInput)
    {r : Except A2aError InboundReservation × Tables}
    (h : statement i.answer (reserveOutbound c.peer_id c.localId c.task_id
      (Externals.uuidText c.conversation_id.uuid) i.exchange_id i.now) s = r) :
    OutboundInv r.2.outboundRows
      (calls.set index { c with phase := DispatchCall.afterReserve r.1 })
      (log ++ c.answers (DispatchCall.afterReserve r.1)) := by
  -- only a new exchange makes a call that is about to send
  have hphase : (∀ row, r.1 ≠ .ok (.new row)) →
      ∃ result, DispatchCall.afterReserve r.1 = .delivered result := by
    intro hnew
    cases hr : r.1 with
    | error e => exact ⟨_, rfl⟩
    | ok reservation =>
      cases reservation with
      | new row => exact absurd hr (hnew row)
      | replay row =>
        show ∃ result, (if row.external_task_id.isSome then _ else _) = _
        split
        · exact ⟨_, rfl⟩
        · exact ⟨_, rfl⟩
  rcases reserve_rows c i h with ⟨hrows, hnew⟩ | ⟨hfree, hrows, hid⟩
  · obtain ⟨result, hresult⟩ := hphase hnew
    rw [hrows, hresult]
    exact hinv.quiet hc (fun _ _ => rfl) (answers_sends _)
      (fun _ _ _ hmem => absurd hmem reported_answers) trivial
  · have hgrow : RowsGrow s.outboundRows r.2.outboundRows := by
      rw [hrows]
      exact fun a ha => ⟨a, List.mem_append_left _ ha, rfl, rfl, rfl⟩
    have hmem : ∀ a ∈ r.2.outboundRows, a ∈ s.outboundRows ∨
        a = ⟨i.exchange_id, c.peer_id, c.localId, some c.task_id, none⟩ := by
      intro a ha
      rw [hrows] at ha
      simpa using ha
    have hself : ⟨i.exchange_id, c.peer_id, c.localId, some c.task_id, none⟩ ∈
        r.2.outboundRows := by
      rw [hrows]
      exact List.mem_append_right _ List.mem_cons_self
    refine hinv.step hc hgrow ?_ ?_ ?_ (fun _ _ _ hmem => absurd hmem reported_answers) ?_ ?_
    · intro a ha
      rcases hmem a ha with hold | rfl
      · exact hinv.named a hold
      · exact ⟨c.task_id, rfl, rfl⟩
    · intro a ha b hb hpeer hrequest
      rcases hmem a ha with ha | rfl
      · rcases hmem b hb with hb | rfl
        · exact hinv.unique a ha b hb hpeer hrequest
        · exact absurd ⟨hpeer, hrequest⟩ (hfree a ha)
      · rcases hmem b hb with hb | rfl
        · exact absurd ⟨hpeer.symm, hrequest.symm⟩ (hfree b hb)
        · rfl
    · intro a ha hext t ht
      rcases hmem a ha with hold | rfl
      · exact (hinv.acked a hold hext t ht).later
      · exact absurd rfl hext
    · intro p t
      rw [answers_sends]
      by_cases hmine : c.peer_id = p ∧ c.task_id = t
      · right
        obtain ⟨rfl, rfl⟩ := hmine
        refine ⟨?_, hinv.not_exchanged hfree, ⟨_, hself, rfl, rfl⟩⟩
        split <;> omega
      · left
        have hnone : DispatchCall.sends p t { c with phase := DispatchCall.afterReserve r.1 } =
            false := by
          unfold DispatchCall.sends
          dsimp only
          split
          · exact decide_eq_false hmine
          · rfl
        rw [hnone]
        exact Nat.zero_le _
    · by_cases hnew : ∃ row, r.1 = .ok (.new row)
      · obtain ⟨row, hrow⟩ := hnew
        rw [hrow]
        exact ⟨_, hself, (hid row hrow).symm, rfl, rfl⟩
      · obtain ⟨result, hresult⟩ := hphase fun row hrow => hnew ⟨row, hrow⟩
        rw [hresult]
        trivial

/-- A call that sent. -/
theorem OutboundInv.send (hinv : OutboundInv rows calls log) {index : Nat}
    (hc : calls[index]? = some c) {exchange : ExchangeRecord}
    (hphase : c.phase = .sending exchange) (remote : Except RpcError TaskSnapshot) :
    OutboundInv rows (calls.set index { c with phase := DispatchCall.afterSend exchange remote })
      (log ++ (.sent c.peer_id c.task_id c.sendParams :: c.reports remote ++
        c.answers (DispatchCall.afterSend exchange remote))) := by
  have hknows := hinv.calls c (List.mem_of_getElem? hc)
  have howns : c.Owns exchange.exchange_id rows := by
    unfold DispatchCall.Knows at hknows
    rw [hphase] at hknows
    exact hknows
  have hsent : Sent c.peer_id c.task_id (log ++ (.sent c.peer_id c.task_id c.sendParams ::
      c.reports remote ++ c.answers (DispatchCall.afterSend exchange remote))) :=
    List.countP_pos_iff.mpr ⟨_, List.mem_append_right _ List.mem_cons_self, decide_eq_true ⟨rfl, rfl⟩⟩
  refine hinv.step hc (.refl rows) hinv.named hinv.unique ?_ ?_ ?_ ?_
  · intro a ha hext t ht
    exact (hinv.acked a ha hext t ht).later
  · intro p t status hmem
    rcases List.mem_append.mp hmem with hmem | hmem
    · rcases List.mem_cons.mp hmem with hmem | hmem
      · cases hmem
      · obtain ⟨rfl, rfl, -⟩ := mem_reports hmem
        exact hsent
    · exact absurd hmem reported_answers
  · intro p t
    left
    have hnext : DispatchCall.sends p t
        { c with phase := DispatchCall.afterSend exchange remote } = false := by
      unfold DispatchCall.sends DispatchCall.afterSend
      cases remote with
      | error e => cases e <;> rfl
      | ok snapshot =>
        by_cases hstatus : snapshot.status = .submitted ∨ snapshot.status = .working
        · simp only [if_pos hstatus]
        · simp only [if_neg hstatus]
    have hwas : DispatchCall.sends p t c = decide (c.peer_id = p ∧ c.task_id = t) := by
      unfold DispatchCall.sends
      rw [hphase]
    rw [List.countP_append, List.countP_cons, reports_sends, answers_sends, hnext, hwas]
    simp [OutboundEvent.sends]
  · unfold DispatchCall.Knows DispatchCall.afterSend
    cases remote with
    | error e => cases e <;> trivial
    | ok snapshot =>
      by_cases hstatus : snapshot.status = .submitted ∨ snapshot.status = .working
      · dsimp only
        rw [if_pos hstatus]
        refine ⟨howns, ?_⟩
        simpa [DispatchCall.afterSend, if_pos hstatus] using hsent
      · dsimp only
        rw [if_neg hstatus]
        trivial

/-- A call that acknowledged. -/
theorem OutboundInv.acknowledge (hinv : OutboundInv s.outboundRows calls log) {index : Nat}
    (hc : calls[index]? = some c) {exchange : ExchangeRecord} {snapshot : TaskSnapshot}
    (hphase : c.phase = .acknowledging exchange snapshot) (i : DispatchInput)
    {r : Except A2aError Bool × Tables}
    (h : statement i.answer (acknowledgeOutbound exchange.exchange_id snapshot.id
      (decide (snapshot.status = .working)) i.now) s = r) :
    OutboundInv r.2.outboundRows
      (calls.set index { c with phase := DispatchCall.afterAcknowledge r.1 })
      (log ++ c.answers (DispatchCall.afterAcknowledge r.1)) := by
  have hknows := hinv.calls c (List.mem_of_getElem? hc)
  unfold DispatchCall.Knows at hknows
  rw [hphase] at hknows
  obtain ⟨⟨b₀, hb₀, hid₀, hpeer₀, htask₀⟩, hsent⟩ := hknows
  obtain ⟨result, hresult⟩ : ∃ result, DispatchCall.afterAcknowledge r.1 = .delivered result := by
    cases r.1 with
    | error e => exact ⟨_, rfl⟩
    | ok changed => exact ⟨_, rfl⟩
  have hgrow : RowsGrow s.outboundRows r.2.outboundRows := by
    rw [← h]
    rcases statement_store i.answer (acknowledgeOutbound exchange.exchange_id snapshot.id
      (decide (snapshot.status = .working)) i.now) s with hs | hs
    · rw [hs]
      exact .refl _
    · rw [hs]
      exact acknowledgeOutbound_grow _ _ _ _
  have hback : ∀ a ∈ r.2.outboundRows, a ∈ s.outboundRows ∨
      a = { b₀ with external_task_id := some snapshot.id } := by
    intro a ha
    rw [← h] at ha
    rcases statement_store i.answer (acknowledgeOutbound exchange.exchange_id snapshot.id
      (decide (snapshot.status = .working)) i.now) s with hs | hs
    · rw [hs] at ha
      exact Or.inl ha
    · rw [hs] at ha
      rcases acknowledgeOutbound_rows _ _ _ _ ha with hold | ⟨b, hb, hid, rfl⟩
      · exact Or.inl hold
      · rw [outboundRow_eq hb hb₀ (hid.trans hid₀.symm)]
        exact Or.inr rfl
  rw [hresult]
  refine hinv.step hc hgrow ?_ ?_ ?_ (fun _ _ _ hmem => absurd hmem reported_answers) ?_ trivial
  · intro a ha
    rcases hback a ha with hold | rfl
    · exact hinv.named a hold
    · exact hinv.named b₀ hb₀
  · intro a ha b hb hpeer hrequest
    apply outboundRow_eq ha hb
    rcases hback a ha with ha | rfl
    · rcases hback b hb with hb | rfl
      · rw [hinv.unique a ha b hb hpeer hrequest]
      · rw [hinv.unique a ha b₀ hb₀ hpeer hrequest]
    · rcases hback b hb with hb | rfl
      · rw [hinv.unique b hb b₀ hb₀ hpeer.symm hrequest.symm]
      · rfl
  · intro a ha hext t ht
    rcases hback a ha with hold | rfl
    · exact (hinv.acked a hold hext t ht).later
    · have htask : t = c.task_id := Option.some.inj (ht.symm.trans htask₀)
      rw [htask]
      show Sent b₀.peer_id c.task_id _
      rw [hpeer₀]
      exact hsent.later
  · intro p t
    left
    rw [answers_sends]
    exact Nat.zero_le _

/-- What the lookup of `execute` finds. -/
theorem OutboundInv.lookup (hinv : OutboundInv s.outboundRows calls log) {exchange : ExchangeRecord}
    {remote_id : String} {left : Nat} {answer : Answer}
    (h : c.afterLookup (statement answer (fun s => (outboundForTask c.peer_id c.task_id s, s)) s).1 =
      .polling exchange remote_id left) : Sent c.peer_id c.task_id log := by
  have hfound : outboundForTask c.peer_id c.task_id s = .ok (some exchange) ∧
      exchange.external_task_id = some remote_id := by
    unfold DispatchCall.afterLookup at h
    split at h
    · cases h
    · cases h
    · rename_i row hrow
      have hok := statement_ok hrow
      rw [hok] at hrow
      split at h
      · cases h
      · rename_i remote hremote
        cases h
        exact ⟨hrow, hremote⟩
  obtain ⟨hrow, hremote⟩ := hfound
  obtain ⟨e, hfind, rfl⟩ := Option.map_eq_some_iff.mp (Except.ok.inj hrow)
  have hselected := List.find?_some hfind
  obtain ⟨hpeer, hdirection, htask⟩ := of_decide_eq_true hselected
  have hsent := hinv.acked _ (mem_outboundRows.2 ⟨e, List.mem_of_find?_eq_some hfind,
    hdirection, rfl⟩) (by
      show e.external_task_id ≠ none
      rw [show e.external_task_id = some remote_id from hremote]
      exact Option.some_ne_none _) c.task_id htask
  rw [← hpeer]
  exact hsent

theorem advance_eq (hreturned : c.returned = false) (i : DispatchInput) :
    c.advance i s = ({ c with phase := (c.step i s).1 }, (c.step i s).2.1,
      (c.step i s).2.2 ++ c.answers (c.step i s).1) := by
  unfold DispatchCall.advance
  rw [hreturned]
  rfl

/-- **The step lemma.** -/
theorem advance_inv (hinv : OutboundInv s.outboundRows calls log) {index : Nat}
    (hc : calls[index]? = some c) (i : DispatchInput) :
    OutboundInv (c.advance i s).2.1.outboundRows (calls.set index (c.advance i s).1)
      (log ++ (c.advance i s).2.2) := by
  have hknows := hinv.calls c (List.mem_of_getElem? hc)
  unfold DispatchCall.Knows at hknows
  -- a step that only answers
  have hanswer : ∀ (s' : Tables) (phase : DispatchPhase), s'.outboundRows = s.outboundRows →
      (∀ p t, DispatchCall.sends p t { c with phase := phase } = false) →
      DispatchCall.Knows { c with phase := phase } s.outboundRows (log ++ c.answers phase) →
      OutboundInv s'.outboundRows (calls.set index { c with phase := phase })
        (log ++ ([] ++ c.answers phase)) := by
    intro s' phase hrows hsends hnext
    rw [hrows, List.nil_append]
    exact hinv.quiet hc hsends (answers_sends phase)
      (fun _ _ _ hmem => absurd hmem reported_answers) hnext
  have hstatement {α : Type} {f : Tables → Except A2aError α × Tables}
      (hf : (f s).2.outboundRows = s.outboundRows) :
      (statement i.answer f s).2.outboundRows = s.outboundRows :=
    statement_outboundRows i.answer hf
  cases hphase : c.phase with
  | reserving =>
    rw [advance_eq (by unfold DispatchCall.returned; rw [hphase])]
    simp only [DispatchCall.step, hphase]
    exact hinv.reserve hc i rfl
  | sending exchange =>
    rw [advance_eq (by unfold DispatchCall.returned; rw [hphase])]
    simp only [DispatchCall.step, hphase]
    exact hinv.send hc hphase i.remote
  | marking exchange =>
    rw [advance_eq (by unfold DispatchCall.returned; rw [hphase])]
    simp only [DispatchCall.step, hphase]
    exact hanswer _ _ (hstatement (outboundRows_updated fun _ _ _ => rfl)) (fun _ _ => rfl) trivial
  | acknowledging exchange snapshot =>
    rw [advance_eq (by unfold DispatchCall.returned; rw [hphase])]
    simp only [DispatchCall.step, hphase]
    exact hinv.acknowledge hc hphase i rfl
  | looking =>
    rw [advance_eq (by unfold DispatchCall.returned; rw [hphase])]
    simp only [DispatchCall.step, hphase]
    obtain ⟨phase, hnext⟩ : ∃ phase, c.afterLookup (statement i.answer
      (fun s => (outboundForTask c.peer_id c.task_id s, s)) s).1 = phase := ⟨_, rfl⟩
    have hsent : ∀ exchange remote_id left, phase = .polling exchange remote_id left →
        Sent c.peer_id c.task_id log := by
      intro exchange remote_id left heq
      exact hinv.lookup (hnext.trans heq)
    rw [hnext]
    have hkind : (∃ exchange remote_id left, phase = .polling exchange remote_id left) ∨
        ∃ result, phase = .executed result := by
      rw [← hnext]
      unfold DispatchCall.afterLookup
      split
      · exact Or.inr ⟨_, rfl⟩
      · exact Or.inr ⟨_, rfl⟩
      · split
        · exact Or.inr ⟨_, rfl⟩
        · exact Or.inl ⟨_, _, _, rfl⟩
    refine hanswer _ phase (hstatement rfl) ?_ ?_
    · rcases hkind with ⟨exchange, remote_id, left, rfl⟩ | ⟨result, rfl⟩
      · exact fun _ _ => rfl
      · exact fun _ _ => rfl
    · rcases hkind with ⟨exchange, remote_id, left, rfl⟩ | ⟨result, rfl⟩
      · exact (hsent exchange remote_id left rfl).later
      · trivial
  | polling exchange remote_id left =>
    rw [hphase] at hknows
    rw [advance_eq (by unfold DispatchCall.returned; rw [hphase])]
    cases left with
    | zero =>
      simp only [DispatchCall.step, hphase]
      exact hanswer s _ rfl (fun _ _ => rfl) trivial
    | succ left =>
      simp only [DispatchCall.step, hphase]
      have hkind : (DispatchCall.afterPoll exchange remote_id left i.remote =
          .polling exchange remote_id left ∨
          (∃ snapshot, DispatchCall.afterPoll exchange remote_id left i.remote =
            .storing exchange snapshot)) ∨
          ∃ result, DispatchCall.afterPoll exchange remote_id left i.remote = .executed result := by
        unfold DispatchCall.afterPoll
        split
        · exact Or.inr ⟨_, rfl⟩
        · split
          · exact Or.inl (Or.inl rfl)
          · exact Or.inl (Or.inl rfl)
          · exact Or.inl (Or.inr ⟨_, rfl⟩)
          · exact Or.inr ⟨_, rfl⟩
          · exact Or.inr ⟨_, rfl⟩
          · exact Or.inr ⟨_, rfl⟩
          · exact Or.inr ⟨_, rfl⟩
          · exact Or.inr ⟨_, rfl⟩
      refine hinv.quiet hc ?_ ?_ ?_ ?_
      · rcases hkind with (h | ⟨snapshot, h⟩) | ⟨result, h⟩ <;> rw [h] <;> exact fun _ _ => rfl
      · intro p t
        rw [List.countP_append, reports_sends, answers_sends]
      · intro p t status hmem
        rcases List.mem_append.mp hmem with hmem | hmem
        · obtain ⟨rfl, rfl, -⟩ := mem_reports hmem
          exact hknows
        · exact absurd hmem reported_answers
      · rcases hkind with (h | ⟨snapshot, h⟩) | ⟨result, h⟩ <;> rw [h]
        · exact Sent.later hknows
        · exact Sent.later hknows
        · trivial
  | storing exchange snapshot =>
    rw [advance_eq (by unfold DispatchCall.returned; rw [hphase])]
    simp only [DispatchCall.step, hphase]
    obtain ⟨result, hresult⟩ : ∃ result, DispatchCall.afterStore snapshot (statement i.answer
        (storeArtifacts exchange.exchange_id snapshot.artifacts i.newId i.now) s).1 =
          .executed result := by
      unfold DispatchCall.afterStore
      split
      · exact ⟨_, rfl⟩
      · exact ⟨_, rfl⟩
    rw [hresult]
    exact hanswer _ _ (hstatement (storeArtifacts_outboundRows _ _ _ _)) (fun _ _ => rfl) trivial
  | delivered result =>
    have hsame : c.advance i s = (c, s, []) := by
      unfold DispatchCall.advance DispatchCall.returned
      rw [hphase]
      rfl
    rw [hsame]
    refine hinv.quiet hc (fun p t => ?_) (fun _ _ => rfl) (fun _ _ _ hmem => absurd hmem
      List.not_mem_nil) ?_
    · unfold DispatchCall.sends
      rw [hphase]
    · unfold DispatchCall.Knows
      rw [hphase]
      trivial
  | executed result =>
    have hsame : c.advance i s = (c, s, []) := by
      unfold DispatchCall.advance DispatchCall.returned
      rw [hphase]
      rfl
    rw [hsame]
    refine hinv.quiet hc (fun p t => ?_) (fun _ _ => rfl) (fun _ _ _ hmem => absurd hmem
      List.not_mem_nil) ?_
    · unfold DispatchCall.sends
      rw [hphase]
    · unfold DispatchCall.Knows
      rw [hphase]
      trivial

end Steps

/-! ### The answer `NotAccepted` -/

/-- A report that the peer has, or had, the task. -/
def TaskState.isTaken (status : TaskState) : Bool :=
  decide (status = .submitted ∨ status = .working) || status.isTerminal

/-- The peer reported the task as accepted, working or terminal. -/
def Reported (peer_id : String) (task_id : TaskId) (log : List OutboundEvent) : Prop :=
  ∃ status : TaskState, .reported peer_id task_id status ∈ log ∧ status.isTaken = true

/-- **`NotAccepted` is truthful**: no report of the task came before it. -/
def NotAcceptedSound (log : List OutboundEvent) : Prop :=
  ∀ n p t, log[n]? = some (.notAccepted p t) → ¬ Reported p t (log.take n)

/-- What keeps a step from an untruthful answer: the reservation of a task that was reported does
not fail, the answer to a send is not a terminal state, and a poll is not answered `rejected`. -/
def DispatchCall.Regular (c : DispatchCall) (i : DispatchInput) (log : List OutboundEvent) :
    Prop :=
  match c.phase with
  | .reserving => i.answer = .ok ∨ ¬ Reported c.peer_id c.task_id log
  | .sending _ => ∀ snapshot, i.remote = .ok snapshot → snapshot.status.isTerminal = false
  | .polling _ _ left =>
    left ≠ 0 → ∀ snapshot, i.remote = .ok snapshot → snapshot.status ≠ .rejected
  | _ => True

theorem Reported.append_right {log' : List OutboundEvent}
    (h : Reported peer_id task_id (log ++ log')) :
    Reported peer_id task_id log ∨ Reported peer_id task_id log' := by
  obtain ⟨status, hmem, htaken⟩ := h
  rcases List.mem_append.mp hmem with hmem | hmem
  · exact Or.inl ⟨status, hmem, htaken⟩
  · exact Or.inr ⟨status, hmem, htaken⟩

/-- Events without the answer. -/
theorem sound_quiet (hnone : ∀ p t, .notAccepted p t ∉ events) :
    NotAcceptedSound (log ++ events) ↔ NotAcceptedSound log := by
  constructor
  · intro h n p t hget
    have hlt : n < log.length := (List.getElem?_eq_some_iff.mp hget).1
    have hsound := h n p t (by rw [List.getElem?_append_left hlt]; exact hget)
    rwa [List.take_append_of_le_length (Nat.le_of_lt hlt)] at hsound
  · intro h n p t hget
    by_cases hlt : n < log.length
    · rw [List.getElem?_append_left hlt] at hget
      rw [List.take_append_of_le_length (Nat.le_of_lt hlt)]
      exact h n p t hget
    · rw [List.getElem?_append_right (Nat.not_lt.1 hlt)] at hget
      exact absurd (List.mem_of_getElem? hget) (hnone p t)

/-- One answer. -/
theorem sound_snoc : NotAcceptedSound (log ++ [.notAccepted peer_id task_id]) ↔
    NotAcceptedSound log ∧ ¬ Reported peer_id task_id log := by
  constructor
  · intro h
    constructor
    · intro n p t hget
      have hlt : n < log.length := (List.getElem?_eq_some_iff.mp hget).1
      have hsound := h n p t (by rw [List.getElem?_append_left hlt]; exact hget)
      rwa [List.take_append_of_le_length (Nat.le_of_lt hlt)] at hsound
    · have hsound := h log.length peer_id task_id (by simp)
      rwa [List.take_left] at hsound
  · intro h n p t hget
    by_cases hlt : n < log.length
    · rw [List.getElem?_append_left hlt] at hget
      rw [List.take_append_of_le_length (Nat.le_of_lt hlt)]
      exact h.1 n p t hget
    · have hlen : n = log.length := by
        have hbound := (List.getElem?_eq_some_iff.mp hget).1
        rw [List.length_append, List.length_singleton] at hbound
        omega
      subst hlen
      rw [List.getElem?_append_right (Nat.le_refl _), Nat.sub_self] at hget
      cases hget
      rw [List.take_left]
      exact h.2

/-- The events of a step: some that are no answer, then the answer of the phase. -/
theorem sound_step (hnone : ∀ p t, .notAccepted p t ∉ events) (phase : DispatchPhase) :
    NotAcceptedSound (log ++ (events ++ c.answers phase)) ↔ NotAcceptedSound log ∧
      (c.answers phase ≠ [] → ¬ Reported c.peer_id c.task_id (log ++ events)) := by
  rw [← List.append_assoc]
  have hanswers : c.answers phase = [] ∨
      c.answers phase = [.notAccepted c.peer_id c.task_id] := by
    unfold DispatchCall.answers
    split
    · exact Or.inr rfl
    · exact Or.inr rfl
    · exact Or.inl rfl
  rcases hanswers with h | h
  · rw [h, List.append_nil, sound_quiet hnone]
    exact ⟨fun hs => ⟨hs, fun hne => absurd rfl hne⟩, fun hs => hs.1⟩
  · rw [h, sound_snoc, sound_quiet hnone]
    exact ⟨fun hs => ⟨hs.1, fun _ => hs.2⟩, fun hs => ⟨hs.1, hs.2 (List.cons_ne_nil _ _)⟩⟩

theorem notAccepted_reports {remote : Except RpcError TaskSnapshot} {p : String} {t : TaskId} :
    .notAccepted p t ∉ c.reports remote := by
  cases remote <;> simp [DispatchCall.reports]

section

variable [Externals] {s : Tables}

/-- A reservation that fails, other than in the store, is for a task without an exchange. -/
theorem OutboundInv.reserve_refused (hinv : OutboundInv s.outboundRows calls log)
    {i : DispatchInput} {error : A2aError} (hanswer : i.answer = .ok)
    (h : (statement i.answer (reserveOutbound c.peer_id c.localId c.task_id
      (Externals.uuidText c.conversation_id.uuid) i.exchange_id i.now) s).1 = .error error) :
    ¬ Exchanged c.peer_id c.task_id s.outboundRows := by
  rw [hanswer] at h
  obtain ⟨r, hr⟩ : ∃ r, reserveOutbound c.peer_id c.localId c.task_id
    (Externals.uuidText c.conversation_id.uuid) i.exchange_id i.now s = r := ⟨_, rfl⟩
  simp only [statement, hr] at h
  rcases reserveOutbound_result c.peer_id c.localId c.task_id _ i.exchange_id i.now s hr with
    ⟨e, he, hdirection, hpeer, hrequest, -, ⟨row, hok⟩ | ⟨htask, -⟩⟩ | ⟨hfree, -⟩
  · rw [hok] at h
    cases h
  · intro hexchanged
    obtain ⟨a, ha, hapeer, hatask⟩ := hexchanged
    obtain ⟨t, ht, hname⟩ := hinv.named a ha
    obtain rfl : t = c.task_id := Option.some.inj (ht.symm.trans hatask)
    have hsame := hinv.unique a ha _ (mem_outboundRows.2 ⟨e, he, hdirection, rfl⟩)
      (hapeer.trans hpeer.symm) (hname.trans hrequest.symm)
    rw [hsame] at hatask
    exact htask hatask
  · exact hinv.not_exchanged hfree

/-- **A step keeps `NotAccepted` truthful exactly when it is regular.** -/
theorem advance_sound (hinv : OutboundInv s.outboundRows calls log) {index : Nat}
    (hc : calls[index]? = some c) (i : DispatchInput) :
    NotAcceptedSound (log ++ (c.advance i s).2.2) ↔ NotAcceptedSound log ∧ c.Regular i log := by
  have hmem := List.mem_of_getElem? hc
  have hfree : (¬ Exchanged c.peer_id c.task_id s.outboundRows ∨
      ∃ d ∈ calls, DispatchCall.sends c.peer_id c.task_id d = true) →
      ¬ Reported c.peer_id c.task_id log := by
    intro h hreported
    obtain ⟨status, hin, -⟩ := hreported
    exact hinv.unreported h hin
  -- a phase that does not answer
  have hsilent : ∀ {events : List OutboundEvent} {phase : DispatchPhase},
      (∀ p t, .notAccepted p t ∉ events) → c.answers phase = [] →
      (NotAcceptedSound (log ++ (events ++ c.answers phase)) ↔ NotAcceptedSound log ∧ True) := by
    intro events phase hnone hanswers
    rw [sound_step hnone, hanswers]
    exact and_congr_right fun _ => ⟨fun _ => trivial, fun _ hne => absurd rfl hne⟩
  unfold DispatchCall.Regular
  cases hphase : c.phase with
  | reserving =>
    rw [advance_eq (by unfold DispatchCall.returned; rw [hphase])]
    simp only [DispatchCall.step, hphase]
    rw [sound_step (fun _ _ => List.not_mem_nil), List.append_nil]
    refine and_congr_right fun _ => ?_
    by_cases hanswer : i.answer = .ok
    · refine ⟨fun _ => Or.inl hanswer, fun _ hne => hfree (Or.inl ?_)⟩
      obtain ⟨error, herror⟩ : ∃ error, (statement i.answer (reserveOutbound c.peer_id c.localId
          c.task_id (Externals.uuidText c.conversation_id.uuid) i.exchange_id i.now) s).1 =
            .error error := by
        cases hr : (statement i.answer (reserveOutbound c.peer_id c.localId
          c.task_id (Externals.uuidText c.conversation_id.uuid) i.exchange_id i.now) s).1 with
        | error error => exact ⟨error, rfl⟩
        | ok reservation =>
          rw [hr] at hne
          cases reservation with
          | new row => exact absurd rfl hne
          | replay row =>
            unfold DispatchCall.afterReserve at hne
            dsimp only at hne
            split at hne <;> exact absurd rfl hne
      exact hinv.reserve_refused hanswer herror
    · obtain ⟨error, herror⟩ : ∃ error, (statement i.answer (reserveOutbound c.peer_id c.localId
          c.task_id (Externals.uuidText c.conversation_id.uuid) i.exchange_id i.now) s).1 =
            .error error := by
        cases ha : i.answer with
        | ok => exact absurd ha hanswer
        | failed => exact ⟨_, rfl⟩
        | lost => exact ⟨_, rfl⟩
      rw [herror]
      constructor
      · intro h
        exact Or.inr (h (List.cons_ne_nil _ _))
      · intro h _
        cases h with
        | inl hok => exact absurd hok hanswer
        | inr hnot => exact hnot
  | sending exchange =>
    rw [advance_eq (by unfold DispatchCall.returned; rw [hphase])]
    simp only [DispatchCall.step, hphase]
    have hnone : ∀ p t, .notAccepted p t ∉
        (.sent c.peer_id c.task_id c.sendParams :: c.reports i.remote) := by
      intro p t h
      rcases List.mem_cons.mp h with h | h
      · cases h
      · exact notAccepted_reports h
    have hbefore : ¬ Reported c.peer_id c.task_id log := by
      refine hfree (Or.inr ⟨c, hmem, ?_⟩)
      unfold DispatchCall.sends
      rw [hphase]
      exact decide_eq_true ⟨rfl, rfl⟩
    have hreport : Reported c.peer_id c.task_id
        (log ++ (.sent c.peer_id c.task_id c.sendParams :: c.reports i.remote)) ↔
        ∃ snapshot, i.remote = .ok snapshot ∧ snapshot.status.isTaken = true := by
      constructor
      · intro h
        rcases h.append_right with h | h
        · exact absurd h hbefore
        · obtain ⟨status, hin, htaken⟩ := h
          rcases List.mem_cons.mp hin with hin | hin
          · cases hin
          · obtain ⟨-, -, snapshot, hremote, rfl⟩ := mem_reports hin
            exact ⟨snapshot, hremote, htaken⟩
      · intro h
        obtain ⟨snapshot, hremote, htaken⟩ := h
        refine ⟨snapshot.status, List.mem_append_right _ (List.mem_cons_of_mem _ ?_), htaken⟩
        rw [hremote]
        exact List.mem_singleton.mpr rfl
    rw [sound_step hnone, hreport]
    refine and_congr_right fun _ => ?_
    cases hremote : i.remote with
    | error e => simp
    | ok snapshot =>
      simp only [DispatchCall.afterSend, Except.ok.injEq, forall_eq', exists_eq_left']
      cases hstatus : snapshot.status <;>
        simp [DispatchCall.answers, TaskState.isTaken, TaskState.isTerminal]
  | polling exchange remote_id left =>
    rw [advance_eq (by unfold DispatchCall.returned; rw [hphase])]
    cases left with
    | zero =>
      simp only [DispatchCall.step, hphase]
      rw [hsilent (fun _ _ => List.not_mem_nil) rfl]
      exact and_congr_right fun _ => ⟨fun _ hne => absurd rfl hne, fun _ => trivial⟩
    | succ left =>
      simp only [DispatchCall.step, hphase]
      rw [sound_step fun _ _ => notAccepted_reports]
      refine and_congr_right fun _ => ?_
      cases hremote : i.remote with
      | error e =>
        constructor
        · intro _ _ snapshot h
          cases h
        · intro _ hne
          exact absurd rfl hne
      | ok snapshot =>
        have hreport : Reported c.peer_id c.task_id (log ++ c.reports (.ok snapshot)) ∨
            snapshot.status ≠ .rejected := by
          by_cases hrejected : snapshot.status = .rejected
          · left
            refine ⟨snapshot.status, List.mem_append_right _ (List.mem_singleton.mpr rfl), ?_⟩
            rw [hrejected]
            rfl
          · exact Or.inr hrejected
        simp only [DispatchCall.afterPoll, Except.ok.injEq, forall_eq', ne_eq,
          Nat.add_eq_zero_iff, one_ne_zero, and_false, not_false_eq_true, forall_const]
        cases hstatus : snapshot.status <;>
          simp [DispatchCall.answers]
        rw [hstatus] at hreport
        simpa using hreport
  | marking exchange =>
    rw [advance_eq (by unfold DispatchCall.returned; rw [hphase])]
    simp only [DispatchCall.step, hphase]
    exact hsilent (fun _ _ => List.not_mem_nil) rfl
  | acknowledging exchange snapshot =>
    rw [advance_eq (by unfold DispatchCall.returned; rw [hphase])]
    simp only [DispatchCall.step, hphase]
    refine hsilent (fun _ _ => List.not_mem_nil) ?_
    unfold DispatchCall.afterAcknowledge
    split <;> rfl
  | looking =>
    rw [advance_eq (by unfold DispatchCall.returned; rw [hphase])]
    simp only [DispatchCall.step, hphase]
    refine hsilent (fun _ _ => List.not_mem_nil) ?_
    unfold DispatchCall.afterLookup
    split
    · rfl
    · rfl
    · split <;> rfl
  | storing exchange snapshot =>
    rw [advance_eq (by unfold DispatchCall.returned; rw [hphase])]
    simp only [DispatchCall.step, hphase]
    refine hsilent (fun _ _ => List.not_mem_nil) ?_
    unfold DispatchCall.afterStore
    split <;> rfl
  | delivered result =>
    have hsame : c.advance i s = (c, s, []) := by
      unfold DispatchCall.advance DispatchCall.returned
      rw [hphase]
      rfl
    rw [hsame, List.append_nil]
    exact (and_iff_left trivial).symm
  | executed result =>
    have hsame : c.advance i s = (c, s, []) := by
      unfold DispatchCall.advance DispatchCall.returned
      rw [hphase]
      rfl
    rw [hsame, List.append_nil]
    exact (and_iff_left trivial).symm

end

/-! ### Every run -/

section Runs

variable [Externals] (fs : FileSystem)

/-- The step that a move makes is a regular one. -/
def OutboundMove.Regular (m : OutboundMove) (w : World Tables DispatchCall OutboundEvent) : Prop :=
  match m with
  | .advance index i => ∀ c, w.procs[index]? = some c → c.Regular i w.log
  | _ => True

/-- One move of a run. -/
theorem outbound_move (m : OutboundMove) {w : World Tables DispatchCall OutboundEvent}
    (hinv : OutboundInv w.store.outboundRows w.procs w.log) :
    let w' := (outboundSystem fs).move w m.move
    OutboundInv w'.store.outboundRows w'.procs w'.log ∧
      (NotAcceptedSound w'.log ↔ NotAcceptedSound w.log ∧ m.Regular w) := by
  -- a call that begins is about to do neither
  have hstart : ∀ c : DispatchCall, (∀ p t, c.sends p t = false) →
      c.Knows w.store.outboundRows w.log →
      OutboundInv w.store.outboundRows (w.procs ++ [c]) w.log := by
    intro c hsends hknows
    have hcount : ∀ p t, (w.procs ++ [c]).countP (DispatchCall.sends p t) =
        w.procs.countP (DispatchCall.sends p t) := by
      intro p t
      rw [List.countP_append, List.countP_singleton, hsends]
      rfl
    refine ⟨hinv.named, hinv.unique, hinv.acked, hinv.reported, ?_, ?_, ?_⟩
    · intro p t
      rw [hcount]
      exact hinv.once p t
    · intro p t
      rw [hcount]
      exact hinv.unsent p t
    · intro d hd
      rcases List.mem_append.mp hd with hold | hnew
      · exact hinv.calls d hold
      · rw [List.mem_singleton.mp hnew]
        exact hknows
  cases m with
  | deliver peer_id task_id conversation_id text =>
    exact ⟨hstart _ (fun _ _ => rfl) trivial, (and_iff_left trivial).symm⟩
  | execute peer_id max_polls task_id conversation_id text =>
    exact ⟨hstart _ (fun _ _ => rfl) trivial, (and_iff_left trivial).symm⟩
  | advance index i =>
    intro w'
    cases hc : w.procs[index]? with
    | none =>
      have hsame : w' = w := System.move_advance_none hc
      have hregular : OutboundMove.Regular (.advance index i) w := by
        intro c h
        rw [hc] at h
        cases h
      rw [hsame]
      exact ⟨hinv, (and_iff_left hregular).symm⟩
    | some c =>
      have hmoved : w' = ⟨(c.advance i w.store).2.1, w.procs.set index (c.advance i w.store).1,
          w.log ++ (c.advance i w.store).2.2⟩ := System.move_advance_some hc
      have hregular : OutboundMove.Regular (.advance index i) w ↔ c.Regular i w.log := by
        constructor
        · intro h
          exact h c hc
        · intro h d hd
          rw [hc] at hd
          cases hd
          exact h
      rw [hmoved, hregular]
      exact ⟨advance_inv hinv hc i, advance_sound hinv hc i⟩
  | beside o =>
    have hrows : (besideOutbound fs o w.store).outboundRows = w.store.outboundRows :=
      beside_outboundRows fs hinv.named o
    constructor
    · show OutboundInv (besideOutbound fs o w.store).outboundRows w.procs w.log
      rw [hrows]
      exact hinv
    · exact (and_iff_left trivial).symm

theorem outbound_invariant (moves : List OutboundMove) (n : Nat) :
    OutboundInv (outboundAt fs moves n).store.outboundRows (outboundAt fs moves n).procs
      (outboundAt fs moves n).log := by
  have hinit : OutboundInv Tables.empty.outboundRows [] [] := by
    have hrows : Tables.empty.outboundRows = [] := rfl
    rw [hrows]
    exact ⟨fun _ h => absurd h List.not_mem_nil, fun _ h => absurd h List.not_mem_nil,
      fun _ h => absurd h List.not_mem_nil, fun _ _ _ h => absurd h List.not_mem_nil,
      fun _ _ => Nat.zero_le 1, fun _ _ _ => rfl, fun _ h => absurd h List.not_mem_nil⟩
  refine System.invariant (fun w : World Tables DispatchCall OutboundEvent =>
    OutboundInv w.store.outboundRows w.procs w.log) hinit ?_ n
  intro n m hm hinv
  rw [List.getElem?_map] at hm
  obtain ⟨move, -, rfl⟩ := Option.map_eq_some_iff.mp hm
  exact (outbound_move fs move hinv).1

/-- **A task is sent at most once, and `NotAccepted` is truthful exactly while every step is
regular**, over every interleaving of the calls with each other, with crashes and with the rest of
the adapter. -/
theorem outbound_sends_once (moves : List OutboundMove) (n : Nat) :
    (∀ peer_id task_id,
      (outboundAt fs moves n).log.countP (OutboundEvent.sends peer_id task_id) ≤ 1) ∧
    (NotAcceptedSound (outboundAt fs moves n).log ↔
      ∀ k m, k < n → moves[k]? = some m → m.Regular (outboundAt fs moves k)) := by
  constructor
  · intro p t
    have honce := (outbound_invariant fs moves n).once p t
    omega
  · induction n with
    | zero =>
      have hlog : (outboundAt fs moves 0).log = [] := rfl
      constructor
      · intro _ k m hk
        exact absurd hk (Nat.not_lt_zero k)
      · intro _ n p t hget
        rw [hlog, List.getElem?_nil] at hget
        cases hget
    | succ n ih =>
      have hlast : (∀ k m, k < n + 1 → moves[k]? = some m → m.Regular (outboundAt fs moves k)) ↔
          (∀ k m, k < n → moves[k]? = some m → m.Regular (outboundAt fs moves k)) ∧
            ∀ m, moves[n]? = some m → m.Regular (outboundAt fs moves n) := by
        constructor
        · intro h
          exact ⟨fun k m hk => h k m (by omega), fun m => h n m (by omega)⟩
        · intro h k m hk hm
          by_cases hkn : k = n
          · subst hkn
            exact h.2 m hm
          · exact h.1 k m (by omega) hm
      rw [hlast, ← ih]
      cases hm : moves[n]? with
      | none =>
        have hsame : outboundAt fs moves (n + 1) = outboundAt fs moves n :=
          System.worldAt_end (by rw [List.getElem?_map, hm]; rfl)
        rw [hsame]
        constructor
        · intro h
          refine ⟨h, fun m hm' => ?_⟩
          cases hm'
        · intro h
          exact h.1
      | some m =>
        have hmoved : outboundAt fs moves (n + 1) =
            (outboundSystem fs).move (outboundAt fs moves n) m.move :=
          System.worldAt_succ (by rw [List.getElem?_map, hm]; rfl)
        rw [hmoved, (outbound_move fs m (outbound_invariant fs moves n)).2]
        refine and_congr_right fun _ => ?_
        constructor
        · intro h m' hm'
          rw [← Option.some.inj hm']
          exact h
        · intro h
          exact h m rfl

end Runs

/-- A peer that answers the send with the finished task. -/
def finishedAtOnce : List OutboundMove :=
  [.deliver "peer" ⟨1⟩ ⟨2⟩ "hello",
    .advance 0 ⟨.ok, .error .network, 3, fun _ => 4, .ofSecs 0⟩,
    .advance 0 ⟨.ok, .ok ⟨"remote-1", "2", .completed, [], false⟩, 3, fun _ => 4, .ofSecs 1⟩]

/-- What happened, and what was reported. -/
def OutboundEvent.brief : OutboundEvent → String × String × TaskId × Option TaskState
  | .sent peer_id task_id _ => ("sent", peer_id, task_id, none)
  | .reported peer_id task_id status => ("reported", peer_id, task_id, some status)
  | .notAccepted peer_id task_id => ("not accepted", peer_id, task_id, none)

theorem brief_reported {event : OutboundEvent} {peer_id : String} {task_id : TaskId}
    {status : TaskState} (h : event.brief = ("reported", peer_id, task_id, some status)) :
    event = .reported peer_id task_id status := by
  cases event <;> simp_all [OutboundEvent.brief]

theorem brief_notAccepted {event : OutboundEvent} {peer_id : String} {task_id : TaskId}
    (h : event.brief = ("not accepted", peer_id, task_id, none)) :
    event = .notAccepted peer_id task_id := by
  cases event <;> simp_all [OutboundEvent.brief]

/-- **`NotAccepted` for a task that the peer has completed.** -/
theorem completed_not_accepted :
    (outboundAt noFiles finishedAtOnce 3).log.map OutboundEvent.brief =
      [("sent", "peer", ⟨1⟩, none), ("reported", "peer", ⟨1⟩, some .completed),
        ("not accepted", "peer", ⟨1⟩, none)] ∧
    ¬ NotAcceptedSound (outboundAt noFiles finishedAtOnce 3).log := by
  have hbrief : (outboundAt noFiles finishedAtOnce 3).log.map OutboundEvent.brief =
      [("sent", "peer", ⟨1⟩, none), ("reported", "peer", ⟨1⟩, some .completed),
        ("not accepted", "peer", ⟨1⟩, none)] := by
    decide
  refine ⟨hbrief, ?_⟩
  obtain ⟨log, hlog⟩ : ∃ log, (outboundAt noFiles finishedAtOnce 3).log = log := ⟨_, rfl⟩
  rw [hlog] at hbrief ⊢
  have hat : ∀ (n : Nat) x, (log.map OutboundEvent.brief)[n]? = some x →
      ∃ event : OutboundEvent, log[n]? = some event ∧ event.brief = x := by
    intro n x hx
    rw [List.getElem?_map] at hx
    exact Option.map_eq_some_iff.mp hx
  rw [hbrief] at hat
  obtain ⟨report, hreport, hcompleted⟩ := hat 1 _ rfl
  obtain ⟨answer, hanswer, hrefused⟩ := hat 2 _ rfl
  rw [brief_reported hcompleted] at hreport
  rw [brief_notAccepted hrefused] at hanswer
  intro h
  have htake : (log.take 2)[1]? = some (.reported "peer" ⟨1⟩ .completed) := by
    rw [List.getElem?_take_of_lt (by decide)]
    exact hreport
  exact h 2 "peer" ⟨1⟩ hanswer ⟨.completed, List.mem_of_getElem? htake, rfl⟩

end A2a

end GuiguBridge
