import GuiguBridge.Bus.FailStop
import GuiguBridge.Bus.LifecycleRefinement

/-!
# The leased dispatcher

`LeasedAcpDispatcher` (`src/src/runtime/mod.rs`) is the prepared dispatcher of the bridge: it
takes a lease before it lets the agent have a task, and hands the worker a terminal event only
through the supervisor that owns the lease.

* `LeasedWorld` — the store, the leases that wait for their execution, the tasks with a
  supervisor, and whatever the agent and its supervisors keep;
* `deliver`, `finalizeDeliveryFailure`, `cancelPrepared`, `executePrepared` — the calls the
  worker makes.  The agent and what runs under a supervisor are parameters;
* `deliver_without_lease` — **a delivery that fails before its lease is taken leaves no pending
  lease**, so the handoff of its terminal event is refused: `busy_stops_worker` runs the worker
  into it.
-/

namespace GuiguBridge

open Prog

/-- `RuntimeError`'s `Display`. -/
def PolicyLimit.display : PolicyLimit → String
  | .turns => "turns"
  | .deadline => "deadline"
  | .inactivity => "inactivity"
  | .noProgress => "no_progress"
  | .outputBytes => "output_bytes"

def RuntimeError.display : RuntimeError → String
  | .workspace => "workspace identity is unavailable"
  | .storage _ => "runtime storage failed"
  | .malformed => "runtime row is malformed"
  | .fenced => "runtime owner was fenced"
  | .busy => "workspace claim is busy"
  | .expired => "runtime lease expired"
  | .exhausted limit => "continuation policy exhausted: " ++ limit.display
  | .continuation => "continuation result is unusable"

structure LeasedWorld (τ : Type) where
  db : Db
  /-- The leases of deliveries whose execution has not started. -/
  pending : List (TaskId × Lease)
  /-- The tasks whose supervisor takes commands. -/
  active : List TaskId
  outside : τ

/-- `LeasedAcpDispatcher`: its policy, its workspace, and the code behind it. -/
structure LeasedAcpDispatcher (τ : Type) where
  workspace : Uuid
  workspace_paths : List PathBuf
  lease_ttl : Duration
  fs : FileSystem
  now : τ → DateTime × τ
  /-- The owner token that `acquire` draws, and the identities of the claims. -/
  newOwner : τ → Uuid × τ
  newClaims : τ → (Nat → Uuid) × τ
  /-- `AcpDispatcher::deliver`. -/
  agentDeliver : DispatchRequest → τ → Except DispatchError Unit × τ
  shutdown : τ → Unit × τ
  shutdownReaped : τ → Bool × τ
  /-- The execution under its supervisor, up to its answer. -/
  execution : DispatchRequest → Lease → LeasedWorld τ →
    Except DispatchError PreparedExecution × LeasedWorld τ
  /-- The supervisor's answer to a cancellation. -/
  cancellation : DispatchRequest → String → LeasedWorld τ →
    Except DispatchError FinalizationCapability × LeasedWorld τ
  /-- The supervisor's answer to a terminal event. -/
  finalization : Nat → TaskEvent → LeasedWorld τ → Option FinalizeResult × LeasedWorld τ

/-- A stretch of the dispatcher's code. -/
abbrev Leased (τ α : Type) := Prog (LeasedWorld τ) DispatchError α

namespace LeasedAcpDispatcher

variable {τ α : Type} (d : LeasedAcpDispatcher τ)

def outside (f : τ → α × τ) : Leased τ α :=
  act fun s => ((f s.outside).1, { s with outside := (f s.outside).2 })

/-- A call of the store. -/
def store (f : Db → α × Db) : Leased τ α := act fun s => ((f s.db).1, { s with db := (f s.db).2 })

/-- A call of the store whose error ends the stretch. -/
def storeOk (f : Db → Except RuntimeError α × Db) : Leased τ α := do
  match ← store f with
  | .ok value => pure value
  | .error error => Prog.throw (runtimeDispatchError error.display)

/-- The pending leases of the other tasks. -/
def others (task_id : TaskId) (s : LeasedWorld τ) : List (TaskId × Lease) :=
  s.pending.filter (·.1 ≠ task_id)

def insertPending (task_id : TaskId) (lease : Lease) : Leased τ Unit :=
  act fun s => ((), { s with pending := (task_id, lease) :: others task_id s })

/-- `pending.remove`. -/
def takePending (task_id : TaskId) : Leased τ (Option Lease) :=
  act fun s => ((s.pending.find? (·.1 = task_id)).map (·.2),
    { s with pending := others task_id s })

def insertActive (task_id : TaskId) : Leased τ Unit :=
  act fun s => ((), { s with active := task_id :: s.active.filter (· ≠ task_id) })

section

variable [Externals]

/-- `RESOURCE_NAMESPACE`. -/
def resourceNamespace : Uuid := 0x8ce9c0d782575068a369b075e9d30e21#128

/-- `ExecutionResourceKey::new`. -/
def resourceKey (endpoint : EndpointId) (workspace : Uuid) : ResourceKey :=
  ⟨Externals.newV5 resourceNamespace ("execution-resource/v1\x00" ++
    Externals.uuidText endpoint.uuid ++ "\x00" ++ Externals.uuidText workspace)⟩

/-- The lease of a delivery. -/
def acquireLease (request : DispatchRequest) : Leased τ Lease := do
  let now ← outside d.now
  let owner ← outside d.newOwner
  match ← storeOk (acquire (resourceKey request.task.to_agent d.workspace)
      request.task.task_id owner now d.lease_ttl) with
  | .acquired lease => pure lease
  | .busy => Prog.throw (.notAccepted "execution resource busy")
  | .recoveryNeeded => Prog.throw (.notAccepted "execution resource needs recovery")

/-- A delivery that holds its lease. -/
def deliverUnder (request : DispatchRequest) (lease : Lease) : Leased τ Unit := do
  let ids ← outside d.newClaims
  match ← store (claimWorkspaces d.fs lease d.workspace_paths ids) with
  | .error error => do
    let now ← outside d.now
    let _ ← store (release lease .released now)
    Prog.throw (runtimeDispatchError error.display)
  | .ok () => do
    match ← outside (d.agentDeliver request) with
    | .error error => do
      insertPending request.task.task_id lease
      Prog.throw error
    | .ok () => do
      let now ← outside d.now
      match ← store (beginContinuation lease request.delivery_id request.task.text now) with
      | .error error => do
        outside d.shutdown
        let now ← outside d.now
        let _ ← store (release lease .recoveryNeeded now)
        Prog.throw (runtimeDispatchError error.display)
      | .ok () => do
        insertPending request.task.task_id lease
        insertActive request.task.task_id

/-- `deliver`. -/
def deliver (request : DispatchRequest) : Leased τ Unit := do
  let lease ← d.acquireLease request
  d.deliverUnder request lease

/-- `SqliteRuntimeStore::continuation`. -/
def continuation (task_id : TaskId) (db : Db) : Except RuntimeError (Option Continuation) × Db :=
  match db.taskContinuations.get task_id with
  | none => (.ok none, db)
  | some row =>
    match decodeContinuation row with
    | none => (.error .malformed, db)
    | some continuation => (.ok (some continuation), db)

/-- The terminal event of a failed delivery is recorded under its lease: a turn is begun,
claimed and ended at once. -/
def recordDeliveryFailure (request : DispatchRequest) (event : TaskEvent) (lease : Lease) :
    Leased τ Unit := do
  let now ← outside d.now
  storeOk (beginContinuation lease request.delivery_id request.task.text now)
  match ← storeOk (continuation request.task.task_id) with
  | none => Prog.throw .recoveryNeeded
  | some ready => do
    let now ← outside d.now
    let state ← storeOk fun db =>
      claimTurnWithGeneration db lease ready.revision ready.runtime_generation now db
    let now ← outside d.now
    let result ← storeOk fun db =>
      finalizeTerminal db lease state.revision state.runtime_generation .terminal 0 event now db
    if result = .committed then pure () else Prog.throw .recoveryNeeded

/-- `finalize_delivery_failure`. -/
def finalizeDeliveryFailure (request : DispatchRequest) (event : TaskEvent) : Leased τ Unit := do
  match ← takePending request.task.task_id with
  | none => Prog.throw .recoveryNeeded
  | some lease => do
    if ← outside d.shutdownReaped then d.recordDeliveryFailure request event lease
    else do
      let now ← outside d.now
      let _ ← store (release lease .recoveryNeeded now)
      Prog.throw .recoveryNeeded

/-- `execute_prepared`. -/
def executePrepared (request : DispatchRequest) : Leased τ PreparedExecution := do
  match ← takePending request.task.task_id with
  | none => Prog.throw .recoveryNeeded
  | some lease => do
    insertActive request.task.task_id
    d.execution request lease

/-- `cancel_prepared`. -/
def cancelPrepared (request : DispatchRequest) (reason : String) :
    Leased τ FinalizationCapability := do
  let active ← act fun s => (decide (request.task.task_id ∈ s.active), s)
  if active then d.cancellation request (bounded reason)
  else Prog.throw .recoveryNeeded

/-- The dispatcher as the worker calls it; `execute` is never called on a prepared one. -/
def toTaskDispatcher : TaskDispatcher (LeasedWorld τ) where
  supportsPrepared := true
  deliver := d.deliver
  execute _ s := (.error .unsupportedPrepared, s)
  executePrepared := d.executePrepared
  cancelPrepared := d.cancelPrepared
  finalizeDeliveryFailure := d.finalizeDeliveryFailure
  finalize := d.finalization

/-! ### A delivery without a lease -/

/-- No lease of the task waits for its execution. -/
def NonePending (task_id : TaskId) (s : LeasedWorld τ) : Prop :=
  ∀ p ∈ s.pending, p.1 ≠ task_id

/-- Without a pending lease the handoff of any terminal event is refused. -/
theorem finalizeDeliveryFailure_refused {request : DispatchRequest} {event : TaskEvent}
    {s : LeasedWorld τ} (h : NonePending request.task.task_id s) :
    (d.finalizeDeliveryFailure request event s).1 = .error .recoveryNeeded := by
  have hnone : (s.pending.find? (·.1 = request.task.task_id)) = none := by
    rw [List.find?_eq_none]
    intro p hp
    simpa using h p hp
  have htake : takePending request.task.task_id s =
      (.ok none, { s with pending := others request.task.task_id s }) := by
    rw [takePending, act, hnone]
    rfl
  rw [finalizeDeliveryFailure, bind_of_ok htake]
  rfl

/-- Asking for the lease leaves the pending ones alone. -/
theorem acquireLease_pending (request : DispatchRequest) :
    Triple (NonePending request.task.task_id) (d.acquireLease request)
      (fun _ => NonePending request.task.task_id)
      (fun _ => NonePending request.task.task_id) := by
  have houtside : ∀ {β : Type} (f : τ → β × τ), Triple (NonePending request.task.task_id)
      (outside f) (fun _ => NonePending request.task.task_id)
      (fun _ => NonePending request.task.task_id) := fun f => Triple.act fun _ h => h
  refine Triple.bind (houtside d.now) fun now => ?_
  refine Triple.bind (houtside d.newOwner) fun owner => ?_
  refine Triple.bind (Q := fun _ => NonePending request.task.task_id) ?_ fun outcome => ?_
  · refine Triple.bind (Q := fun _ => NonePending request.task.task_id)
      (Triple.act fun _ h => h) fun answer => ?_
    cases answer with
    | ok value => exact Triple.pure fun _ h => h
    | error error => exact Triple.throw fun _ h => h
  · cases outcome with
    | acquired lease => exact Triple.pure fun _ h => h
    | busy => exact Triple.throw fun _ h => h
    | recoveryNeeded => exact Triple.throw fun _ h => h

/-- **A delivery whose lease was not granted cannot be reported**: it leaves none pending, and
the handoff of whatever terminal event the worker builds for it is refused. -/
theorem deliver_without_lease {request : DispatchRequest} {event : TaskEvent}
    {s s' : LeasedWorld τ} {e : DispatchError} (h : NonePending request.task.task_id s)
    (hfail : d.acquireLease request s = (.error e, s')) :
    d.deliver request s = (.error e, s') ∧
      (d.finalizeDeliveryFailure request event s').1 = .error .recoveryNeeded := by
  have hpending := (d.acquireLease_pending request).of_error h hfail
  exact ⟨bind_of_error hfail, d.finalizeDeliveryFailure_refused hpending⟩

end

end LeasedAcpDispatcher

/-! ### A busy lease stops the worker -/

/-- An agent that takes everything, under a workspace without paths. -/
def plainDispatcher : LeasedAcpDispatcher Nat where
  workspace := 9
  workspace_paths := []
  lease_ttl := 60000000000
  fs := noFiles
  now n := (DateTime.ofSecs 10, n)
  newOwner n := (5, n)
  newClaims n := (fun i => BitVec.ofNat 128 i, n)
  agentDeliver _ n := (.ok (), n)
  shutdown n := ((), n)
  shutdownReaped n := (true, n)
  execution _ _ s := (.error .recoveryNeeded, s)
  cancellation _ _ s := (.error .recoveryNeeded, s)
  finalization _ _ s := (none, s)

/-- Another task of the same agent. -/
def otherTask : NewTask :=
  { someNewTask with task_id := ⟨7⟩, root_task_id := ⟨7⟩ }

/-- Two tasks are admitted, and the other one holds the lease. -/
def busyStore : Db :=
  run noFiles (oneAdmission ++
    [.admitTask otherTask { someQueued with id := ⟨7⟩, task_id := ⟨7⟩ } "runtime" none,
     .acquire (LeasedAcpDispatcher.resourceKey ⟨3⟩ 9) ⟨7⟩ 4 (DateTime.ofSecs 0) 60000000000])

/-- The durable lifecycle over the dispatcher's store. -/
def storeLifecycle : TaskLifecycle (LeasedWorld Nat) where
  transition event s := ((transition event s.db).1, { s with db := (transition event s.db).2 })
  claimQueue _ s := (.ok none, s)
  markQueueSendStarted _ _ s := (.ok (), s)
  renewQueueLease _ _ s := (.ok (), s)

/-- A worker over that store; its channel holds one task and is closed. -/
def busyWorker : Worker (LeasedWorld Nat) where
  registry := [⟨⟨3⟩, .acp, true, true⟩]
  services :=
    { now := fun s => (DateTime.ofSecs 10, s), reasonFor := fun _ s => (none, s),
      activate := fun _ s => s, retire := fun _ s => s, emit := fun _ s => (.ok (), s),
      sleepUntil := fun _ s => ((), s), arm := fun s => (.stage, s), maxCapacity := 4,
      tryRecv := fun s => (if s.outside = 0 then .task someTask else .disconnected,
        { s with outside := s.outside + 1 }),
      recv := fun s => (none, s) }
  dispatchers _ := some plainDispatcher.toTaskDispatcher
  config := { limits := ⟨3, 8⟩, retry := ⟨1, .none⟩, cancellation := true, timer := false }
  lifecycle := some storeLifecycle
  deliveryIds n := ⟨BitVec.ofNat 128 n⟩
  eventIds n := ⟨BitVec.ofNat 128 (n + 100)⟩

def busyState : WorkerState (LeasedWorld Nat) := ⟨⟨busyStore, [], [], 0⟩, 0, 0, [], [], [], []⟩

/-- Every write of the run succeeded, the busy lease is reported by no event of the task, and
the worker has stopped. -/
theorem busy_stops_worker :
    (busyWorker.run 5 busyState).1 = .error (.eventWrite ⟨1⟩ 3 .taskChannelClosed) ∧
    (busyWorker.run 5 busyState).2.lost = [] ∧
    (busyWorker.run 5 busyState).2.emitted.map (·.status) = [.dispatched] ∧
    ¬ ∀ e, (busyWorker.run 5 busyState).1 = .error e →
      Worker.WriteFailed busyState (busyWorker.run 5 busyState).2 e := by
  have hlost : (busyWorker.run 5 busyState).2.lost = [] := by decide +kernel
  have herror : (busyWorker.run 5 busyState).1 =
      .error (.eventWrite ⟨1⟩ 3 .taskChannelClosed) := by decide +kernel
  refine ⟨herror, hlost, by decide +kernel, ?_⟩
  intro h
  obtain ⟨event, cause, hl, -⟩ := h _ herror
  rw [hlost] at hl
  cases hl

end GuiguBridge
