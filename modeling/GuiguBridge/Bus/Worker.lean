import GuiguBridge.Lib.Program
import GuiguBridge.Runtime.Lifecycle

/-!
# The worker

`Worker::process` drives one task from its first event to its last; `Worker::run` feeds it
from the task channel (`src/src/bus/worker.rs`).

The worker talks to services: clock, cancellation, event sink, durable lifecycle, dispatcher.
Each is a function of a world `σ` that answers and moves the world, so a statement over all
worlds is one over every sequence of answers.  A race between a stage, a cancellation and the
deadline is decided by the world as well.

* `WorkerState` — the world, the identities drawn so far, and four lists the code does not
  have: the tasks it received, the events it published, those whose write failed, and the
  terminal events a dispatcher would not take over;
* `emit`, `terminate`, `finalizeCapability` — writing one event;
* `attemptOnce` — the body of the attempt loop: `again` is its `continue`, and **carries the
  proof that the policy allows another attempt**, by which the loop terminates;
* `process`, `runLoop` — one task, and the loop over the queue.
-/

namespace GuiguBridge

/-! ### What the worker is handed -/

inductive TransportType where
  | acp | matrix | http | a2a
  deriving DecidableEq

/-- The `Debug` text of a transport. -/
def TransportType.debug : TransportType → String
  | .acp => "Acp"
  | .matrix => "Matrix"
  | .http => "Http"
  | .a2a => "A2a"

structure RegisteredEndpoint where
  id : EndpointId
  transport : TransportType
  enabled : Bool
  addressable : Bool
  deriving DecidableEq

inductive BusError where
  | unknownTarget (endpoint_id : EndpointId)
  | targetDisabled (endpoint_id : EndpointId)
  | addressUnavailable (endpoint_id : EndpointId)
  | queueFull
  | eventBufferFull
  | taskChannelClosed
  | eventSinkClosed
  deriving DecidableEq

inductive WorkerError where
  | eventStreamClosed (task_id : TaskId) (seq : Nat)
  | eventBackpressure (task_id : TaskId) (seq : Nat)
  | eventWrite (task_id : TaskId) (seq : Nat) (error : BusError)
  deriving DecidableEq

/-- `RECOVERY_SEQ`: no event has this sequence number. -/
def recoverySeq : Nat := 2 ^ 64 - 1

def WorkerError.recoveryNeeded (task_id : TaskId) : WorkerError :=
  .eventWrite task_id recoverySeq .taskChannelClosed

def WorkerError.isRecoveryNeeded : WorkerError → Bool
  | .eventWrite _ seq .taskChannelClosed => seq = recoverySeq
  | _ => false

structure QueueLeaseContext where
  resource_key : String
  runtime_owner : String
  owner_fence : Int
  expires_at : String
  deriving DecidableEq

structure DispatchRequest where
  task : AgentTask
  target : RegisteredEndpoint
  delivery_id : DeliveryId
  attempt : UInt32
  queue_lease : Option QueueLeaseContext
  deriving DecidableEq

inductive DispatchOutcome where
  | completed (output : String)
  | failed (error : String)
  deriving DecidableEq

/-- A terminal handoff; `command` names the channel to the supervisor that owns the lease. -/
structure FinalizationCapability where
  task_id : TaskId
  command : Option Nat
  deriving DecidableEq

structure PreparedExecution where
  outcome : DispatchOutcome
  capability : FinalizationCapability
  deriving DecidableEq

structure LoopLimits where
  max_depth : UInt32
  max_hops : UInt32
  deriving DecidableEq

inductive Backoff where
  | none
  | fixed (delay : Duration)
  | exponential (base max : Duration)
  deriving DecidableEq

structure RetryPolicy where
  max_attempts : UInt32
  backoff : Backoff
  deriving DecidableEq

/-- The attempts a task gets: `0` is treated as `1`. -/
def RetryPolicy.limit (retry : RetryPolicy) : Nat := max retry.max_attempts.toNat 1

/-- `allows_another_attempt_after`. -/
def RetryPolicy.allowsAnotherAttemptAfter (retry : RetryPolicy) (attempt : UInt32) : Bool :=
  attempt.toNat < retry.limit

/-- The longest `std` duration. -/
def maxDuration : Duration := (2 ^ 64 - 1) * 1000000000 + 999999999

/-- `delay_for`. -/
def Backoff.delayFor (failed_attempt : UInt32) : Backoff → Duration
  | .none => 0
  | .fixed delay => delay
  | .exponential base max =>
    min (min (base * 2 ^ min (failed_attempt.toNat - 1) 31) maxDuration) max

/-- `WorkerConfig`; of the injected handles the worker sees whether they are there. -/
structure WorkerConfig where
  limits : LoopLimits
  retry : RetryPolicy
  cancellation : Bool
  timer : Bool

/-- Which future of a race is ready first. -/
inductive Arm where
  | stage
  | cancelled (reason : String)
  | expired
  deriving DecidableEq

inductive TryRecv where
  | task (task : AgentTask)
  | empty
  | disconnected

/-- Clock, cancellation, event sink and task channel. -/
structure Services (σ : Type) where
  now : σ → DateTime × σ
  reasonFor : TaskId → σ → Option String × σ
  activate : TaskId → σ → σ
  retire : TaskId → σ → σ
  emit : TaskEvent → σ → Except BusError Unit × σ
  /-- `Timer::sleep_until`; `none` is the last instant there is. -/
  sleepUntil : Option DateTime → σ → Unit × σ
  arm : σ → Arm × σ
  maxCapacity : Nat
  tryRecv : σ → TryRecv × σ
  recv : σ → Option AgentTask × σ

/-- `TaskLifecycle`. -/
structure TaskLifecycle (σ : Type) where
  transition : TaskEvent → σ → Except DispatchError LifecycleResult × σ
  claimQueue : AgentTask → σ → Except DispatchError (Option QueueLeaseContext) × σ
  markQueueSendStarted : AgentTask → QueueLeaseContext → σ → Except DispatchError Unit × σ
  renewQueueLease : AgentTask → QueueLeaseContext → σ → Except DispatchError Unit × σ

/-- `TaskDispatcher`, and the supervisor behind its capabilities: `finalize` sends a terminal
event down a command channel and waits for the answer, which a closed channel never gives. -/
structure TaskDispatcher (σ : Type) where
  supportsPrepared : Bool
  deliver : DispatchRequest → σ → Except DispatchError Unit × σ
  execute : DispatchRequest → σ → Except DispatchError DispatchOutcome × σ
  executePrepared : DispatchRequest → σ → Except DispatchError PreparedExecution × σ
  cancelPrepared : DispatchRequest → String → σ →
    Except DispatchError FinalizationCapability × σ
  finalizeDeliveryFailure : DispatchRequest → TaskEvent → σ → Except DispatchError Unit × σ
  finalize : Nat → TaskEvent → σ → Option FinalizeResult × σ

structure Worker (σ : Type) where
  registry : List RegisteredEndpoint
  services : Services σ
  dispatchers : TransportType → Option (TaskDispatcher σ)
  config : WorkerConfig
  lifecycle : Option (TaskLifecycle σ)
  /-- The identities that `DeliveryId::generate` and `EventId::generate` draw, in order. -/
  deliveryIds : Nat → DeliveryId
  eventIds : Nat → EventId

/-- Why an event was not written: the lifecycle answered `Stale`, or the lifecycle or the sink
returned an error. -/
inductive LossCause where
  | stale
  | transition (error : DispatchError)
  | sink (error : BusError)
  deriving DecidableEq

structure WorkerState (σ : Type) where
  world : σ
  deliveriesDrawn : Nat
  eventsDrawn : Nat
  /-- The tasks taken from the channel, in order. -/
  received : List AgentTask
  /-- The events written and published, in order. -/
  emitted : List TaskEvent
  /-- The events whose write or publication failed. -/
  lost : List (TaskEvent × LossCause)
  /-- The task and sequence number of every terminal handoff that was refused. -/
  refused : List (TaskId × Nat)

/-- A stretch of the worker's code. -/
abbrev Work (σ α : Type) := Prog (WorkerState σ) WorkerError α

/-- A call of a service. -/
def service {σ α : Type} (f : σ → α × σ) : Work σ α :=
  Prog.act fun s => ((f s.world).1, { s with world := (f s.world).2 })

/-- An effect on the world alone. -/
def WorkerState.onWorld {σ : Type} (f : σ → σ) (s : WorkerState σ) : WorkerState σ :=
  { s with world := f s.world }

inductive Raced (α : Type) where
  | done (value : α)
  | cancelled (reason : String)
  | timedOut (deadline : DateTime)

/-- Why a checkpoint ends a task. -/
inductive Interrupt where
  | cancelled (reason : String)
  | timedOut (deadline : DateTime)

def Interrupt.status : Interrupt → TaskStatus
  | .cancelled _ => .cancelled
  | .timedOut _ => .timedOut

def Interrupt.payload : Interrupt → TaskEventPayload
  | .cancelled reason => .cancelled reason
  | .timedOut deadline => .timedOut deadline

/-- What a prepared execution is told when it is stopped. -/
def Interrupt.cancelText : Interrupt → String
  | .cancelled reason => reason
  | .timedOut _ => "task deadline elapsed"

/-- The policy allows an attempt after this one. -/
structure RetryAllowed (retry : RetryPolicy) (attempt : UInt32) : Prop where
  allowed : retry.allowsAnotherAttemptAfter attempt = true

/-- How one attempt ends: the task is closed, or its next event is `seq` of another attempt. -/
inductive Next (retry : RetryPolicy) (attempt : UInt32) where
  | finished
  | again (seq : Nat) (allowed : RetryAllowed retry attempt)

/-- `DispatchError`'s `Display`. -/
def DispatchError.display : DispatchError → String
  | .notAccepted reason => "delivery was not accepted: " ++ reason
  | .executionFailed reason => "execution failed after acceptance: " ++ reason
  | .unsupportedPrepared => "prepared execution is unsupported"
  | .acceptanceUnknown => "execution acceptance is unknown"
  | .recoveryNeeded => "execution requires recovery"

/-- Only a refused stage is transient. -/
def DispatchError.retryable : DispatchError → Bool
  | .notAccepted _ | .executionFailed _ => true
  | .unsupportedPrepared | .acceptanceUnknown | .recoveryNeeded => false

section

variable [Externals]

/-- `BusError`'s `Display`. -/
def BusError.display : BusError → String
  | .unknownTarget id => "unknown target endpoint: " ++ Externals.uuidText id.uuid
  | .targetDisabled id => "target endpoint is disabled: " ++ Externals.uuidText id.uuid
  | .addressUnavailable id => "endpoint address is not available: " ++ Externals.uuidText id.uuid
  | .queueFull => "task queue is full"
  | .eventBufferFull => "event buffer is full"
  | .taskChannelClosed => "task channel is closed"
  | .eventSinkClosed => "event sink is closed"

/-- `LoopLimits::violation`. -/
def LoopLimits.violation (limits : LoopLimits) (task : AgentTask) : Option String :=
  let hit := (if limits.max_depth < task.depth then ["depth"] else []) ++
    (if limits.max_hops < task.hops then ["hops"] else [])
  if hit = [] then none
  else some ("cycle limit exceeded (hit: " ++ String.intercalate ", " hit ++
    "): task_id=" ++ Externals.uuidText task.task_id.uuid ++
    " root_task_id=" ++ Externals.uuidText task.root_task_id.uuid ++
    " parent_task_id=" ++
      (match task.parent_task_id with
        | none => "none"
        | some parent => Externals.uuidText parent.uuid) ++
    " from_agent=" ++ Externals.uuidText task.from_agent.uuid ++
    " to_agent=" ++ Externals.uuidText task.to_agent.uuid ++
    " depth=" ++ toString task.depth ++ " (max " ++ toString limits.max_depth ++
    ") hops=" ++ toString task.hops ++ " (max " ++ toString limits.max_hops ++ ")")

end

/-- `validate_target`: unknown, then disabled, then unaddressable. -/
def validateTarget (registry : List RegisteredEndpoint) (id : EndpointId) :
    Except BusError RegisteredEndpoint :=
  match registry.find? fun e => e.id = id with
  | none => .error (.unknownTarget id)
  | some endpoint =>
    if endpoint.enabled = false then .error (.targetDisabled id)
    else if endpoint.addressable = false then .error (.addressUnavailable id)
    else .ok endpoint

namespace Worker

variable {σ : Type} (w : Worker σ)

/-! ### Checkpoints -/

def now : Work σ DateTime := service w.services.now

/-- `cancel_reason`. -/
def cancelReason (task_id : TaskId) : Work σ (Option String) :=
  if w.config.cancellation then service (w.services.reasonFor task_id) else pure none

/-- `expired`: a task without a deadline does not read the clock. -/
def expired : Option DateTime → Work σ (Option DateTime)
  | none => pure none
  | some deadline => do
    let now ← w.now
    pure (if deadline ≤ now then some deadline else none)

/-- A checkpoint: cancellation first, then the deadline. -/
def interrupted (task : AgentTask) : Work σ (Option Interrupt) := do
  match ← w.cancelReason task.task_id with
  | some reason => pure (some (.cancelled reason))
  | none => do
    let deadline ← w.expired task.deadline
    pure (deadline.map .timedOut)

/-- `race`: a cancellation is only seen through a configured handle, an expiry only through a
timer. -/
def race {α : Type} (task : AgentTask) (stage : Work σ α) : Work σ (Raced α) := do
  match ← service w.services.arm with
  | .stage => do
    let value ← stage
    pure (.done value)
  | .cancelled reason =>
    if w.config.cancellation then pure (.cancelled reason)
    else do
      let value ← stage
      pure (.done value)
  | .expired =>
    match w.config.timer, task.deadline with
    | true, some deadline => pure (.timedOut deadline)
    | _, _ => do
      let value ← stage
      pure (.done value)

/-! ### Writing events -/

/-- The event could not be written: the worker stops. -/
def lose {α : Type} (event : TaskEvent) (cause : LossCause) (error : WorkerError) :
    Work σ α := do
  Prog.act fun s => ((), { s with lost := s.lost ++ [(event, cause)] })
  Prog.throw error

/-- The event sink. -/
def publish (event : TaskEvent) : Work σ Unit := do
  match ← service (w.services.emit event) with
  | .ok () => Prog.act fun s => ((), { s with emitted := s.emitted ++ [event] })
  | .error .eventSinkClosed =>
    lose event (.sink .eventSinkClosed) (.eventStreamClosed event.task_id event.seq)
  | .error .eventBufferFull =>
    lose event (.sink .eventBufferFull) (.eventBackpressure event.task_id event.seq)
  | .error other => lose event (.sink other) (.eventWrite event.task_id event.seq other)

/-- `emit`. -/
def emit (event : TaskEvent) : Work σ Unit :=
  match w.lifecycle with
  | none => w.publish event
  | some lifecycle => do
    match ← service (lifecycle.transition event) with
    | .ok .committed => w.publish event
    | .ok .replay => w.publish event
    | .ok .stale => lose event .stale (.eventWrite event.task_id event.seq .taskChannelClosed)
    | .error error =>
      lose event (.transition error) (.eventWrite event.task_id event.seq .taskChannelClosed)

/-- `EventId::generate`. -/
def drawEventId : Work σ EventId :=
  Prog.act fun s => (w.eventIds s.eventsDrawn, { s with eventsDrawn := s.eventsDrawn + 1 })

/-- `DeliveryId::generate`. -/
def drawDeliveryId : Work σ DeliveryId :=
  Prog.act fun s =>
    (w.deliveryIds s.deliveriesDrawn, { s with deliveriesDrawn := s.deliveriesDrawn + 1 })

/-- An event stamped with the clock. -/
def newEvent (task : AgentTask) (seq : Nat) (status : TaskStatus)
    (payload : TaskEventPayload) : Work σ TaskEvent := do
  let id ← w.drawEventId
  let timestamp ← w.now
  pure { id := id, task_id := task.task_id, seq := seq, status := status,
         timestamp := timestamp, payload := payload }

/-- The cancellation record of a task that ended. -/
def retire (task : AgentTask) (s : WorkerState σ) : WorkerState σ :=
  if w.config.cancellation then s.onWorld (w.services.retire task.task_id) else s

/-- `terminate`: the record is retired even when the write failed. -/
def terminate (task : AgentTask) (seq : Nat) (status : TaskStatus)
    (payload : TaskEventPayload) : Work σ Unit := do
  let event ← w.newEvent task seq status payload
  Prog.ensure (w.emit event) (w.retire task)

/-- `fail_task`. -/
def failTask (task : AgentTask) (seq : Nat) (error : String) : Work σ Unit :=
  w.terminate task seq .failed (.failed error)

/-- `completed_task`. -/
def completedTask (task : AgentTask) (seq : Nat) (output : String) : Work σ Unit :=
  w.terminate task seq .completed (.completed output)

/-- `cancel_task` and `timed_out_task`. -/
def interruptTask (task : AgentTask) (seq : Nat) (interrupt : Interrupt) : Work σ Unit :=
  w.terminate task seq interrupt.status interrupt.payload

/-- The refusal of a terminal handoff: reported as a failed event write, though no event was
written. -/
def refuseHandoff {α : Type} (task : AgentTask) (seq : Nat) : Work σ α := do
  Prog.act fun s => ((), { s with refused := s.refused ++ [(task.task_id, seq)] })
  Prog.throw (.eventWrite task.task_id seq .taskChannelClosed)

/-- `finalize_capability`. -/
def finalizeCapability (dispatcher : TaskDispatcher σ) (task : AgentTask) (seq : Nat)
    (status : TaskStatus) (payload : TaskEventPayload) (capability : FinalizationCapability) :
    Work σ Unit := do
  let event ← w.newEvent task seq status payload
  match capability.command with
  | none => refuseHandoff task seq
  | some sender => do
    match ← service (dispatcher.finalize sender event) with
    | some .committed => w.emit event
    | some .alreadyTerminal => w.emit event
    | some .stale => refuseHandoff task seq
    | some .fenced => refuseHandoff task seq
    | some .recoveryNeeded => refuseHandoff task seq
    | none => refuseHandoff task seq
    Prog.act fun s => ((), w.retire task s)

/-- `finalize_prepared`. -/
def finalizePrepared (dispatcher : TaskDispatcher σ) (task : AgentTask) (seq : Nat)
    (prepared : PreparedExecution) : Work σ Unit :=
  match prepared.outcome with
  | .completed output =>
    w.finalizeCapability dispatcher task seq .completed (.completed output) prepared.capability
  | .failed error =>
    w.finalizeCapability dispatcher task seq .failed (.failed error) prepared.capability

/-! ### One attempt -/

section

variable [Externals]

/-- `wait_backoff`. -/
def waitBackoff (task : AgentTask) (failed_attempt : UInt32) : Work σ (Raced Unit) :=
  let delay := w.config.retry.backoff.delayFor failed_attempt
  if delay = 0 then pure (.done ())
  else if w.config.timer = false then pure (.done ())
  else do
    let now ← w.now
    w.race task (service (w.services.sleepUntil (Externals.checkedAdd now delay)))

/-- `refused`: whether a stage that gave no result is tried again. -/
def refused (task : AgentTask) (attempt : UInt32) (error : DispatchError) :
    Work σ (Raced (Option (PLift (RetryAllowed w.config.retry attempt)))) :=
  if h : error.retryable = true ∧
      w.config.retry.allowsAnotherAttemptAfter attempt = true then do
    match ← w.expired task.deadline with
    | some _ => pure (.done none)
    | none => do
      match ← w.waitBackoff task attempt with
      | .done () => pure (.done (some ⟨⟨h.2⟩⟩))
      | .cancelled reason => pure (.cancelled reason)
      | .timedOut deadline => pure (.timedOut deadline)
  else pure (.done none)

/-- What follows a refused stage. -/
def retryOrFail (task : AgentTask) (attempt : UInt32) (seq : Nat) (error : DispatchError) :
    Work σ (Next w.config.retry attempt) := do
  match ← w.refused task attempt error with
  | .done (some allowed) => pure (.again seq allowed.down)
  | .done none => do
    w.failTask task seq error.display
    pure .finished
  | .cancelled reason => do
    w.interruptTask task seq (.cancelled reason)
    pure .finished
  | .timedOut deadline => do
    w.interruptTask task seq (.timedOut deadline)
    pure .finished

/-- The terminal event of a prepared delivery that failed: a cancellation or an expiry that
landed meanwhile wins. -/
def deliveryVerdict (error : DispatchError) : Option Interrupt → TaskStatus × TaskEventPayload
  | some interrupt => (interrupt.status, interrupt.payload)
  | none => (.failed, .failed error.display)

/-- A prepared delivery that failed: its dispatcher records the terminal event first. -/
def deliveryFailure (dispatcher : TaskDispatcher σ) (request : DispatchRequest) (seq : Nat)
    (error : DispatchError) : Work σ Unit := do
  let interrupt ← w.interrupted request.task
  let verdict := deliveryVerdict error interrupt
  let event ← w.newEvent request.task seq verdict.1 verdict.2
  match ← service (dispatcher.finalizeDeliveryFailure request event) with
  | .error _ => refuseHandoff request.task seq
  | .ok () => Prog.ensure (w.emit event) (w.retire request.task)

/-- A task is stopped after its delivery was accepted: a prepared execution is reaped and
closed by its supervisor, another is simply closed. -/
def interruptAccepted (dispatcher : TaskDispatcher σ) (request : DispatchRequest) (seq : Nat)
    (interrupt : Interrupt) : Work σ Unit :=
  if dispatcher.supportsPrepared then do
    match ← service (dispatcher.cancelPrepared request interrupt.cancelText) with
    | .error _ => refuseHandoff request.task seq
    | .ok capability =>
      w.finalizeCapability dispatcher request.task seq interrupt.status interrupt.payload
        capability
  else w.interruptTask request.task seq interrupt

/-- Stage two of a prepared dispatcher. -/
def executePreparedStage (dispatcher : TaskDispatcher σ) (request : DispatchRequest)
    (seq : Nat) : Work σ Unit := do
  match ← w.race request.task (service (dispatcher.executePrepared request)) with
  | .done (.ok prepared) => w.finalizePrepared dispatcher request.task seq prepared
  | .done (.error error) =>
    if error = .recoveryNeeded then Prog.throw (.recoveryNeeded request.task.task_id)
    else w.failTask request.task seq error.display
  | .cancelled reason => w.interruptAccepted dispatcher request seq (.cancelled reason)
  | .timedOut deadline => w.interruptAccepted dispatcher request seq (.timedOut deadline)

/-- Stage two of an ordinary dispatcher. -/
def executeStage (dispatcher : TaskDispatcher σ) (request : DispatchRequest) (seq : Nat) :
    Work σ (Next w.config.retry request.attempt) := do
  match ← w.race request.task (service (dispatcher.execute request)) with
  | .done (.ok (.completed output)) => do
    w.completedTask request.task seq output
    pure .finished
  | .done (.ok (.failed error)) => do
    w.failTask request.task seq error
    pure .finished
  | .done (.error error) => w.retryOrFail request.task request.attempt seq error
  | .cancelled reason => do
    w.interruptTask request.task seq (.cancelled reason)
    pure .finished
  | .timedOut deadline => do
    w.interruptTask request.task seq (.timedOut deadline)
    pure .finished

/-- From the acceptance of a delivery to the end of the attempt. -/
def runAccepted (dispatcher : TaskDispatcher σ) (request : DispatchRequest) (seq : Nat) :
    Work σ (Next w.config.retry request.attempt) := do
  match ← w.interrupted request.task with
  | some interrupt => do
    w.interruptAccepted dispatcher request seq interrupt
    pure .finished
  | none => do
    let started_at ← w.now
    let id ← w.drawEventId
    w.emit { id := id, task_id := request.task.task_id, seq := seq, status := .running,
             timestamp := started_at, payload := .running started_at }
    if dispatcher.supportsPrepared then do
      w.executePreparedStage dispatcher request (seq + 1)
      pure .finished
    else w.executeStage dispatcher request (seq + 1)

/-- Stage one: a prepared delivery owns durable side effects and is not raced. -/
def deliverRaced (dispatcher : TaskDispatcher σ) (request : DispatchRequest) :
    Work σ (Raced (Except DispatchError Unit)) :=
  if dispatcher.supportsPrepared then do
    let result ← service (dispatcher.deliver request)
    pure (.done result)
  else w.race request.task (service (dispatcher.deliver request))

/-- From the `Dispatched` event to the end of the attempt. -/
def deliverStage (dispatcher : TaskDispatcher σ) (request : DispatchRequest) (seq : Nat) :
    Work σ (Next w.config.retry request.attempt) := do
  match ← w.deliverRaced dispatcher request with
  | .done (.ok ()) => w.runAccepted dispatcher request seq
  | .done (.error error) =>
    if dispatcher.supportsPrepared then do
      w.deliveryFailure dispatcher request seq error
      pure .finished
    else w.retryOrFail request.task request.attempt seq error
  | .cancelled reason => do
    w.interruptTask request.task seq (.cancelled reason)
    pure .finished
  | .timedOut deadline => do
    w.interruptTask request.task seq (.timedOut deadline)
    pure .finished

/-- The queue lease is marked as used and renewed before the delivery. -/
def queueHooks (task : AgentTask) (queue_lease : Option QueueLeaseContext) :
    Work σ (Except DispatchError Unit) :=
  match w.lifecycle, queue_lease with
  | some lifecycle, some lease => do
    match ← service (lifecycle.markQueueSendStarted task lease) with
    | .error error => pure (.error error)
    | .ok () => service (lifecycle.renewQueueLease task lease)
  | _, _ => pure (.ok ())

/-- The body of the attempt loop. -/
def attemptOnce (dispatcher : TaskDispatcher σ) (target : RegisteredEndpoint) (task : AgentTask)
    (queue_lease : Option QueueLeaseContext) (seq : Nat) (attempt : UInt32) :
    Work σ (Next w.config.retry attempt) := do
  match ← w.interrupted task with
  | some interrupt => do
    w.interruptTask task seq interrupt
    pure .finished
  | none => do
    let delivery_id ← w.drawDeliveryId
    let dispatched ← w.newEvent task seq .dispatched (.dispatched delivery_id attempt)
    w.emit dispatched
    match ← w.queueHooks task queue_lease with
    | .error error => do
      w.failTask task (seq + 1) error.display
      pure .finished
    | .ok () =>
      w.deliverStage dispatcher
        { task := task, target := target, delivery_id := delivery_id, attempt := attempt,
          queue_lease := queue_lease } (seq + 1)

omit [Externals] in
theorem succ_of_allowed {retry : RetryPolicy} {attempt : UInt32}
    (h : RetryAllowed retry attempt) :
    (attempt + 1).toNat = attempt.toNat + 1 ∧ attempt.toNat < retry.limit := by
  have hlt : attempt.toNat < retry.limit := of_decide_eq_true h.allowed
  have hmax : retry.max_attempts.toNat < 2 ^ 32 := retry.max_attempts.toNat_lt
  refine ⟨?_, hlt⟩
  simp only [RetryPolicy.limit] at hlt
  rw [UInt32.toNat_add]
  have hone : (1 : UInt32).toNat = 1 := rfl
  omega

/-- The attempt loop. -/
def attempts (dispatcher : TaskDispatcher σ) (target : RegisteredEndpoint) (task : AgentTask)
    (queue_lease : Option QueueLeaseContext) (seq : Nat) (attempt : UInt32) : Work σ Unit := do
  match ← w.attemptOnce dispatcher target task queue_lease seq attempt with
  | .finished => pure ()
  | .again next allowed =>
    attempts dispatcher target task queue_lease next (attempt + 1)
termination_by w.config.retry.limit - attempt.toNat
decreasing_by
  have h := succ_of_allowed allowed
  omega

/-- The queue admission of the task is consumed. -/
def claimQueue (task : AgentTask) : Work σ (Except DispatchError (Option QueueLeaseContext)) :=
  match w.lifecycle with
  | none => pure (.ok none)
  | some lifecycle => service (lifecycle.claimQueue task)

/-- `Worker::process`. -/
def process (task : AgentTask) : Work σ Unit := do
  Prog.act fun s => ((), if w.config.cancellation then
    s.onWorld (w.services.activate task.task_id) else s)
  match ← w.interrupted task with
  | some interrupt => w.interruptTask task 2 interrupt
  | none =>
    match w.config.limits.violation task with
    | some error => w.failTask task 2 error
    | none =>
      match validateTarget w.registry task.to_agent with
      | .error error => w.failTask task 2 error.display
      | .ok target =>
        match w.dispatchers target.transport with
        | none =>
          w.failTask task 2
            ("no dispatcher registered for transport " ++ target.transport.debug)
        | some dispatcher => do
          match ← w.claimQueue task with
          | .error error => w.failTask task 2 error.display
          | .ok queue_lease => w.attempts dispatcher target task queue_lease 2 1

end

/-! ### The loop over the queue -/

/-- A task leaves the channel. -/
def receive (task : AgentTask) : Work σ Unit :=
  Prog.act fun s => ((), { s with received := s.received ++ [task] })

/-- A task waiting for its turn; the source counts arrivals in a `u64`. -/
structure QueuedTask where
  priority : Priority
  arrival : Nat
  task : AgentTask

/-- The larger of two queued tasks: the more urgent, and among equals the earlier. -/
def QueuedTask.before (a b : QueuedTask) : Bool :=
  b.priority.value < a.priority.value ||
    (a.priority.value = b.priority.value && a.arrival < b.arrival)

/-- `PriorityQueue::pop`. -/
def popQueue : List QueuedTask → Option (QueuedTask × List QueuedTask)
  | [] => none
  | t :: rest =>
    match popQueue rest with
    | none => some (t, [])
    | some (best, others) =>
      if best.before t then some (best, t :: others) else some (t, best :: others)

/-- `admit_ready`: at most `budget` tasks move into the queue; the answer is whether the
channel is closed and drained. -/
def admitReady : Nat → List QueuedTask → Nat → Work σ (List QueuedTask × Nat × Bool)
  | 0, queue, arrival => pure (queue, arrival, false)
  | budget + 1, queue, arrival => do
    match ← service w.services.tryRecv with
    | .task task => do
      receive task
      admitReady budget (queue ++ [⟨task.priority, arrival, task⟩]) (arrival + 1)
    | .empty => pure (queue, arrival, false)
    | .disconnected => pure (queue, arrival, true)

/-- Take what is available, unless the channel is known to be closed. -/
def admitAvailable (queue : List QueuedTask) (arrival : Nat) (closed : Bool) :
    Work σ (List QueuedTask × Nat × Bool) :=
  if closed then pure (queue, arrival, true)
  else w.admitReady (w.services.maxCapacity - queue.length) queue arrival

inductive RunEnd where
  | drained | outOfFuel
  deriving DecidableEq

variable [Externals]

/-- `Worker::run`, for at most `fuel` rounds of its loop. -/
def runLoop : Nat → List QueuedTask → Nat → Bool → Work σ RunEnd
  | 0, _, _, _ => pure .outOfFuel
  | fuel + 1, queue, arrival, closed => do
    let (queue, arrival, closed) ← w.admitAvailable queue arrival closed
    match popQueue queue with
    | some (next, rest) => do
      match ← Prog.attempt (w.process next.task) with
      | .ok () => runLoop fuel rest arrival closed
      | .error error =>
        if error.isRecoveryNeeded then runLoop fuel rest arrival closed
        else Prog.throw error
    | none =>
      if closed then pure .drained
      else do
        match ← service w.services.recv with
        | some task => do
          receive task
          runLoop fuel [⟨task.priority, arrival, task⟩] (arrival + 1) closed
        | none => pure .drained

/-- `Worker::run` from its start. -/
def run (fuel : Nat) : Work σ RunEnd := w.runLoop fuel [] 0 false

end Worker

end GuiguBridge
