import GuiguBridge.Bus.Worker

/-!
# What the world does while a task is processed

A task is processed by calls of services.  Whatever every such call does to the world,
`Worker::process` does, with whatever it ends.

* `Worker.Calls w R` — every call but those of the task channel moves the world along `R`;
* `Served R` — the world moved along `R`;
* `process_served` — **so does a whole task**, by one lemma for each stretch of the code.
-/

namespace GuiguBridge

open Prog

section

variable {σ : Type}

/-- Every call of the lifecycle moves the world along `R`. -/
structure TaskLifecycle.Calls (lifecycle : TaskLifecycle σ) (R : σ → σ → Prop) : Prop where
  transition : ∀ event c, R c (lifecycle.transition event c).2
  claimQueue : ∀ task c, R c (lifecycle.claimQueue task c).2
  markQueueSendStarted : ∀ task lease c, R c (lifecycle.markQueueSendStarted task lease c).2
  renewQueueLease : ∀ task lease c, R c (lifecycle.renewQueueLease task lease c).2

/-- Every call of the dispatcher moves the world along `R`. -/
structure TaskDispatcher.Calls (dispatcher : TaskDispatcher σ) (R : σ → σ → Prop) : Prop where
  deliver : ∀ request c, R c (dispatcher.deliver request c).2
  execute : ∀ request c, R c (dispatcher.execute request c).2
  executePrepared : ∀ request c, R c (dispatcher.executePrepared request c).2
  cancelPrepared : ∀ request reason c, R c (dispatcher.cancelPrepared request reason c).2
  finalizeDeliveryFailure : ∀ request event c,
    R c (dispatcher.finalizeDeliveryFailure request event c).2
  finalize : ∀ sender event c, R c (dispatcher.finalize sender event c).2

/-- Every call but those of the task channel moves the world along `R`. -/
structure Worker.Calls (w : Worker σ) (R : σ → σ → Prop) : Prop where
  refl : ∀ c, R c c
  trans : ∀ a b c, R a b → R b c → R a c
  now : ∀ c, R c (w.services.now c).2
  reasonFor : ∀ task_id c, R c (w.services.reasonFor task_id c).2
  activate : ∀ task_id c, R c (w.services.activate task_id c)
  retire : ∀ task_id c, R c (w.services.retire task_id c)
  emit : ∀ event c, R c (w.services.emit event c).2
  sleepUntil : ∀ until_ c, R c (w.services.sleepUntil until_ c).2
  arm : ∀ c, R c (w.services.arm c).2
  lifecycle : ∀ lifecycle, w.lifecycle = some lifecycle → lifecycle.Calls R
  dispatcher : ∀ transport dispatcher, w.dispatchers transport = some dispatcher →
    dispatcher.Calls R

end

namespace Worker

variable {σ α β : Type} {w : Worker σ} {R : σ → σ → Prop}

/-- The world moved along `R`. -/
def Served (R : σ → σ → Prop) (s s' : WorkerState σ) : Prop := R s.world s'.world

theorem served_service {f : σ → α × σ} (h : ∀ c, R c (f c).2) :
    Steady (Served R) (service f) := Steady.act fun s => h s.world

section

variable (hw : w.Calls R)

include hw

theorem Calls.served_refl (s : WorkerState σ) : Served R s s := hw.refl s.world

theorem Calls.served_trans (a b c : WorkerState σ) (hab : Served R a b) (hbc : Served R b c) :
    Served R a c := hw.trans _ _ _ hab hbc

theorem served_pure (a : α) : Steady (Served R) (pure a : Work σ α) :=
  Steady.pure hw.served_refl

theorem served_throw (e : WorkerError) : Steady (Served R) (Prog.throw e : Work σ α) :=
  Steady.throw hw.served_refl

theorem served_bind {m : Work σ α} {f : α → Work σ β} (hm : Steady (Served R) m)
    (hf : ∀ a, Steady (Served R) (f a)) : Steady (Served R) (m >>= f) :=
  Steady.bind hw.served_trans hm hf

/-- A step on the worker's own state. -/
theorem served_own {f : WorkerState σ → α × WorkerState σ}
    (h : ∀ s, (f s).2.world = s.world) : Steady (Served R) (Prog.act f : Work σ α) := by
  intro s
  show R s.world (f s).2.world
  rw [h]
  exact hw.refl s.world

/-! ### Checkpoints -/

theorem served_now : Steady (Served R) w.now := served_service hw.now

theorem served_cancelReason (task_id : TaskId) :
    Steady (Served R) (w.cancelReason task_id) := by
  rw [cancelReason]
  split
  · exact served_service (hw.reasonFor task_id)
  · exact served_pure hw _

theorem served_expired (deadline : Option DateTime) :
    Steady (Served R) (w.expired deadline) := by
  cases deadline with
  | none => exact served_pure hw _
  | some deadline => exact served_bind hw (served_now hw) fun _ => served_pure hw _

theorem served_interrupted (task : AgentTask) : Steady (Served R) (w.interrupted task) := by
  refine served_bind hw (served_cancelReason hw _) fun reason => ?_
  cases reason with
  | some reason => exact served_pure hw _
  | none => exact served_bind hw (served_expired hw _) fun _ => served_pure hw _

theorem served_race {task : AgentTask} {stage : Work σ α} (h : Steady (Served R) stage) :
    Steady (Served R) (w.race task stage) := by
  have hdone : Steady (Served R) (do
      let value ← stage
      pure (Raced.done value) : Work σ (Raced α)) :=
    served_bind hw h fun _ => served_pure hw _
  refine served_bind hw (served_service hw.arm) fun arm => ?_
  cases arm with
  | stage => exact hdone
  | cancelled reason =>
    dsimp only
    split
    · exact served_pure hw _
    · exact hdone
  | expired =>
    dsimp only
    split
    · exact served_pure hw _
    · exact hdone

/-! ### Writing events -/

theorem served_lose (event : TaskEvent) (cause : LossCause) (error : WorkerError) :
    Steady (Served R) (lose event cause error : Work σ α) :=
  served_bind hw (served_own hw fun _ => rfl) fun _ => served_throw hw _

theorem served_publish (event : TaskEvent) : Steady (Served R) (w.publish event) := by
  refine served_bind hw (served_service (hw.emit event)) fun result => ?_
  cases result with
  | ok value => exact served_own hw fun _ => rfl
  | error error => cases error <;> exact served_lose hw _ _ _

theorem served_emit (event : TaskEvent) : Steady (Served R) (w.emit event) := by
  unfold emit
  cases hlifecycle : w.lifecycle with
  | none => exact served_publish hw event
  | some lifecycle =>
    have hcall := (hw.lifecycle lifecycle hlifecycle).transition event
    refine served_bind hw (served_service hcall) fun result => ?_
    cases result with
    | error error => exact served_lose hw _ _ _
    | ok answer =>
      cases answer with
      | stale => exact served_lose hw _ _ _
      | committed => exact served_publish hw event
      | replay => exact served_publish hw event

theorem served_newEvent (task : AgentTask) (seq : Nat) (status : TaskStatus)
    (payload : TaskEventPayload) : Steady (Served R) (w.newEvent task seq status payload) :=
  served_bind hw (served_own hw fun _ => rfl) fun _ =>
    served_bind hw (served_now hw) fun _ => served_pure hw _

theorem served_retire (task : AgentTask) (s : WorkerState σ) :
    Served R s (w.retire task s) := by
  rw [retire]
  split
  · exact hw.retire task.task_id s.world
  · exact hw.served_refl s

theorem served_terminate (task : AgentTask) (seq : Nat) (status : TaskStatus)
    (payload : TaskEventPayload) : Steady (Served R) (w.terminate task seq status payload) :=
  served_bind hw (served_newEvent hw _ _ _ _) fun event =>
    Steady.ensure hw.served_trans (served_emit hw event) (served_retire hw task)

theorem served_failTask (task : AgentTask) (seq : Nat) (error : String) :
    Steady (Served R) (w.failTask task seq error) := served_terminate hw _ _ _ _

theorem served_interruptTask (task : AgentTask) (seq : Nat) (interrupt : Interrupt) :
    Steady (Served R) (w.interruptTask task seq interrupt) := served_terminate hw _ _ _ _

theorem served_refuseHandoff (task : AgentTask) (seq : Nat) :
    Steady (Served R) (refuseHandoff task seq : Work σ α) :=
  served_bind hw (served_own hw fun _ => rfl) fun _ => served_throw hw _

variable {dispatcher : TaskDispatcher σ} (hd : dispatcher.Calls R)

include hd

theorem served_finalizeCapability (task : AgentTask) (seq : Nat) (status : TaskStatus)
    (payload : TaskEventPayload) (capability : FinalizationCapability) :
    Steady (Served R)
      (w.finalizeCapability dispatcher task seq status payload capability) := by
  refine served_bind hw (served_newEvent hw _ _ _ _) fun event => ?_
  cases capability.command with
  | none => exact served_refuseHandoff hw task seq
  | some sender =>
    have hretire : Steady (Served R)
        (Prog.act fun s => ((), w.retire task s) : Work σ Unit) :=
      Steady.act (served_retire hw task)
    refine served_bind hw (served_service (hd.finalize sender event)) fun result => ?_
    have hemit := served_bind hw (served_emit hw event) fun _ => hretire
    have hrefuse := served_bind hw (served_refuseHandoff hw task seq) fun (_ : PUnit) => hretire
    cases result with
    | none => exact hrefuse
    | some result =>
      cases result with
      | committed => exact hemit
      | alreadyTerminal => exact hemit
      | stale => exact hrefuse
      | fenced => exact hrefuse
      | recoveryNeeded => exact hrefuse

theorem served_finalizePrepared (task : AgentTask) (seq : Nat) (prepared : PreparedExecution) :
    Steady (Served R) (w.finalizePrepared dispatcher task seq prepared) := by
  unfold finalizePrepared
  cases prepared.outcome <;> exact served_finalizeCapability hw hd _ _ _ _ _

end

/-! ### One attempt -/

section

variable [Externals] (hw : w.Calls R)

include hw

theorem served_waitBackoff (task : AgentTask) (failed_attempt : UInt32) :
    Steady (Served R) (w.waitBackoff task failed_attempt) := by
  simp only [waitBackoff]
  split
  · exact served_pure hw _
  · split
    · exact served_pure hw _
    · exact served_bind hw (served_now hw) fun _ =>
        served_race hw (served_service (hw.sleepUntil _))

theorem served_refused (task : AgentTask) (attempt : UInt32) (error : DispatchError) :
    Steady (Served R) (w.refused task attempt error) := by
  rw [refused]
  split
  · refine served_bind hw (served_expired hw _) fun deadline => ?_
    cases deadline with
    | some deadline => exact served_pure hw _
    | none =>
      refine served_bind hw (served_waitBackoff hw _ _) fun raced => ?_
      cases raced <;> exact served_pure hw _
  · exact served_pure hw _

omit [Externals] in
theorem served_finished {retry : RetryPolicy} {attempt : UInt32} {m : Work σ Unit}
    (h : Steady (Served R) m) : Steady (Served R) (do
      m
      pure .finished : Work σ (Next retry attempt)) :=
  served_bind hw h fun _ => served_pure hw _

theorem served_retryOrFail (task : AgentTask) (attempt : UInt32) (seq : Nat)
    (error : DispatchError) : Steady (Served R) (w.retryOrFail task attempt seq error) := by
  refine served_bind hw (served_refused hw _ _ _) fun raced => ?_
  cases raced with
  | done allowed =>
    cases allowed with
    | some allowed => exact served_pure hw _
    | none => exact served_finished hw (served_failTask hw _ _ _)
  | cancelled reason => exact served_finished hw (served_interruptTask hw _ _ _)
  | timedOut deadline => exact served_finished hw (served_interruptTask hw _ _ _)

omit [Externals] in
theorem served_queueHooks (task : AgentTask) (queue_lease : Option QueueLeaseContext) :
    Steady (Served R) (w.queueHooks task queue_lease) := by
  unfold queueHooks
  split
  · rename_i lifecycle lease hlifecycle
    have hl := hw.lifecycle lifecycle hlifecycle
    refine served_bind hw (served_service (hl.markQueueSendStarted task lease)) fun marked => ?_
    cases marked with
    | error error => exact served_pure hw _
    | ok _ => exact served_service (hl.renewQueueLease task lease)
  · exact served_pure hw _

variable {dispatcher : TaskDispatcher σ} (hd : dispatcher.Calls R)

include hd

omit [Externals] in
theorem served_deliveryFailure (request : DispatchRequest) (seq : Nat) (error : DispatchError) :
    Steady (Served R) (w.deliveryFailure dispatcher request seq error) := by
  refine served_bind hw (served_interrupted hw _) fun interrupt => ?_
  refine served_bind hw (served_newEvent hw _ _ _ _) fun event => ?_
  refine served_bind hw (served_service (hd.finalizeDeliveryFailure request event))
    fun result => ?_
  cases result with
  | error error => exact served_refuseHandoff hw _ _
  | ok value =>
    exact Steady.ensure hw.served_trans (served_emit hw event) (served_retire hw _)

omit [Externals] in
theorem served_interruptAccepted (request : DispatchRequest) (seq : Nat)
    (interrupt : Interrupt) :
    Steady (Served R) (w.interruptAccepted dispatcher request seq interrupt) := by
  rw [interruptAccepted]
  split
  · refine served_bind hw (served_service (hd.cancelPrepared _ _)) fun result => ?_
    cases result with
    | error error => exact served_refuseHandoff hw _ _
    | ok capability => exact served_finalizeCapability hw hd _ _ _ _ _
  · exact served_interruptTask hw _ _ _

omit [Externals] in
theorem served_executePreparedStage (request : DispatchRequest) (seq : Nat) :
    Steady (Served R) (w.executePreparedStage dispatcher request seq) := by
  refine served_bind hw (served_race hw (served_service (hd.executePrepared request)))
    fun raced => ?_
  cases raced with
  | done result =>
    cases result with
    | ok prepared => exact served_finalizePrepared hw hd _ _ _
    | error error =>
      dsimp only
      split
      · exact served_throw hw _
      · exact served_failTask hw _ _ _
  | cancelled reason => exact served_interruptAccepted hw hd _ _ _
  | timedOut deadline => exact served_interruptAccepted hw hd _ _ _

theorem served_executeStage (request : DispatchRequest) (seq : Nat) :
    Steady (Served R) (w.executeStage dispatcher request seq) := by
  refine served_bind hw (served_race hw (served_service (hd.execute request))) fun raced => ?_
  cases raced with
  | done result =>
    cases result with
    | ok outcome =>
      cases outcome with
      | completed output => exact served_finished hw (served_terminate hw _ _ _ _)
      | failed error => exact served_finished hw (served_failTask hw _ _ _)
    | error error => exact served_retryOrFail hw _ _ _ _
  | cancelled reason => exact served_finished hw (served_interruptTask hw _ _ _)
  | timedOut deadline => exact served_finished hw (served_interruptTask hw _ _ _)

theorem served_runAccepted (request : DispatchRequest) (seq : Nat) :
    Steady (Served R) (w.runAccepted dispatcher request seq) := by
  refine served_bind hw (served_interrupted hw _) fun interrupt => ?_
  cases interrupt with
  | some interrupt => exact served_finished hw (served_interruptAccepted hw hd _ _ _)
  | none =>
    refine served_bind hw (served_now hw) fun started_at => ?_
    refine served_bind hw (served_own hw fun _ => rfl) fun id => ?_
    refine served_bind hw (served_emit hw _) fun _ => ?_
    split
    · exact served_finished hw (served_executePreparedStage hw hd _ _)
    · exact served_executeStage hw hd _ _

theorem served_deliverStage (request : DispatchRequest) (seq : Nat) :
    Steady (Served R) (w.deliverStage dispatcher request seq) := by
  have hdeliver := served_service (hd.deliver request)
  have hraced : Steady (Served R) (w.deliverRaced dispatcher request) := by
    rw [deliverRaced]
    split
    · exact served_bind hw hdeliver fun _ => served_pure hw _
    · exact served_race hw hdeliver
  refine served_bind hw hraced fun raced => ?_
  cases raced with
  | done result =>
    cases result with
    | ok value => exact served_runAccepted hw hd _ _
    | error error =>
      dsimp only
      split
      · exact served_finished hw (served_deliveryFailure hw hd _ _ _)
      · exact served_retryOrFail hw _ _ _ _
  | cancelled reason => exact served_finished hw (served_interruptTask hw _ _ _)
  | timedOut deadline => exact served_finished hw (served_interruptTask hw _ _ _)

theorem served_attemptOnce (target : RegisteredEndpoint) (task : AgentTask)
    (queue_lease : Option QueueLeaseContext) (seq : Nat) (attempt : UInt32) :
    Steady (Served R) (w.attemptOnce dispatcher target task queue_lease seq attempt) := by
  refine served_bind hw (served_interrupted hw _) fun interrupt => ?_
  cases interrupt with
  | some interrupt => exact served_finished hw (served_interruptTask hw _ _ _)
  | none =>
    refine served_bind hw (served_own hw fun _ => rfl) fun delivery_id => ?_
    refine served_bind hw (served_newEvent hw _ _ _ _) fun dispatched => ?_
    refine served_bind hw (served_emit hw _) fun _ => ?_
    refine served_bind hw (served_queueHooks hw _ _) fun hooks => ?_
    cases hooks with
    | error error => exact served_finished hw (served_failTask hw _ _ _)
    | ok value => exact served_deliverStage hw hd _ _

theorem served_attempts (target : RegisteredEndpoint) (task : AgentTask)
    (queue_lease : Option QueueLeaseContext) (seq : Nat) (attempt : UInt32) :
    Steady (Served R) (w.attempts dispatcher target task queue_lease seq attempt) := by
  induction seq, attempt using attempts.induct w with
  | case1 seq attempt ih =>
    rw [attempts]
    refine served_bind hw (served_attemptOnce hw hd _ _ _ _ _) fun next => ?_
    cases next with
    | finished => exact served_pure hw _
    | again seq' allowed => exact ih seq' allowed

omit hd in
/-- **A whole task.** -/
theorem process_served (task : AgentTask) : Steady (Served R) (w.process task) := by
  refine served_bind hw ?_ fun _ => ?_
  · refine Steady.act ?_
    intro s
    show Served R s (if _ then _ else _)
    split
    · exact hw.activate task.task_id s.world
    · exact hw.served_refl s
  refine served_bind hw (served_interrupted hw _) fun interrupt => ?_
  cases interrupt with
  | some interrupt => exact served_interruptTask hw _ _ _
  | none =>
    dsimp only
    split
    · exact served_failTask hw _ _ _
    · split
      · exact served_failTask hw _ _ _
      · rename_i target htarget
        split
        · exact served_failTask hw _ _ _
        · rename_i dispatcher hdispatcher
          have hclaim : Steady (Served R) (w.claimQueue task) := by
            rw [claimQueue]
            split
            · exact served_pure hw _
            · rename_i lifecycle hlifecycle
              exact served_service ((hw.lifecycle lifecycle hlifecycle).claimQueue task)
          refine served_bind hw hclaim fun result => ?_
          cases result with
          | error error => exact served_failTask hw _ _ _
          | ok queue_lease =>
            exact served_attempts hw (hw.dispatcher _ _ hdispatcher) _ _ _ _ _

end

end Worker

end GuiguBridge
