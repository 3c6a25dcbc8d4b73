import GuiguBridge.Bus.Worker

/-!
# What the services do to the world

Between two events the worker only talks to its services.  A relation that every service call
keeps is then kept by each such stretch of its code.

* `Worker.Moves w R` — **every service of `w` moves the world along `R`**, the activation of a
  task apart;
* `Along R` — the world moved along `R`, and the worker's own state stayed;
* `along_interrupted`, `along_race`, … — one lemma for each stretch;
* `race_triple` — the rule of a raced stage that does more.
-/

namespace GuiguBridge

open Prog

section

variable {σ : Type}

/-- Every call of the lifecycle moves the world along `R`. -/
structure TaskLifecycle.Moves (lifecycle : TaskLifecycle σ) (R : σ → σ → Prop) : Prop where
  transition : ∀ event c, R c (lifecycle.transition event c).2
  claimQueue : ∀ task c, R c (lifecycle.claimQueue task c).2
  markQueueSendStarted : ∀ task lease c, R c (lifecycle.markQueueSendStarted task lease c).2
  renewQueueLease : ∀ task lease c, R c (lifecycle.renewQueueLease task lease c).2

/-- Every call of the dispatcher moves the world along `R`. -/
structure TaskDispatcher.Moves (dispatcher : TaskDispatcher σ) (R : σ → σ → Prop) : Prop where
  deliver : ∀ request c, R c (dispatcher.deliver request c).2
  execute : ∀ request c, R c (dispatcher.execute request c).2
  executePrepared : ∀ request c, R c (dispatcher.executePrepared request c).2
  cancelPrepared : ∀ request reason c, R c (dispatcher.cancelPrepared request reason c).2
  finalizeDeliveryFailure : ∀ request event c,
    R c (dispatcher.finalizeDeliveryFailure request event c).2
  finalize : ∀ sender event c, R c (dispatcher.finalize sender event c).2

/-- Every service call moves the world along `R`; an activation may leave it. -/
structure Worker.Moves (w : Worker σ) (R : σ → σ → Prop) : Prop where
  refl : ∀ c, R c c
  trans : ∀ a b c, R a b → R b c → R a c
  now : ∀ c, R c (w.services.now c).2
  reasonFor : ∀ task_id c, R c (w.services.reasonFor task_id c).2
  retire : ∀ task_id c, R c (w.services.retire task_id c)
  emit : ∀ event c, R c (w.services.emit event c).2
  sleepUntil : ∀ until_ c, R c (w.services.sleepUntil until_ c).2
  arm : ∀ c, R c (w.services.arm c).2
  tryRecv : ∀ c, R c (w.services.tryRecv c).2
  recv : ∀ c, R c (w.services.recv c).2
  lifecycle : ∀ lifecycle, w.lifecycle = some lifecycle → lifecycle.Moves R
  dispatcher : ∀ transport dispatcher, w.dispatchers transport = some dispatcher →
    dispatcher.Moves R

end

namespace Worker

variable {σ α : Type} {w : Worker σ} {R : σ → σ → Prop}

/-- The world moves along `R`; the worker's own state stays. -/
def Along (R : σ → σ → Prop) (s s' : WorkerState σ) : Prop :=
  ∃ world, R s.world world ∧ s' = { s with world := world }

theorem along_service {f : σ → α × σ} (h : ∀ c, R c (f c).2) :
    Within (Along R) (service f) :=
  Within.act fun s => ⟨(f s.world).2, h s.world, rfl⟩

section

variable (hw : w.Moves R)

include hw

theorem Moves.along_refl (s : WorkerState σ) : Along R s s := ⟨s.world, hw.refl _, rfl⟩

theorem Moves.along_trans (a b c : WorkerState σ) (hab : Along R a b) (hbc : Along R b c) :
    Along R a c := by
  obtain ⟨v, hv, rfl⟩ := hab
  obtain ⟨v', hv', rfl⟩ := hbc
  exact ⟨v', hw.trans _ _ _ hv hv', rfl⟩

theorem along_pure (a : α) : Within (Along R) (pure a : Work σ α) := Within.pure hw.along_refl

theorem along_bind {β : Type} {m : Work σ α} {f : α → Work σ β} (hm : Within (Along R) m)
    (hf : ∀ a, Within (Along R) (f a)) : Within (Along R) (m >>= f) :=
  Within.bind hw.along_trans hm hf

theorem along_now : Within (Along R) w.now := along_service hw.now

theorem along_cancelReason (task_id : TaskId) : Within (Along R) (w.cancelReason task_id) := by
  rw [cancelReason]
  split
  · exact along_service (hw.reasonFor task_id)
  · exact along_pure hw _

theorem along_expired (deadline : Option DateTime) : Within (Along R) (w.expired deadline) := by
  cases deadline with
  | none => exact along_pure hw _
  | some deadline => exact along_bind hw (along_now hw) fun _ => along_pure hw _

theorem along_interrupted (task : AgentTask) : Within (Along R) (w.interrupted task) := by
  refine along_bind hw (along_cancelReason hw _) fun reason => ?_
  cases reason with
  | some reason => exact along_pure hw _
  | none => exact along_bind hw (along_expired hw _) fun _ => along_pure hw _

theorem along_race {task : AgentTask} {stage : Work σ α} (h : Within (Along R) stage) :
    Within (Along R) (w.race task stage) := by
  have hdone : Within (Along R) (do
      let value ← stage
      pure (Raced.done value) : Work σ (Raced α)) :=
    along_bind hw h fun _ => along_pure hw _
  refine along_bind hw (along_service hw.arm) fun arm => ?_
  cases arm with
  | stage => exact hdone
  | cancelled reason =>
    dsimp only
    split
    · exact along_pure hw _
    · exact hdone
  | expired =>
    dsimp only
    split
    · exact along_pure hw _
    · exact hdone

/-- A raced stage: its result, or one of the two interruptions. -/
theorem race_triple {task : AgentTask} {stage : Work σ α} {P : WorkerState σ → Prop}
    {Q : Raced α → WorkerState σ → Prop} {E : WorkerError → WorkerState σ → Prop}
    (hP : ∀ s s', Along R s s' → P s → P s')
    (hstage : Triple P stage (fun value => Q (.done value)) E)
    (hcancelled : ∀ reason s, P s → Q (.cancelled reason) s)
    (htimedOut : ∀ deadline s, P s → Q (.timedOut deadline) s) :
    Triple P (w.race task stage) Q E := by
  have hdone : Triple P (do
      let value ← stage
      pure (Raced.done value) : Work σ (Raced α)) Q E :=
    Triple.bind hstage fun _ => Triple.pure fun _ h => h
  refine Triple.bind (Triple.within (along_service hw.arm) hP) fun arm => ?_
  cases arm with
  | stage => exact hdone
  | cancelled reason =>
    exact Triple.ite (fun _ => Triple.pure (hcancelled reason)) fun _ => hdone
  | expired =>
    dsimp only
    split
    · exact Triple.pure (htimedOut _)
    · exact hdone

theorem along_deliverRaced {dispatcher : TaskDispatcher σ} (hd : dispatcher.Moves R)
    (request : DispatchRequest) : Within (Along R) (w.deliverRaced dispatcher request) := by
  have hdeliver := along_service (hd.deliver request)
  rw [deliverRaced]
  split
  · exact along_bind hw hdeliver fun _ => along_pure hw _
  · exact along_race hw hdeliver

theorem along_queueHooks (task : AgentTask) (queue_lease : Option QueueLeaseContext) :
    Within (Along R) (w.queueHooks task queue_lease) := by
  unfold queueHooks
  split
  · rename_i lifecycle lease hlifecycle
    have hl := hw.lifecycle lifecycle hlifecycle
    refine along_bind hw (along_service (hl.markQueueSendStarted task lease)) fun marked => ?_
    cases marked with
    | error error => exact along_pure hw _
    | ok _ => exact along_service (hl.renewQueueLease task lease)
  · exact along_pure hw _

theorem along_claimQueue (task : AgentTask) : Within (Along R) (w.claimQueue task) := by
  rw [claimQueue]
  split
  · exact along_pure hw _
  · rename_i lifecycle hlifecycle
    exact along_service ((hw.lifecycle lifecycle hlifecycle).claimQueue task)

theorem along_retire (task : AgentTask) (s : WorkerState σ) :
    Along R s (w.retire task s) := by
  rw [retire]
  split
  · exact ⟨_, hw.retire task.task_id s.world, rfl⟩
  · exact hw.along_refl s

variable [Externals]

theorem along_waitBackoff (task : AgentTask) (failed_attempt : UInt32) :
    Within (Along R) (w.waitBackoff task failed_attempt) := by
  simp only [waitBackoff]
  split
  · exact along_pure hw _
  · split
    · exact along_pure hw _
    · exact along_bind hw (along_now hw) fun _ =>
        along_race hw (along_service (hw.sleepUntil _))

theorem along_refused (task : AgentTask) (attempt : UInt32) (error : DispatchError) :
    Within (Along R) (w.refused task attempt error) := by
  rw [refused]
  split
  · refine along_bind hw (along_expired hw _) fun deadline => ?_
    cases deadline with
    | some deadline => exact along_pure hw _
    | none =>
      refine along_bind hw (along_waitBackoff hw _ _) fun raced => ?_
      cases raced <;> exact along_pure hw _
  · exact along_pure hw _

end

end Worker

end GuiguBridge
