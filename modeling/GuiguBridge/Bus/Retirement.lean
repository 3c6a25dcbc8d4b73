import GuiguBridge.Bus.Control
import GuiguBridge.Bus.FailStop

/-!
# A finished task releases its cancellation record

The worker activates a task in the cancellation tables when it takes it up, and retires it when
it is over.  One way out of `Worker::process` leaves the task active: the one that hands a
prepared execution to recovery (`src/src/bus/worker.rs`).

* `ControlledWorld` — the worker's world with the tables in it, which others call too, and the
  tasks whose prepared execution answered `RecoveryNeeded`;
* `Worker.controlled` — any worker, wired to the tables;
* `Holding` — the active tasks were left to recovery, the one in hand apart;
* `process_bound` — one task: **the record is released, or the task was left to recovery**;
* `retired_unless_recovery` — the tables each time the loop starts over.
-/

namespace GuiguBridge

open Prog Relational

/-- A call on the handle from outside the worker: only the worker activates a task. -/
inductive OperatorCall where
  | cancel (task_id : TaskId) (reason : String)
  | cancelAll (reason : String)
  | retire (task_id : TaskId)
  deriving DecidableEq

def OperatorCall.run : OperatorCall → CancellationState → CancellationState
  | .cancel task_id reason => CancellationState.cancel task_id reason
  | .cancelAll reason => CancellationState.cancelAll reason
  | .retire task_id => CancellationState.retire task_id

structure ControlledWorld (τ : Type) where
  outer : τ
  tables : CancellationState
  /-- The tasks whose prepared execution answered `RecoveryNeeded`, in order. -/
  recoveries : List TaskId

section

variable {τ α : Type}

/-- What others call while the worker is in its own code. -/
def ControlledWorld.operate (operators : τ → List OperatorCall × τ) (c : ControlledWorld τ) :
    ControlledWorld τ :=
  { c with
    outer := (operators c.outer).2
    tables := (operators c.outer).1.foldl (fun tables call => call.run tables) c.tables }

/-- A service of the outer world. -/
def ControlledWorld.outside (operators : τ → List OperatorCall × τ) (f : τ → α × τ)
    (c : ControlledWorld τ) : α × ControlledWorld τ :=
  ((f (c.operate operators).outer).1,
    { c.operate operators with outer := (f (c.operate operators).outer).2 })

/-- A call of the worker on the handle. -/
def ControlledWorld.inside (operators : τ → List OperatorCall × τ)
    (f : CancellationState → CancellationState) (c : ControlledWorld τ) : ControlledWorld τ :=
  { c.operate operators with tables := f (c.operate operators).tables }

open ControlledWorld

/-- A dispatcher whose answers are recorded. -/
def TaskDispatcher.controlled (dispatcher : TaskDispatcher τ)
    (operators : τ → List OperatorCall × τ) : TaskDispatcher (ControlledWorld τ) where
  supportsPrepared := dispatcher.supportsPrepared
  deliver request := outside operators (dispatcher.deliver request)
  execute request := outside operators (dispatcher.execute request)
  executePrepared request := fun c =>
    match outside operators (dispatcher.executePrepared request) c with
    | (.error .recoveryNeeded, c') =>
      (.error .recoveryNeeded, { c' with recoveries := c'.recoveries ++ [request.task.task_id] })
    | (answer, c') => (answer, c')
  cancelPrepared request reason := outside operators (dispatcher.cancelPrepared request reason)
  finalizeDeliveryFailure request event :=
    outside operators (dispatcher.finalizeDeliveryFailure request event)
  finalize sender event := outside operators (dispatcher.finalize sender event)

def TaskLifecycle.controlled (lifecycle : TaskLifecycle τ)
    (operators : τ → List OperatorCall × τ) : TaskLifecycle (ControlledWorld τ) where
  transition event := outside operators (lifecycle.transition event)
  claimQueue task := outside operators (lifecycle.claimQueue task)
  markQueueSendStarted task lease := outside operators (lifecycle.markQueueSendStarted task lease)
  renewQueueLease task lease := outside operators (lifecycle.renewQueueLease task lease)

/-- The worker with the cancellation handle. -/
def Worker.controlled (w : Worker τ) (operators : τ → List OperatorCall × τ) :
    Worker (ControlledWorld τ) where
  registry := w.registry
  services :=
    { now := outside operators w.services.now
      reasonFor := fun task_id c =>
        ((c.operate operators).tables.reasonFor task_id, c.operate operators)
      activate := fun task_id => inside operators (CancellationState.activate task_id)
      retire := fun task_id => inside operators (CancellationState.retire task_id)
      emit := fun event => outside operators (w.services.emit event)
      sleepUntil := fun instant => outside operators (w.services.sleepUntil instant)
      arm := outside operators w.services.arm
      maxCapacity := w.services.maxCapacity
      tryRecv := outside operators w.services.tryRecv
      recv := outside operators w.services.recv }
  dispatchers transport := (w.dispatchers transport).map (·.controlled operators)
  config := { w.config with cancellation := true }
  lifecycle := w.lifecycle.map (·.controlled operators)
  deliveryIds := w.deliveryIds
  eventIds := w.eventIds

/-! ### The active tasks -/

/-- Every active task was left to recovery, or is the one in hand. -/
def Holding (held : Option TaskId) (c : ControlledWorld τ) : Prop :=
  ∀ t, c.tables.active.get t ≠ none → t ∈ c.recoveries ∨ held = some t

/-- No task became active, and no recovery was forgotten. -/
structure Around (c c' : ControlledWorld τ) : Prop where
  active : ∀ t, c.tables.active.get t = none → c'.tables.active.get t = none
  recoveries : ∀ t ∈ c.recoveries, t ∈ c'.recoveries

theorem Around.refl (c : ControlledWorld τ) : Around c c := ⟨fun _ h => h, fun _ h => h⟩

theorem Around.trans (a b c : ControlledWorld τ) (hab : Around a b) (hbc : Around b c) :
    Around a c :=
  ⟨fun t h => hbc.active t (hab.active t h), fun t h => hbc.recoveries t (hab.recoveries t h)⟩

theorem Holding.around {held : Option TaskId} {c c' : ControlledWorld τ} (hc : Around c c')
    (h : Holding held c) : Holding held c' := by
  intro t ht
  have hactive : c.tables.active.get t ≠ none := fun hnone => ht (hc.active t hnone)
  exact (h t hactive).imp_left (hc.recoveries t)

theorem OperatorCall.active_none (call : OperatorCall) {s : CancellationState} {t : TaskId}
    (h : s.active.get t = none) : (call.run s).active.get t = none := by
  cases call with
  | cancelAll reason =>
    show (s.cancelAll reason).active.get t = none
    unfold CancellationState.cancelAll
    split <;> exact h
  | retire u =>
    show (s.active.remove u).get t = none
    by_cases heq : t = u
    · rw [heq]
      exact s.active.get_remove_self u
    · exact (s.active.get_remove_of_ne heq).trans h
  | cancel u reason =>
    show (s.cancel u reason).active.get t = none
    rcases CancellationState.cancel_cases s u reason with ⟨hactive, hs⟩ | ⟨-, hs⟩ | ⟨-, hs⟩
    · have hne : t ≠ u := by
        intro heq
        rw [heq, hactive] at h
        cases h
      rw [hs]
      exact (s.active.get_put_of_ne (r := (u, some (boundedReason reason))) hne).trans h
    · rw [hs]
      exact h
    · rw [hs]
      exact h

theorem around_operate (operators : τ → List OperatorCall × τ) (c : ControlledWorld τ) :
    Around c (c.operate operators) := by
  refine ⟨fun t h => ?_, fun t h => h⟩
  show ((operators c.outer).1.foldl (fun tables call => call.run tables) c.tables).active.get t
    = none
  generalize (operators c.outer).1 = calls
  induction calls generalizing c with
  | nil => exact h
  | cons call calls ih =>
    exact ih { c with tables := call.run c.tables } (call.active_none h)

theorem around_outside (operators : τ → List OperatorCall × τ) (f : τ → α × τ)
    (c : ControlledWorld τ) : Around c (outside operators f c).2 :=
  ⟨(around_operate operators c).active, (around_operate operators c).recoveries⟩

theorem around_retire (operators : τ → List OperatorCall × τ) (t : TaskId)
    (c : ControlledWorld τ) : Around c (inside operators (CancellationState.retire t) c) :=
  Around.trans _ _ _ (around_operate operators c)
    ⟨fun _ h => (OperatorCall.retire t).active_none h, fun _ h => h⟩

/-- The task in hand is released. -/
theorem held_retire {operators : τ → List OperatorCall × τ} {t : TaskId} {c : ControlledWorld τ}
    (h : Holding (some t) c) : Holding none (inside operators (CancellationState.retire t) c) := by
  intro u hu
  have hkept := h.around (around_retire operators t c) u hu
  rcases hkept with hrec | heq
  · exact Or.inl hrec
  · -- `retire` took the record of the task out
    cases heq
    exact absurd ((c.operate operators).tables.active.get_remove_self t) hu

/-- A task is taken in hand. -/
theorem held_activate {operators : τ → List OperatorCall × τ} {t : TaskId}
    {c : ControlledWorld τ} (h : Holding none c) :
    Holding (some t) (inside operators (CancellationState.activate t) c) := by
  intro u hu
  by_cases heq : u = t
  · rw [heq]
    exact Or.inr rfl
  · have hactive : (c.operate operators).tables.active.get u ≠ none := by
      intro hnone
      apply hu
      show ((c.operate operators).tables.activate t).active.get u = none
      rw [CancellationState.get_active_activate, if_neg heq]
      exact hnone
    exact (h.around (around_operate operators c) u hactive).imp_right nofun

end

/-- What the worker's handle and the record of its recoveries amount to. -/
structure Worker.Recorded {τ : Type} (w : Worker (ControlledWorld τ)) : Prop where
  moves : w.Moves Around
  cancellation : w.config.cancellation = true
  activate : ∀ t c, Holding none c → Holding (some t) (w.services.activate t c)
  retire : ∀ t c, Holding (some t) c → Holding none (w.services.retire t c)
  recovery : ∀ transport dispatcher request c, w.dispatchers transport = some dispatcher →
    (dispatcher.executePrepared request c).1 = .error .recoveryNeeded →
      request.task.task_id ∈ (dispatcher.executePrepared request c).2.recoveries

theorem around_executePrepared {τ : Type} (dispatcher : TaskDispatcher τ)
    (operators : τ → List OperatorCall × τ) (request : DispatchRequest) (c : ControlledWorld τ) :
    Around c ((dispatcher.controlled operators).executePrepared request c).2 := by
  have hout := around_outside operators (dispatcher.executePrepared request) c
  show Around c (match ControlledWorld.outside operators (dispatcher.executePrepared request) c with
    | (.error .recoveryNeeded, c') =>
      (.error .recoveryNeeded, { c' with recoveries := c'.recoveries ++ [request.task.task_id] })
    | (answer, c') => (answer, c') :
      Except DispatchError PreparedExecution × ControlledWorld τ).2
  split
  · rename_i c' heq
    rw [heq] at hout
    exact ⟨hout.active, fun t ht => List.mem_append_left _ (hout.recoveries t ht)⟩
  · rename_i heq
    rw [heq] at hout
    exact hout

theorem recovery_recorded {τ : Type} {dispatcher : TaskDispatcher τ}
    {operators : τ → List OperatorCall × τ} {request : DispatchRequest} {c : ControlledWorld τ}
    (h : ((dispatcher.controlled operators).executePrepared request c).1
      = .error .recoveryNeeded) :
    request.task.task_id ∈
      ((dispatcher.controlled operators).executePrepared request c).2.recoveries := by
  dsimp only [TaskDispatcher.controlled] at h ⊢
  generalize ControlledWorld.outside operators (dispatcher.executePrepared request) c = result
    at h ⊢
  obtain ⟨answer, c'⟩ := result
  cases answer with
  | ok prepared => cases h
  | error error =>
    cases error with
    | recoveryNeeded => exact List.mem_append_right _ (List.mem_singleton_self _)
    | notAccepted _ | executionFailed _ | unsupportedPrepared | acceptanceUnknown => cases h

theorem Worker.controlled_recorded {τ : Type} (w : Worker τ)
    (operators : τ → List OperatorCall × τ) : (w.controlled operators).Recorded := by
  have hout := @around_outside τ
  refine ⟨⟨Around.refl, Around.trans, hout operators _, ?_, fun t c => around_retire operators t c,
    fun _ => hout operators _, fun _ => hout operators _, hout operators _, hout operators _,
    hout operators _, ?_, ?_⟩, rfl, fun _ _ h => held_activate h, fun _ _ h => held_retire h, ?_⟩
  · exact fun _ c => around_operate operators c
  · intro lifecycle hlifecycle
    obtain ⟨inner, -, rfl⟩ := Option.map_eq_some_iff.mp hlifecycle
    exact ⟨fun _ => hout operators _, fun _ => hout operators _, fun _ _ => hout operators _,
      fun _ _ => hout operators _⟩
  · intro transport dispatcher hdispatcher
    obtain ⟨inner, -, rfl⟩ := Option.map_eq_some_iff.mp hdispatcher
    exact ⟨fun _ => hout operators _, fun _ => hout operators _,
      around_executePrepared inner operators, fun _ _ => hout operators _,
      fun _ _ => hout operators _, fun _ _ => hout operators _⟩
  · intro transport dispatcher request c hdispatcher h
    obtain ⟨inner, -, rfl⟩ := Option.map_eq_some_iff.mp hdispatcher
    exact recovery_recorded h

/-! ### One task -/

/-- What is in hand after an attempt. -/
def Next.inHand {retry : RetryPolicy} {attempt : UInt32} (task : AgentTask) :
    Next retry attempt → Option TaskId
  | .finished => none
  | .again _ _ => some task.task_id

namespace Worker

/-- Since `s₀` no event was lost and no handoff refused, and the active tasks are held. -/
structure Bound {τ : Type} (s₀ : WorkerState (ControlledWorld τ)) (held : Option TaskId)
    (s : WorkerState (ControlledWorld τ)) : Prop where
  world : Holding held s.world
  lost : s.lost = s₀.lost
  refused : s.refused = s₀.refused

/-- A failed stretch that lost no event and refused no handoff has nothing in hand. -/
def Fails {τ : Type} (s₀ : WorkerState (ControlledWorld τ)) (_ : WorkerError)
    (s : WorkerState (ControlledWorld τ)) : Prop :=
  s.lost = s₀.lost → s.refused = s₀.refused → Holding none s.world

variable {τ α β : Type} {w : Worker (ControlledWorld τ)}
  {s₀ : WorkerState (ControlledWorld τ)} {held : Option TaskId}

theorem Bound.along {s s' : WorkerState (ControlledWorld τ)} (h : Along Around s s')
    (hb : Bound s₀ held s) : Bound s₀ held s' := by
  obtain ⟨world, hworld, rfl⟩ := h
  exact ⟨hb.world.around hworld, hb.lost, hb.refused⟩

theorem Fails.along {e : WorkerError} {s s' : WorkerState (ControlledWorld τ)}
    (h : Along Around s s') (hf : Fails s₀ e s) : Fails s₀ e s' := by
  obtain ⟨world, hworld, rfl⟩ := h
  exact fun hlost hrefused => (hf hlost hrefused).around hworld

/-- A stretch without events, then the rest. -/
theorem bound_bind {m : Work (ControlledWorld τ) α} {f : α → Work (ControlledWorld τ) β}
    {Q : β → WorkerState (ControlledWorld τ) → Prop} (hm : Within (Along Around) m)
    (hf : ∀ a, Triple (Bound s₀ held) (f a) Q (Fails s₀)) :
    Triple (Bound s₀ held) (m >>= f) Q (Fails s₀) :=
  Triple.bind (Triple.within hm fun _ _ h hb => hb.along h) hf

section

variable (hw : w.Recorded)

theorem lose_bound {event : TaskEvent} {cause : LossCause} {error : WorkerError}
    {Q : α → WorkerState (ControlledWorld τ) → Prop} :
    Triple (Bound s₀ held) (lose event cause error) Q (Fails s₀) := by
  refine Triple.bind (Q := fun _ => Fails s₀ error) (Triple.act fun s hb => ?_)
    fun _ => Triple.throw fun s h => h
  intro hlost
  have hlen := congrArg List.length (hlost.trans hb.lost.symm)
  simp at hlen

theorem refuseHandoff_bound {task : AgentTask} {seq : Nat}
    {Q : α → WorkerState (ControlledWorld τ) → Prop} :
    Triple (Bound s₀ held) (refuseHandoff task seq) Q (Fails s₀) := by
  refine Triple.bind (Q := fun _ => Fails s₀ (.eventWrite task.task_id seq .taskChannelClosed))
    (Triple.act fun s hb => ?_) fun _ => Triple.throw fun s h => h
  intro _ hrefused
  have hlen := congrArg List.length (hrefused.trans hb.refused.symm)
  simp at hlen

theorem drawEventId_bound : Triple (Bound s₀ held) w.drawEventId (fun _ => Bound s₀ held)
    (Fails s₀) :=
  Triple.act fun _ hb => ⟨hb.world, hb.lost, hb.refused⟩

include hw

theorem newEvent_bound {task : AgentTask} {seq : Nat} {status : TaskStatus}
    {payload : TaskEventPayload} :
    Triple (Bound s₀ held) (w.newEvent task seq status payload) (fun _ => Bound s₀ held)
      (Fails s₀) := by
  refine Triple.bind drawEventId_bound fun id => ?_
  exact bound_bind (along_now hw.moves) fun timestamp => Triple.pure fun s hb => hb

theorem publish_bound {event : TaskEvent} :
    Triple (Bound s₀ held) (w.publish event) (fun _ => Bound s₀ held) (Fails s₀) := by
  refine bound_bind (along_service (hw.moves.emit event)) fun answer => ?_
  cases answer with
  | ok _ => exact Triple.act fun s hb => ⟨hb.world, hb.lost, hb.refused⟩
  | error error => cases error <;> exact lose_bound

theorem emit_bound {event : TaskEvent} :
    Triple (Bound s₀ held) (w.emit event) (fun _ => Bound s₀ held) (Fails s₀) := by
  unfold emit
  split
  · exact publish_bound hw
  · rename_i lifecycle hlifecycle
    have hl := hw.moves.lifecycle lifecycle hlifecycle
    refine bound_bind (along_service (hl.transition event)) fun answer => ?_
    cases answer with
    | error error => exact lose_bound
    | ok result =>
      cases result with
      | committed => exact publish_bound hw
      | replay => exact publish_bound hw
      | stale => exact lose_bound

theorem retire_bound {task : AgentTask} {s : WorkerState (ControlledWorld τ)}
    (hb : Bound s₀ (some task.task_id) s) : Bound s₀ none (w.retire task s) := by
  unfold retire
  rw [if_pos hw.cancellation]
  exact ⟨hw.retire task.task_id s.world hb.world, hb.lost, hb.refused⟩

theorem terminate_bound {task : AgentTask} {seq : Nat} {status : TaskStatus}
    {payload : TaskEventPayload} :
    Triple (Bound s₀ (some task.task_id)) (w.terminate task seq status payload)
      (fun _ => Bound s₀ none) (Fails s₀) := by
  refine Triple.bind (newEvent_bound hw) fun event => ?_
  exact Triple.ensure (emit_bound hw) (fun _ s hb => retire_bound hw hb)
    fun _ s hf => hf.along (along_retire hw.moves task s)

theorem finalizeCapability_bound {dispatcher : TaskDispatcher (ControlledWorld τ)}
    (hd : dispatcher.Moves Around) {task : AgentTask} {seq : Nat} {status : TaskStatus}
    {payload : TaskEventPayload} {capability : FinalizationCapability} :
    Triple (Bound s₀ (some task.task_id))
      (w.finalizeCapability dispatcher task seq status payload capability)
      (fun _ => Bound s₀ none) (Fails s₀) := by
  refine Triple.bind (newEvent_bound hw) fun event => ?_
  cases capability.command with
  | none => exact refuseHandoff_bound
  | some sender =>
    refine bound_bind (along_service (hd.finalize sender event)) fun answer => ?_
    have hretire : Triple (Bound s₀ (some task.task_id)) (act fun s => ((), w.retire task s))
        (fun (_ : Unit) => Bound s₀ none) (Fails s₀) :=
      Triple.act fun s hb => retire_bound hw hb
    cases answer with
    | none => exact Triple.bind refuseHandoff_bound fun _ => hretire
    | some result =>
      cases result with
      | committed | alreadyTerminal => exact Triple.bind (emit_bound hw) fun _ => hretire
      | stale | fenced | recoveryNeeded =>
        exact Triple.bind refuseHandoff_bound fun _ => hretire

theorem interruptAccepted_bound {dispatcher : TaskDispatcher (ControlledWorld τ)}
    (hd : dispatcher.Moves Around) {request : DispatchRequest} {seq : Nat}
    {interrupt : Interrupt} :
    Triple (Bound s₀ (some request.task.task_id))
      (w.interruptAccepted dispatcher request seq interrupt)
      (fun _ => Bound s₀ none) (Fails s₀) := by
  refine Triple.ite (fun _ => ?_) fun _ => terminate_bound hw
  refine bound_bind (along_service (hd.cancelPrepared request interrupt.cancelText))
    fun answer => ?_
  cases answer with
  | error error => exact refuseHandoff_bound
  | ok capability => exact finalizeCapability_bound hw hd

theorem deliveryFailure_bound {dispatcher : TaskDispatcher (ControlledWorld τ)}
    (hd : dispatcher.Moves Around) {request : DispatchRequest} {seq : Nat}
    {error : DispatchError} :
    Triple (Bound s₀ (some request.task.task_id))
      (w.deliveryFailure dispatcher request seq error)
      (fun _ => Bound s₀ none) (Fails s₀) := by
  refine bound_bind (along_interrupted hw.moves request.task) fun interrupt => ?_
  refine Triple.bind (newEvent_bound hw) fun event => ?_
  refine bound_bind (along_service (hd.finalizeDeliveryFailure request event)) fun answer => ?_
  cases answer with
  | error error => exact refuseHandoff_bound
  | ok _ =>
    exact Triple.ensure (emit_bound hw) (fun _ s hb => retire_bound hw hb)
      fun _ s hf => hf.along (along_retire hw.moves _ s)

/-- The exit to recovery leaves the task active, and its recovery recorded. -/
theorem executePreparedStage_bound {transport : TransportType}
    {dispatcher : TaskDispatcher (ControlledWorld τ)}
    (hdispatcher : w.dispatchers transport = some dispatcher) {request : DispatchRequest}
    {seq : Nat} :
    Triple (Bound s₀ (some request.task.task_id)) (w.executePreparedStage dispatcher request seq)
      (fun _ => Bound s₀ none) (Fails s₀) := by
  have hd := hw.moves.dispatcher transport dispatcher hdispatcher
  have hrecord : Triple (Bound s₀ (some request.task.task_id))
      (service (dispatcher.executePrepared request))
      (fun answer s => Bound s₀ (some request.task.task_id) s ∧
        (answer = .error .recoveryNeeded → request.task.task_id ∈ s.world.recoveries))
      (Fails s₀) := by
    intro s hb
    refine ⟨hb.along ⟨_, hd.executePrepared request s.world, rfl⟩, fun hanswer => ?_⟩
    exact hw.recovery transport dispatcher request s.world hdispatcher hanswer
  refine Triple.bind (Q := fun raced s => Bound s₀ (some request.task.task_id) s ∧
    (raced = .done (.error .recoveryNeeded) → request.task.task_id ∈ s.world.recoveries))
    ?_ fun raced => ?_
  · refine race_triple (P := Bound s₀ (some request.task.task_id)) hw.moves
      (fun _ _ h hb => hb.along h) ?_ ?_ ?_
    · exact hrecord.post fun answer s h => ⟨h.1, fun heq => h.2 (by cases heq; rfl)⟩
    · exact fun _ s hb => ⟨hb, nofun⟩
    · exact fun _ s hb => ⟨hb, nofun⟩
  · cases raced with
    | cancelled reason => exact (interruptAccepted_bound hw hd).pre fun _ h => h.1
    | timedOut deadline => exact (interruptAccepted_bound hw hd).pre fun _ h => h.1
    | done result =>
      cases result with
      | ok prepared =>
        refine Triple.pre ?_ fun _ h => h.1
        show Triple _ (w.finalizePrepared dispatcher request.task seq prepared) _ _
        unfold finalizePrepared
        split <;> exact finalizeCapability_bound hw hd
      | error error =>
        refine Triple.ite (fun hrecovery => Triple.throw fun s h => ?_)
          fun _ => (terminate_bound hw).pre fun _ h => h.1
        subst hrecovery
        intro _ _ t ht
        rcases h.1.world t ht with hrec | heq
        · exact Or.inl hrec
        · cases heq
          exact Or.inl (h.2 rfl)

omit hw in
/-- The rest of an attempt that ends the task. -/
theorem finished_bound {m : Work (ControlledWorld τ) Unit} {task : AgentTask} {attempt : UInt32}
    {P : WorkerState (ControlledWorld τ) → Prop}
    (hm : Triple P m (fun _ => Bound s₀ none) (Fails s₀)) :
    Triple P (do m; pure (Next.finished : Next w.config.retry attempt))
      (fun next => Bound s₀ (next.inHand task)) (Fails s₀) :=
  Triple.bind hm fun _ => Triple.pure fun _ h => h

variable [Externals]

theorem retryOrFail_bound {task : AgentTask} {attempt : UInt32} {seq : Nat}
    {error : DispatchError} :
    Triple (Bound s₀ (some task.task_id)) (w.retryOrFail task attempt seq error)
      (fun next => Bound s₀ (next.inHand task)) (Fails s₀) := by
  refine bound_bind (along_refused hw.moves task attempt error) fun answer => ?_
  cases answer with
  | cancelled reason => exact finished_bound (terminate_bound hw)
  | timedOut deadline => exact finished_bound (terminate_bound hw)
  | done verdict =>
    cases verdict with
    | none => exact finished_bound (terminate_bound hw)
    | some allowed => exact Triple.pure fun s hb => hb

theorem executeStage_bound {dispatcher : TaskDispatcher (ControlledWorld τ)}
    (hd : dispatcher.Moves Around) {request : DispatchRequest} {seq : Nat} :
    Triple (Bound s₀ (some request.task.task_id)) (w.executeStage dispatcher request seq)
      (fun next => Bound s₀ (next.inHand request.task)) (Fails s₀) := by
  refine bound_bind (along_race hw.moves (along_service (hd.execute request))) fun answer => ?_
  cases answer with
  | cancelled reason => exact finished_bound (terminate_bound hw)
  | timedOut deadline => exact finished_bound (terminate_bound hw)
  | done result =>
    cases result with
    | error error => exact retryOrFail_bound hw
    | ok outcome => cases outcome <;> exact finished_bound (terminate_bound hw)

section

variable {transport : TransportType} {dispatcher : TaskDispatcher (ControlledWorld τ)}
  (hdispatcher : w.dispatchers transport = some dispatcher)

include hdispatcher

theorem runAccepted_bound {request : DispatchRequest} {seq : Nat} :
    Triple (Bound s₀ (some request.task.task_id)) (w.runAccepted dispatcher request seq)
      (fun next => Bound s₀ (next.inHand request.task)) (Fails s₀) := by
  have hd := hw.moves.dispatcher transport dispatcher hdispatcher
  refine bound_bind (along_interrupted hw.moves request.task) fun interrupt => ?_
  cases interrupt with
  | some interrupt => exact finished_bound (interruptAccepted_bound hw hd)
  | none =>
    refine bound_bind (along_now hw.moves) fun started_at => ?_
    refine Triple.bind drawEventId_bound fun id => ?_
    refine Triple.bind (emit_bound hw) fun _ => ?_
    exact Triple.ite (fun _ => finished_bound (executePreparedStage_bound hw hdispatcher))
      fun _ => executeStage_bound hw hd

theorem deliverStage_bound (request : DispatchRequest) {seq : Nat} :
    Triple (Bound s₀ (some request.task.task_id)) (w.deliverStage dispatcher request seq)
      (fun next => Bound s₀ (next.inHand request.task)) (Fails s₀) := by
  have hd := hw.moves.dispatcher transport dispatcher hdispatcher
  refine bound_bind (along_deliverRaced hw.moves hd request) fun delivered => ?_
  cases delivered with
  | cancelled reason => exact finished_bound (terminate_bound hw)
  | timedOut deadline => exact finished_bound (terminate_bound hw)
  | done result =>
    cases result with
    | ok _ => exact runAccepted_bound hw hdispatcher
    | error error =>
      exact Triple.ite (fun _ => finished_bound (deliveryFailure_bound hw hd))
        fun _ => retryOrFail_bound hw

theorem attemptOnce_bound {target : RegisteredEndpoint} {task : AgentTask}
    {queue_lease : Option QueueLeaseContext} {seq : Nat} {attempt : UInt32} :
    Triple (Bound s₀ (some task.task_id))
      (w.attemptOnce dispatcher target task queue_lease seq attempt)
      (fun next => Bound s₀ (next.inHand task)) (Fails s₀) := by
  refine bound_bind (along_interrupted hw.moves task) fun interrupt => ?_
  cases interrupt with
  | some interrupt => exact finished_bound (terminate_bound hw)
  | none =>
    have hdraw : Triple (Bound s₀ (some task.task_id)) w.drawDeliveryId
        (fun _ => Bound s₀ (some task.task_id)) (Fails s₀) :=
      Triple.act fun _ hb => ⟨hb.world, hb.lost, hb.refused⟩
    refine Triple.bind hdraw fun delivery_id => ?_
    refine Triple.bind (newEvent_bound hw) fun dispatched => ?_
    refine Triple.bind (emit_bound hw) fun _ => ?_
    refine bound_bind (along_queueHooks hw.moves task queue_lease) fun hooks => ?_
    cases hooks with
    | error error => exact finished_bound (terminate_bound hw)
    | ok _ =>
      let request : DispatchRequest :=
        { task := task, target := target, delivery_id := delivery_id, attempt := attempt,
          queue_lease := queue_lease }
      exact deliverStage_bound hw hdispatcher request

theorem attempts_bound {target : RegisteredEndpoint} {task : AgentTask}
    {queue_lease : Option QueueLeaseContext} (n : Nat) :
    ∀ {seq : Nat} {attempt : UInt32}, w.config.retry.limit - attempt.toNat = n →
      Triple (Bound s₀ (some task.task_id))
        (w.attempts dispatcher target task queue_lease seq attempt)
        (fun _ => Bound s₀ none) (Fails s₀) := by
  -- as the loop itself, on the attempts that are left
  induction n using Nat.strongRecOn with
  | _ n ih =>
    intro seq attempt hn
    rw [attempts]
    refine Triple.bind (attemptOnce_bound hw hdispatcher) fun next => ?_
    cases next with
    | finished => exact Triple.pure fun _ h => h
    | again next allowed =>
      obtain ⟨hsucc, hlt⟩ := succ_of_allowed allowed
      exact ih _ (by omega) rfl

end

/-- **One task: its record is released, or it was left to recovery.** -/
theorem process_bound (task : AgentTask) :
    Triple (Bound s₀ none) (w.process task) (fun _ => Bound s₀ none) (Fails s₀) := by
  have hactivate : Triple (Bound s₀ none)
      (act fun s => ((), if w.config.cancellation then
        s.onWorld (w.services.activate task.task_id) else s) : Work (ControlledWorld τ) Unit)
      (fun _ => Bound s₀ (some task.task_id)) (Fails s₀) := by
    refine Triple.act fun s hb => ?_
    dsimp only
    rw [if_pos hw.cancellation]
    exact ⟨hw.activate task.task_id s.world hb.world, hb.lost, hb.refused⟩
  refine Triple.bind hactivate fun _ => ?_
  refine bound_bind (along_interrupted hw.moves task) fun interrupt => ?_
  cases interrupt with
  | some interrupt => exact terminate_bound hw
  | none =>
    dsimp only
    split
    · exact terminate_bound hw
    · split
      · exact terminate_bound hw
      · split
        · exact terminate_bound hw
        · rename_i dispatcher hdispatcher
          refine bound_bind (along_claimQueue hw.moves task) fun claimed => ?_
          cases claimed with
          | error error => exact terminate_bound hw
          | ok queue_lease => exact attempts_bound hw hdispatcher _ rfl

/-! ### The loop -/

/-- One task, as the loop sees it: it goes on only with nothing in hand. -/
theorem process_goes_on (task : AgentTask) {E : WorkerError → WorkerState (ControlledWorld τ) → Prop} :
    Triple (Bound s₀ none) (attempt (w.process task))
      (fun result s => match result with
        | .ok () => Bound s₀ none s
        | .error e => e.isRecoveryNeeded = true → Bound s₀ none s) E := by
  intro s hb
  have hbound := process_bound hw task s hb
  have hspec := w.process_spec task s s rfl
  show match (w.process task s).1 with
    | .ok () => Bound s₀ none (w.process task s).2
    | .error e => e.isRecoveryNeeded = true → Bound s₀ none (w.process task s).2
  cases hp : w.process task s with
  | mk result s' =>
    rw [hp] at hbound hspec
    cases result with
    | ok value => exact hbound
    | error error =>
      intro hrec
      obtain ⟨k, phase, es, hst⟩ := hspec
      obtain ⟨-, hlost, hrefused⟩ := hst.recovery hrec
      have hlost' : s'.lost = s₀.lost := hlost.trans hb.lost
      have hrefused' : s'.refused = s₀.refused := hrefused.trans hb.refused
      exact ⟨hbound hlost' hrefused', hlost', hrefused'⟩

omit [Externals] in
theorem admitReady_bound {E : WorkerError → WorkerState (ControlledWorld τ) → Prop}
    (budget : Nat) : ∀ (queue : List QueuedTask) (arrival : Nat),
      Triple (Bound s₀ none) (w.admitReady budget queue arrival) (fun _ => Bound s₀ none) E := by
  induction budget with
  | zero => exact fun queue arrival => Triple.pure fun s h => h
  | succ budget ih =>
    intro queue arrival
    refine Triple.bind (Triple.within (along_service hw.moves.tryRecv)
      fun _ _ h hb => Bound.along h hb) fun answer => ?_
    cases answer with
    | empty => exact Triple.pure fun s h => h
    | disconnected => exact Triple.pure fun s h => h
    | task task =>
      have hreceive : Triple (Bound s₀ none) (receive task) (fun _ => Bound s₀ none) E :=
        Triple.act fun _ hb => ⟨hb.world, hb.lost, hb.refused⟩
      exact Triple.bind hreceive fun _ => ih _ _

/-- **Each round of the loop ends with nothing in hand.** -/
theorem runLoop_bound (fuel : Nat) : ∀ (queue : List QueuedTask) (arrival : Nat) (closed : Bool),
    Triple (Bound s₀ none) (w.runLoop fuel queue arrival closed) (fun _ => Bound s₀ none)
      (fun _ _ => True) := by
  induction fuel with
  | zero => exact fun queue arrival closed => Triple.pure fun s h => h
  | succ fuel ih =>
    intro queue arrival closed
    rw [runLoop]
    have hadmit : Triple (Bound s₀ none) (w.admitAvailable queue arrival closed)
        (fun _ => Bound s₀ none) (fun _ _ => True) :=
      Triple.ite (fun _ => Triple.pure fun _ h => h) fun _ => admitReady_bound hw _ _ _
    refine Triple.bind hadmit fun admitted => ?_
    obtain ⟨queue, arrival, closed⟩ := admitted
    dsimp only
    cases popQueue queue with
    | some popped =>
      refine Triple.bind (process_goes_on hw popped.1.task) fun result => ?_
      cases result with
      | ok value => exact ih popped.2 arrival closed
      | error error =>
        dsimp only
        by_cases hrec : error.isRecoveryNeeded = true
        · simp only [if_pos hrec]
          exact (ih popped.2 arrival closed).pre fun _ h => h hrec
        · simp only [if_neg hrec]
          exact Triple.throw fun _ _ => trivial
    | none =>
      refine Triple.ite (fun _ => Triple.pure fun _ h => h) fun _ => ?_
      refine Triple.bind (Triple.within (along_service hw.moves.recv)
        fun _ _ h hb => Bound.along h hb) fun answer => ?_
      cases answer with
      | none => exact Triple.pure fun _ h => h
      | some task =>
        have hreceive : Triple (Bound s₀ none) (receive task) (fun _ => Bound s₀ none)
            (fun _ _ => True) :=
          Triple.act fun _ hb => ⟨hb.world, hb.lost, hb.refused⟩
        exact Triple.bind hreceive fun _ => ih _ _ _

end

end Worker

/-- **At the loop head the active tasks are those that were left to recovery** (proved): after
any number of rounds, whatever the services answer and whoever else calls the handle, a task is
active only if its prepared execution answered `RecoveryNeeded`, so nothing is active as long as
none did. -/
theorem retired_unless_recovery [Externals] {τ : Type} (w : Worker τ)
    (operators : τ → List OperatorCall × τ) (s : WorkerState (ControlledWorld τ))
    (hstart : s.world.tables.active.rows = []) (fuel : Nat) :
    ((w.controlled operators).run fuel s).1 = .ok .outOfFuel →
      (∀ t, ((w.controlled operators).run fuel s).2.world.tables.active.get t ≠ none →
        t ∈ ((w.controlled operators).run fuel s).2.world.recoveries) ∧
      (((w.controlled operators).run fuel s).2.world.recoveries = [] →
        ((w.controlled operators).run fuel s).2.world.tables.active.rows = []) := by
  have hheld : Holding none s.world := by
    intro t ht
    rw [Table.get, hstart] at ht
    exact absurd rfl ht
  have hloop := Worker.runLoop_bound (w.controlled_recorded operators) fuel [] 0 false s
    ⟨hheld, rfl, rfl⟩
  intro hend
  have hrun : ((w.controlled operators).runLoop fuel [] 0 false s).1 = .ok .outOfFuel := hend
  have hafter : Holding none ((w.controlled operators).run fuel s).2.world := by
    show Holding none ((w.controlled operators).runLoop fuel [] 0 false s).2.world
    cases hp : (w.controlled operators).runLoop fuel [] 0 false s with
    | mk result s' =>
      rw [hp] at hloop hrun
      cases hrun
      exact hloop.world
  have hactive : ∀ t, ((w.controlled operators).run fuel s).2.world.tables.active.get t ≠ none →
      t ∈ ((w.controlled operators).run fuel s).2.world.recoveries :=
    fun t ht => (hafter t ht).resolve_right (by simp)
  refine ⟨hactive, fun hnone => List.eq_nil_iff_forall_not_mem.mpr fun e he => ?_⟩
  have hget := Table.get_of_mem he
  have hmem := hactive e.1 (by rw [hget]; exact Option.some_ne_none e)
  rw [hnone] at hmem
  exact absurd hmem List.not_mem_nil

/-- A prepared dispatcher whose executions all end in recovery. -/
def strandingDispatcher : TaskDispatcher Nat where
  supportsPrepared := true
  deliver _ n := (.ok (), n)
  execute _ n := (.error .recoveryNeeded, n)
  executePrepared _ n := (.error .recoveryNeeded, n)
  cancelPrepared _ _ n := (.error .recoveryNeeded, n)
  finalizeDeliveryFailure _ _ n := (.ok (), n)
  finalize _ _ n := (none, n)

/-- A worker that takes one task from its channel. -/
def strandingWorker : Worker Nat where
  registry := [⟨⟨3⟩, .acp, true, true⟩]
  services :=
    { now := fun n => (DateTime.ofSecs 10, n), reasonFor := fun _ n => (none, n),
      activate := fun _ n => n, retire := fun _ n => n, emit := fun _ n => (.ok (), n),
      sleepUntil := fun _ n => ((), n), arm := fun n => (.stage, n), maxCapacity := 4,
      tryRecv := fun n => (if n = 0 then .task someTask else .empty, n + 1),
      recv := fun n => (none, n) }
  dispatchers _ := some strandingDispatcher
  config := { limits := ⟨3, 8⟩, retry := ⟨1, .none⟩, cancellation := true, timer := false }
  lifecycle := none
  deliveryIds n := ⟨BitVec.ofNat 128 n⟩
  eventIds n := ⟨BitVec.ofNat 128 (n + 100)⟩

def strandingStart : WorkerState (ControlledWorld Nat) :=
  ⟨⟨0, CancellationState.new, []⟩, 0, 0, [], [], [], []⟩

/-- The task is over, the worker is at its loop head again, and the record is still there. -/
theorem stranded_active :
    ((strandingWorker.controlled fun n => ([], n)).run 1 strandingStart).1 = .ok .outOfFuel ∧
    ¬ ∀ t, ((strandingWorker.controlled fun n => ([], n)).run 1
      strandingStart).2.world.tables.active.get t = none := by
  refine ⟨by decide +kernel, fun h => ?_⟩
  have hstill : ((strandingWorker.controlled fun n => ([], n)).run 1
      strandingStart).2.world.tables.active.get ⟨1⟩ ≠ none := by decide +kernel
  exact hstill (h ⟨1⟩)

/-- With ordinary answers the same worker is at its loop head with nothing active. -/
theorem retired_unless_recovery_drained :
    ((({ strandingWorker with dispatchers := fun _ => none }).controlled
      fun n => ([], n)).run 1 strandingStart).2.world.tables.active.rows = [] := by
  have h := retired_unless_recovery { strandingWorker with dispatchers := fun _ => none }
    (fun n => ([], n)) strandingStart rfl 1 (by decide)
  exact h.2 (by decide)

end GuiguBridge
