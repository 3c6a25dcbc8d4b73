import GuiguBridge.Bus.WorldFrame
import GuiguBridge.Reference

/-!
# The grammar of a worker's events

What `Worker::process` can publish for one task, whatever the dispatcher, the clock, the
cancellations and the lifecycle answer (`src/src/bus/worker.rs`, "The extended `seq` grammar").

* `Grammar` — the event lists of one task, grown at the end: any number of `Dispatched`, each
  with at most one `Running` right after it, then one terminal event.  It counts the
  deliveries and says in which `Phase` the list ends;
* `Traced` — the worker stands in a phase of the grammar and has drawn as many identities as
  the list accounts for;
* `process_spec` — **`process` ends either with the grammar closed or stopped with it open**,
  and in the second case `Stopped` says which of three things stopped it;
* `event_grammar` — the grammar read off as facts about the list.
-/

namespace GuiguBridge

open Prog

/-! ### The grammar -/

/-- Where the events of one task stand. -/
inductive Phase where
  | start | dispatched | running | closed
  deriving DecidableEq

theorem Phase.dispatched_live : Phase.dispatched ≠ .closed := nofun

theorem Phase.dispatched_begun : Phase.dispatched ≠ .start := nofun

theorem Phase.running_live : Phase.running ≠ .closed := nofun

theorem Phase.running_begun : Phase.running ≠ .start := nofun

/-- The status a payload belongs to. -/
def TaskEventPayload.status : TaskEventPayload → TaskStatus
  | .queued => .queued
  | .dispatched _ _ => .dispatched
  | .running _ => .running
  | .completed _ => .completed
  | .failed _ => .failed
  | .timedOut _ => .timedOut
  | .cancelled _ => .cancelled

/-- What every event of a task carries, after the events `es` before it. -/
structure Entry (task_id : TaskId) (ids : Nat → EventId) (es : List TaskEvent)
    (payload : TaskEventPayload) (event : TaskEvent) : Prop where
  id : event.id = ids es.length
  task_id : event.task_id = task_id
  seq : event.seq = es.length + 2
  status : event.status = payload.status
  payload : event.payload = payload

/-- The event lists of one task, with the deliveries they record and the phase they end in. -/
inductive Grammar (task_id : TaskId) (deliveries : Nat → DeliveryId) (ids : Nat → EventId) :
    Nat → Phase → List TaskEvent → Prop
  | start : Grammar task_id deliveries ids 0 .start []
  | dispatch {k : Nat} {phase : Phase} {es : List TaskEvent} {event : TaskEvent}
      {attempt : UInt32} (before : Grammar task_id deliveries ids k phase es)
      (live : phase ≠ .closed) (number : attempt.toNat = k + 1)
      (entry : Entry task_id ids es (.dispatched (deliveries k) attempt) event) :
      Grammar task_id deliveries ids (k + 1) .dispatched (es ++ [event])
  | run {k : Nat} {es : List TaskEvent} {event : TaskEvent} {started_at : DateTime}
      (before : Grammar task_id deliveries ids k .dispatched es)
      (entry : Entry task_id ids es (.running started_at) event) :
      Grammar task_id deliveries ids k .running (es ++ [event])
  | close {k : Nat} {phase : Phase} {es : List TaskEvent} {event : TaskEvent}
      {payload : TaskEventPayload} (before : Grammar task_id deliveries ids k phase es)
      (live : phase ≠ .closed) (terminal : payload.status.isTerminal = true)
      (completed : payload.status = .completed → phase = .running)
      (entry : Entry task_id ids es payload event) :
      Grammar task_id deliveries ids k .closed (es ++ [event])

/-- A task has at most two events for each delivery, and one to close. -/
theorem Grammar.length_le {task_id : TaskId} {deliveries : Nat → DeliveryId}
    {ids : Nat → EventId} {k : Nat} {phase : Phase} {es : List TaskEvent}
    (h : Grammar task_id deliveries ids k phase es) :
    es.length + (if phase = .dispatched then 1 else 0) ≤
      2 * k + (if phase = .closed then 1 else 0) := by
  induction h with
  | start => simp
  | dispatch before live number entry ih =>
    simp only [List.length_append, List.length_singleton, if_pos, if_neg live] at ih ⊢
    split at ih <;> simp <;> omega
  | run before entry ih =>
    simp only [List.length_append, List.length_singleton, reduceCtorEq, if_true, if_false] at ih ⊢
    omega
  | close before live terminal completed entry ih =>
    simp only [List.length_append, List.length_singleton, if_neg live, if_true, reduceCtorEq,
      if_false] at ih ⊢
    split at ih <;> omega

/-- The delivery identity and the attempt number of a `Dispatched` event. -/
def TaskEvent.delivery? (event : TaskEvent) : Option (DeliveryId × UInt32) :=
  match event.payload with
  | .dispatched delivery_id attempt => some (delivery_id, attempt)
  | _ => none

theorem Entry.delivery_none {task_id : TaskId} {ids : Nat → EventId} {es : List TaskEvent}
    {payload : TaskEventPayload} {event : TaskEvent} (h : Entry task_id ids es payload event)
    (hd : payload.status ≠ .dispatched) : event.delivery? = none := by
  rw [TaskEvent.delivery?, h.payload]
  cases payload <;> first | rfl | exact absurd rfl hd

theorem Entry.delivery_some {task_id : TaskId} {ids : Nat → EventId} {es : List TaskEvent}
    {delivery_id : DeliveryId} {attempt : UInt32} {event : TaskEvent}
    (h : Entry task_id ids es (.dispatched delivery_id attempt) event) :
    event.delivery? = some (delivery_id, attempt) := by
  rw [TaskEvent.delivery?, h.payload]

namespace Grammar

variable {task_id : TaskId} {deliveries : Nat → DeliveryId} {ids : Nat → EventId} {k : Nat}
  {phase : Phase} {es : List TaskEvent}

/-- Every event is an entry after the events before it. -/
theorem entry_of_mem (h : Grammar task_id deliveries ids k phase es) {event : TaskEvent}
    (he : event ∈ es) : event.task_id = task_id ∧ event.status = event.payload.status := by
  induction h with
  | start => nomatch he
  | dispatch _ _ _ entry ih | run _ entry ih | close _ _ _ _ entry ih =>
    rcases List.mem_append.mp he with he | he
    · exact ih he
    · rw [List.mem_singleton.mp he, entry.payload]
      exact ⟨entry.task_id, entry.status⟩

theorem seqs (h : Grammar task_id deliveries ids k phase es) :
    es.map (·.seq) = List.range' 2 es.length := by
  induction h with
  | start => rfl
  | dispatch _ _ _ entry ih | run _ entry ih | close _ _ _ _ entry ih =>
    rw [List.map_append, ih, List.map_singleton, entry.seq, List.length_append,
      List.length_singleton, List.range'_1_concat, Nat.add_comm]

theorem delivery_ids (h : Grammar task_id deliveries ids k phase es) :
    (es.filterMap (·.delivery?)).map (·.1) = (List.range k).map deliveries ∧
      (es.filterMap (·.delivery?)).map (·.2.toNat) = List.range' 1 k := by
  induction h with
  | start => exact ⟨rfl, rfl⟩
  | dispatch _ _ number entry ih =>
    have hd := entry.delivery_some
    rw [List.filterMap_append, List.map_append, List.map_append, ih.1, ih.2, List.range_succ,
      List.map_append, List.range'_1_concat, List.filterMap_cons_some hd, List.filterMap_nil]
    simp [number, Nat.add_comm]
  | run _ entry ih =>
    rw [List.filterMap_append, List.filterMap_cons_none (entry.delivery_none nofun),
      List.filterMap_nil, List.append_nil]
    exact ih
  | close _ _ terminal _ entry ih =>
    have hd := entry.delivery_none fun h => by rw [h] at terminal; exact nomatch terminal
    rw [List.filterMap_append, List.filterMap_cons_none hd, List.filterMap_nil,
      List.append_nil]
    exact ih

theorem getElem?_concat {α : Type} {xs : List α} {a b : α} {i : Nat}
    (h : (xs ++ [a])[i]? = some b) : xs[i]? = some b ∨ (i = xs.length ∧ b = a) := by
  rw [List.getElem?_append] at h
  split at h
  · exact Or.inl h
  · obtain ⟨hlt, hb⟩ := List.getElem?_eq_some_iff.mp h
    rw [List.length_singleton] at hlt
    refine Or.inr ⟨by omega, ?_⟩
    rw [← hb, List.getElem_singleton]

/-- In the phase `dispatched` the last event is `Dispatched`. -/
theorem last_dispatched (h : Grammar task_id deliveries ids k .dispatched es) :
    ∃ init event, es = init ++ [event] ∧ event.status = .dispatched := by
  cases h with
  | dispatch _ _ _ entry => exact ⟨_, _, rfl, entry.status⟩

/-- `Running` stands right after a `Dispatched`. -/
theorem running_after (h : Grammar task_id deliveries ids k phase es) {i : Nat}
    {event : TaskEvent} (hi : es[i]? = some event) (hr : event.status = .running) :
    ∃ j before, i = j + 1 ∧ es[j]? = some before ∧ before.status = .dispatched := by
  -- What stands before the last event stays where it was.
  have hkeep : ∀ {xs : List TaskEvent} {last : TaskEvent}, (∃ j before, i = j + 1 ∧
      xs[j]? = some before ∧ before.status = .dispatched) → ∃ j before, i = j + 1 ∧
      (xs ++ [last])[j]? = some before ∧ before.status = .dispatched := by
    rintro xs last ⟨j, before, rfl, hj, hb⟩
    refine ⟨j, before, rfl, ?_, hb⟩
    rw [List.getElem?_append_left (List.getElem?_eq_some_iff.mp hj).1]
    exact hj
  induction h with
  | start => nomatch hi
  | dispatch _ _ _ entry ih =>
    rcases getElem?_concat hi with hi | ⟨-, rfl⟩
    · exact hkeep (ih hi)
    · rw [entry.status] at hr
      exact nomatch hr
  | run before entry ih =>
    rcases getElem?_concat hi with hi | ⟨rfl, -⟩
    · exact hkeep (ih hi)
    · obtain ⟨init, d, rfl, hd⟩ := before.last_dispatched
      refine ⟨init.length, d, List.length_append, ?_, hd⟩
      simp
  | close _ _ terminal _ entry ih =>
    rcases getElem?_concat hi with hi | ⟨-, rfl⟩
    · exact hkeep (ih hi)
    · rw [← entry.status, hr] at terminal
      exact nomatch terminal

/-- A live list has no terminal event. -/
theorem no_terminal (h : Grammar task_id deliveries ids k phase es) (hlive : phase ≠ .closed) :
    ∀ event ∈ es, event.status.isTerminal = false := by
  induction h with
  | start => nofun
  | dispatch _ live _ entry ih =>
    intro e he
    rcases List.mem_append.mp he with he | he
    · exact ih live e he
    · rw [List.mem_singleton.mp he, entry.status]
      rfl
  | run _ entry ih =>
    intro e he
    rcases List.mem_append.mp he with he | he
    · exact ih Phase.dispatched_live e he
    · rw [List.mem_singleton.mp he, entry.status]
      rfl
  | close => exact absurd rfl hlive

/-- A closed list ends in its one terminal event. -/
theorem terminal_last (h : Grammar task_id deliveries ids k .closed es) :
    ∃ init last, es = init ++ [last] ∧ last.status.isTerminal = true ∧
      ∀ event ∈ init, event.status.isTerminal = false := by
  cases h with
  | close before live terminal _ entry =>
    refine ⟨_, _, rfl, ?_, before.no_terminal live⟩
    rw [entry.status]
    exact terminal

end Grammar

/-- The task and the sequence number an error names. -/
def WorkerError.place : WorkerError → TaskId × Nat
  | .eventStreamClosed task_id seq => (task_id, seq)
  | .eventBackpressure task_id seq => (task_id, seq)
  | .eventWrite task_id seq _ => (task_id, seq)

/-! ### Services leave the worker's own state alone -/

theorem TaskDispatcher.moves_anywhere {σ : Type} (dispatcher : TaskDispatcher σ) :
    dispatcher.Moves fun _ _ => True :=
  ⟨fun _ _ => trivial, fun _ _ => trivial, fun _ _ => trivial, fun _ _ _ => trivial,
    fun _ _ _ => trivial, fun _ _ _ => trivial⟩

namespace Worker

section

variable {σ α : Type} (w : Worker σ)

/-- Only the world moves. -/
def Quiet (s s' : WorkerState σ) : Prop := ∃ world, s' = { s with world := world }

theorem Quiet.refl (s : WorkerState σ) : Quiet s s := ⟨s.world, rfl⟩

/-- A service may move the world anywhere. -/
theorem moves_anywhere : w.Moves fun _ _ => True :=
  ⟨fun _ => trivial, fun _ _ _ _ _ => trivial, fun _ => trivial, fun _ _ => trivial,
    fun _ _ => trivial, fun _ _ => trivial, fun _ _ => trivial, fun _ => trivial,
    fun _ => trivial, fun _ => trivial,
    fun _ _ => ⟨fun _ _ => trivial, fun _ _ => trivial, fun _ _ _ => trivial,
      fun _ _ _ => trivial⟩,
    fun _ dispatcher _ => dispatcher.moves_anywhere⟩

theorem Along.quiet {R : σ → σ → Prop} (s s' : WorkerState σ) (h : Along R s s') :
    Quiet s s' := by
  obtain ⟨world, -, hs⟩ := h
  exact ⟨world, hs⟩

theorem quiet_service (f : σ → α × σ) : Within Quiet (service f) :=
  Within.act fun s => ⟨(f s.world).2, rfl⟩

theorem quiet_now : Within Quiet w.now := quiet_service _

theorem quiet_interrupted (task : AgentTask) : Within Quiet (w.interrupted task) :=
  (along_interrupted w.moves_anywhere task).mono Along.quiet

theorem quiet_race {task : AgentTask} {f : σ → α × σ} :
    Within Quiet (w.race task (service f)) :=
  (along_race w.moves_anywhere (along_service fun _ => trivial)).mono Along.quiet

theorem quiet_deliverRaced (dispatcher : TaskDispatcher σ) (request : DispatchRequest) :
    Within Quiet (w.deliverRaced dispatcher request) :=
  (along_deliverRaced w.moves_anywhere dispatcher.moves_anywhere request).mono Along.quiet

theorem quiet_queueHooks (task : AgentTask) (queue_lease : Option QueueLeaseContext) :
    Within Quiet (w.queueHooks task queue_lease) :=
  (along_queueHooks w.moves_anywhere task queue_lease).mono Along.quiet

theorem quiet_claimQueue (task : AgentTask) : Within Quiet (w.claimQueue task) :=
  (along_claimQueue w.moves_anywhere task).mono Along.quiet

theorem quiet_refused [Externals] (task : AgentTask) (attempt : UInt32) (error : DispatchError) :
    Within Quiet (w.refused task attempt error) :=
  (along_refused w.moves_anywhere task attempt error).mono Along.quiet

theorem quiet_retire (task : AgentTask) (s : WorkerState σ) : Quiet s (w.retire task s) :=
  Along.quiet _ _ (along_retire w.moves_anywhere task s)

end

/-! ### The worker on its way through the grammar -/

section

variable {σ : Type} (w : Worker σ)

/-- The lifecycle can answer `Stale`. -/
def AnswersStale : Prop :=
  ∃ lifecycle event world, w.lifecycle = some lifecycle ∧
    (lifecycle.transition event world).1 = .ok .stale

/-- A prepared dispatcher can refuse to take over a terminal event. -/
inductive Refuses (dispatcher : TaskDispatcher σ) : Prop
  | deliveryFailure {request : DispatchRequest} {event : TaskEvent} {world : σ}
      {error : DispatchError}
      (h : (dispatcher.finalizeDeliveryFailure request event world).1 = .error error)
  | cancel {request : DispatchRequest} {reason : String} {world : σ} {error : DispatchError}
      (h : (dispatcher.cancelPrepared request reason world).1 = .error error)
  | cancelled {request : DispatchRequest} {reason : String} {world : σ}
      {capability : FinalizationCapability}
      (h : (dispatcher.cancelPrepared request reason world).1 = .ok capability)
      (bare : capability.command = none)
  | prepared {request : DispatchRequest} {world : σ} {prepared : PreparedExecution}
      (h : (dispatcher.executePrepared request world).1 = .ok prepared)
      (bare : prepared.capability.command = none)
  | finalize {sender : Nat} {event : TaskEvent} {world : σ} {answer : Option FinalizeResult}
      (h : (dispatcher.finalize sender event world).1 = answer)
      (committed : answer ≠ some .committed) (already : answer ≠ some .alreadyTerminal)

/-- One of the worker's dispatchers is prepared and can refuse a terminal event. -/
def RefusesHandoff : Prop :=
  ∃ transport dispatcher, w.dispatchers transport = some dispatcher ∧
    dispatcher.supportsPrepared = true ∧ Refuses dispatcher

variable {w} in
theorem refusesHandoff_of {dispatcher : TaskDispatcher σ}
    (hd : ∃ transport, w.dispatchers transport = some dispatcher)
    (hprepared : dispatcher.supportsPrepared = true) (h : Refuses dispatcher) :
    w.RefusesHandoff := by
  obtain ⟨transport, hd⟩ := hd
  exact ⟨transport, dispatcher, hd, hprepared, h⟩

/-- The grammar over the identities that are still to be drawn in `s₀`. -/
def grammarFrom (task_id : TaskId) (s₀ : WorkerState σ) :
    Nat → Phase → List TaskEvent → Prop :=
  Grammar task_id (fun i => w.deliveryIds (s₀.deliveriesDrawn + i))
    (fun i => w.eventIds (s₀.eventsDrawn + i))

/-- Since `s₀` the worker has published `es` for the task, has drawn `d` delivery and `u` event
identities, and nothing was lost or refused. -/
structure Traced (task : AgentTask) (s₀ : WorkerState σ) (k : Nat) (phase : Phase)
    (es : List TaskEvent) (d u : Nat) (s : WorkerState σ) : Prop where
  emitted : s.emitted = s₀.emitted ++ es
  grammar : w.grammarFrom task.task_id s₀ k phase es
  deliveries : s.deliveriesDrawn = s₀.deliveriesDrawn + d
  events : s.eventsDrawn = s₀.eventsDrawn + u
  lost : s.lost = s₀.lost
  refused : s.refused = s₀.refused
  received : s.received = s₀.received

/-- Why `process` failed when its task had published `es`: an event was not written, the
dispatcher left the execution to recovery, or it refused a terminal handoff. -/
inductive StopCause (task : AgentTask) (s₀ : WorkerState σ) (phase : Phase)
    (es : List TaskEvent) (e : WorkerError) (s : WorkerState σ) : Prop
  | unwritten {event : TaskEvent} {cause : LossCause} {k : Nat} {next : Phase}
      (bound : k ≤ w.config.retry.limit)
      (grammar : w.grammarFrom task.task_id s₀ k next (es ++ [event]))
      (lost : s.lost = s₀.lost ++ [(event, cause)]) (refused : s.refused = s₀.refused)
      (place : e.place = (event.task_id, event.seq)) (blame : cause = .stale → w.AnswersStale)
  | recovery (running : phase = .running) (lost : s.lost = s₀.lost)
      (refused : s.refused = s₀.refused) (error : e = .recoveryNeeded task.task_id)
  | handoff (dispatched : phase ≠ .start) (lost : s.lost = s₀.lost)
      (refused : s.refused = s₀.refused ++ [(task.task_id, es.length + 2)])
      (error : e = .eventWrite task.task_id (es.length + 2) .taskChannelClosed)
      (blame : w.RefusesHandoff)

/-- `process` failed: the grammar is open. -/
structure Stopped (task : AgentTask) (s₀ : WorkerState σ) (k : Nat) (phase : Phase)
    (es : List TaskEvent) (e : WorkerError) (s : WorkerState σ) : Prop where
  emitted : s.emitted = s₀.emitted ++ es
  grammar : w.grammarFrom task.task_id s₀ k phase es
  live : phase ≠ .closed
  bound : k ≤ w.config.retry.limit
  received : s.received = s₀.received
  cause : w.StopCause task s₀ phase es e s

/-- The task's last event is written. -/
def Closed (task : AgentTask) (s₀ s : WorkerState σ) : Prop :=
  ∃ k es d u, k ≤ w.config.retry.limit ∧ w.Traced task s₀ k .closed es d u s

/-- The worker stopped in the middle of the task. -/
def Stop (task : AgentTask) (s₀ : WorkerState σ) (e : WorkerError) (s : WorkerState σ) : Prop :=
  ∃ k phase es, w.Stopped task s₀ k phase es e s

variable {w} {task : AgentTask} {s₀ : WorkerState σ} {k d u : Nat} {phase : Phase}
  {es : List TaskEvent}

theorem Traced.quiet {s s' : WorkerState σ} (h : Quiet s s')
    (ht : w.Traced task s₀ k phase es d u s) : w.Traced task s₀ k phase es d u s' := by
  obtain ⟨world, rfl⟩ := h
  exact ⟨ht.emitted, ht.grammar, ht.deliveries, ht.events, ht.lost, ht.refused, ht.received⟩

theorem Closed.quiet {s s' : WorkerState σ} (h : Quiet s s') (hc : w.Closed task s₀ s) :
    w.Closed task s₀ s' := by
  obtain ⟨k, es, d, u, hk, ht⟩ := hc
  exact ⟨k, es, d, u, hk, ht.quiet h⟩

theorem Stop.quiet {e : WorkerError} {s s' : WorkerState σ} (h : Quiet s s')
    (hs : w.Stop task s₀ e s) : w.Stop task s₀ e s' := by
  obtain ⟨world, rfl⟩ := h
  obtain ⟨k, phase, es, hst⟩ := hs
  refine ⟨k, phase, es, hst.emitted, hst.grammar, hst.live, hst.bound, hst.received, ?_⟩
  cases hst.cause with
  | unwritten bound grammar lost refused place blame =>
    exact .unwritten bound grammar lost refused place blame
  | recovery running lost refused error => exact .recovery running lost refused error
  | handoff dispatched lost refused error blame =>
    exact .handoff dispatched lost refused error blame

/-- A quiet stretch, then the rest. -/
theorem traced_bind {α β : Type} {m : Work σ α} {f : α → Work σ β}
    {Q : β → WorkerState σ → Prop} (hm : Within Quiet m)
    (hf : ∀ a, Triple (w.Traced task s₀ k phase es d u) (f a) Q (w.Stop task s₀)) :
    Triple (w.Traced task s₀ k phase es d u) (m >>= f) Q (w.Stop task s₀) :=
  Triple.bind (Triple.within hm fun _ _ h ht => ht.quiet h) hf

/-- A service, and the rest with its answer in some world. -/
theorem service_bind {α β : Type} {f : σ → α × σ} {g : α → Work σ β}
    {P : WorkerState σ → Prop} {Q : β → WorkerState σ → Prop}
    {E : WorkerError → WorkerState σ → Prop} (hP : ∀ s s', Quiet s s' → P s → P s')
    (hg : ∀ world, Triple P (g (f world).1) Q E) : Triple P (service f >>= g) Q E :=
  fun s hs => hg s.world _ (hP s _ ⟨_, rfl⟩ hs)

/-- A raced service: its answer in some world, or one of the two interruptions. -/
theorem race_bind {α β : Type} {f : σ → α × σ} {g : Raced α → Work σ β}
    {P : WorkerState σ → Prop} {Q : β → WorkerState σ → Prop}
    {E : WorkerError → WorkerState σ → Prop} (hP : ∀ s s', Quiet s s' → P s → P s')
    (hdone : ∀ world, Triple P (g (.done (f world).1)) Q E)
    (hcancelled : ∀ reason, Triple P (g (.cancelled reason)) Q E)
    (htimedOut : ∀ deadline, Triple P (g (.timedOut deadline)) Q E) :
    Triple P (w.race task (service f) >>= g) Q E := by
  refine Triple.bind (Q := fun raced s => P s ∧ Triple P (g raced) Q E) ?_
    fun raced s hs => hs.2 s hs.1
  have hstage : ∀ {E' : WorkerError → WorkerState σ → Prop}, Triple P
      (do let value ← service f; pure (Raced.done value) : Work σ (Raced α))
      (fun raced s => P s ∧ Triple P (g raced) Q E) E' :=
    service_bind hP fun world => Triple.pure fun s hs => ⟨hs, hdone world⟩
  refine service_bind hP fun world => ?_
  cases (w.services.arm world).1 with
  | stage => exact hstage
  | cancelled reason =>
    exact Triple.ite (fun _ => Triple.pure fun s hs => ⟨hs, hcancelled reason⟩) fun _ => hstage
  | expired =>
    dsimp only
    split
    · exact Triple.pure fun s hs => ⟨hs, htimedOut _⟩
    · exact hstage

theorem Traced.kept (s s' : WorkerState σ) (h : Quiet s s')
    (ht : w.Traced task s₀ k phase es d u s) : w.Traced task s₀ k phase es d u s' := ht.quiet h

/-! ### Writing one event -/

theorem drawEventId_triple :
    Triple (w.Traced task s₀ k phase es d u) w.drawEventId
      (fun id s => id = w.eventIds (s₀.eventsDrawn + u) ∧
        w.Traced task s₀ k phase es d (u + 1) s) (w.Stop task s₀) := by
  refine Triple.act fun s ht => ⟨?_, ?_⟩
  · show w.eventIds s.eventsDrawn = _
    rw [ht.events]
  · refine ⟨ht.emitted, ht.grammar, ht.deliveries, ?_, ht.lost, ht.refused, ht.received⟩
    show s.eventsDrawn + 1 = _
    rw [ht.events, Nat.add_assoc]

theorem drawDeliveryId_triple :
    Triple (w.Traced task s₀ k phase es d u) w.drawDeliveryId
      (fun id s => id = w.deliveryIds (s₀.deliveriesDrawn + d) ∧
        w.Traced task s₀ k phase es (d + 1) u s) (w.Stop task s₀) := by
  refine Triple.act fun s ht => ⟨?_, ?_⟩
  · show w.deliveryIds s.deliveriesDrawn = _
    rw [ht.deliveries]
  · refine ⟨ht.emitted, ht.grammar, ?_, ht.events, ht.lost, ht.refused, ht.received⟩
    show s.deliveriesDrawn + 1 = _
    rw [ht.deliveries, Nat.add_assoc]

/-- A new event is the next entry of the grammar. -/
theorem newEvent_triple {seq : Nat} {status : TaskStatus} {payload : TaskEventPayload}
    (hseq : seq = es.length + 2) (hstatus : status = payload.status) :
    Triple (w.Traced task s₀ k phase es d es.length) (w.newEvent task seq status payload)
      (fun event s => Entry task.task_id (fun i => w.eventIds (s₀.eventsDrawn + i)) es payload
        event ∧ w.Traced task s₀ k phase es d (es.length + 1) s) (w.Stop task s₀) := by
  refine Triple.bind drawEventId_triple fun id => Triple.assume fun hid => ?_
  refine traced_bind w.quiet_now fun timestamp => Triple.pure fun s ht => ⟨?_, ht⟩
  exact ⟨hid, rfl, hseq, hstatus, rfl⟩

/-- A lost event stops the worker. -/
theorem lose_triple {α : Type} {event : TaskEvent} {cause : LossCause} {error : WorkerError}
    {k' : Nat} {phase' : Phase} {Q : α → WorkerState σ → Prop} (hlive : phase ≠ .closed)
    (hk : k ≤ w.config.retry.limit) (hk' : k' ≤ w.config.retry.limit)
    (hg : w.grammarFrom task.task_id s₀ k' phase' (es ++ [event]))
    (hplace : error.place = (event.task_id, event.seq))
    (hblame : cause = .stale → w.AnswersStale) :
    Triple (w.Traced task s₀ k phase es d u) (lose event cause error) Q (w.Stop task s₀) := by
  refine Triple.bind (Q := fun _ => w.Stop task s₀ error) (Triple.act fun s ht => ?_)
    fun _ => Triple.throw fun s h => h
  refine ⟨k, phase, es, ht.emitted, ht.grammar, hlive, hk, ht.received, ?_⟩
  have hlost : s.lost ++ [(event, cause)] = s₀.lost ++ [(event, cause)] := by rw [ht.lost]
  exact .unwritten hk' hg hlost ht.refused hplace hblame

theorem publish_triple {event : TaskEvent} {k' : Nat} {phase' : Phase}
    (hlive : phase ≠ .closed) (hk : k ≤ w.config.retry.limit)
    (hk' : k' ≤ w.config.retry.limit)
    (hg : w.grammarFrom task.task_id s₀ k' phase' (es ++ [event])) :
    Triple (w.Traced task s₀ k phase es d u) (w.publish event)
      (fun _ => w.Traced task s₀ k' phase' (es ++ [event]) d u) (w.Stop task s₀) := by
  refine traced_bind (quiet_service _) fun answer => ?_
  cases answer with
  | ok _ =>
    refine Triple.act fun s ht => ?_
    refine ⟨?_, hg, ht.deliveries, ht.events, ht.lost, ht.refused, ht.received⟩
    show s.emitted ++ [event] = _
    rw [ht.emitted, List.append_assoc]
  | error error =>
    cases error with
    | eventSinkClosed | eventBufferFull | unknownTarget _ | targetDisabled _
    | addressUnavailable _ | queueFull | taskChannelClosed =>
      exact lose_triple hlive hk hk' hg rfl nofun

/-- `emit` takes the grammar one event further, or stops with the event lost. -/
theorem emit_triple {event : TaskEvent} {k' : Nat} {phase' : Phase}
    (hlive : phase ≠ .closed) (hk : k ≤ w.config.retry.limit)
    (hk' : k' ≤ w.config.retry.limit)
    (hg : w.grammarFrom task.task_id s₀ k' phase' (es ++ [event])) :
    Triple (w.Traced task s₀ k phase es d u) (w.emit event)
      (fun _ => w.Traced task s₀ k' phase' (es ++ [event]) d u) (w.Stop task s₀) := by
  unfold emit
  split
  · exact publish_triple hlive hk hk' hg
  · rename_i lifecycle hlifecycle
    refine service_bind Traced.kept fun world => ?_
    cases hanswer : (lifecycle.transition event world).1 with
    | error error => exact lose_triple hlive hk hk' hg rfl nofun
    | ok result =>
      cases result with
      | committed => exact publish_triple hlive hk hk' hg
      | replay => exact publish_triple hlive hk hk' hg
      | stale =>
        exact lose_triple hlive hk hk' hg rfl fun _ =>
          ⟨lifecycle, event, world, hlifecycle, hanswer⟩

/-- A terminal event closes the grammar. -/
theorem emit_terminal {event : TaskEvent} {payload : TaskEventPayload}
    (hlive : phase ≠ .closed) (hk : k ≤ w.config.retry.limit)
    (hterm : payload.status.isTerminal = true)
    (hcomp : payload.status = .completed → phase = .running) :
    Triple (fun s => Entry task.task_id (fun i => w.eventIds (s₀.eventsDrawn + i)) es payload
        event ∧ w.Traced task s₀ k phase es d u s)
      (w.emit event) (fun _ => w.Closed task s₀) (w.Stop task s₀) := by
  intro s hs
  have hg : w.grammarFrom task.task_id s₀ k .closed (es ++ [event]) :=
    .close hs.2.grammar hlive hterm hcomp hs.1
  exact (emit_triple hlive hk hk hg).post (fun _ s' ht => ⟨k, _, d, u, hk, ht⟩) s hs.2

section

variable (hlive : phase ≠ .closed) (hk : k ≤ w.config.retry.limit)

include hlive hk

theorem terminate_triple {seq : Nat} {status : TaskStatus} {payload : TaskEventPayload}
    (hseq : seq = es.length + 2) (hstatus : status = payload.status)
    (hterm : payload.status.isTerminal = true)
    (hcomp : payload.status = .completed → phase = .running) :
    Triple (w.Traced task s₀ k phase es d es.length) (w.terminate task seq status payload)
      (fun _ => w.Closed task s₀) (w.Stop task s₀) := by
  refine Triple.bind (newEvent_triple hseq hstatus) fun event => ?_
  exact Triple.ensure (emit_terminal hlive hk hterm hcomp)
    (fun _ s h => h.quiet (w.quiet_retire task s)) fun _ s h => h.quiet (w.quiet_retire task s)

theorem failTask_triple {seq : Nat} {error : String} (hseq : seq = es.length + 2) :
    Triple (w.Traced task s₀ k phase es d es.length) (w.failTask task seq error)
      (fun _ => w.Closed task s₀) (w.Stop task s₀) :=
  terminate_triple hlive hk hseq rfl rfl nofun

omit hlive hk in
theorem interrupt_terminal (phase : Phase) (interrupt : Interrupt) :
    interrupt.status = interrupt.payload.status ∧
      interrupt.payload.status.isTerminal = true ∧
      (interrupt.payload.status = .completed → phase = .running) := by
  cases interrupt <;> exact ⟨rfl, rfl, nofun⟩

theorem interruptTask_triple {seq : Nat} {interrupt : Interrupt} (hseq : seq = es.length + 2) :
    Triple (w.Traced task s₀ k phase es d es.length) (w.interruptTask task seq interrupt)
      (fun _ => w.Closed task s₀) (w.Stop task s₀) :=
  have h := interrupt_terminal phase interrupt
  terminate_triple hlive hk hseq h.1 h.2.1 h.2.2

theorem refuseHandoff_triple {α : Type} {seq : Nat} {Q : α → WorkerState σ → Prop}
    (hstart : phase ≠ .start) (hseq : seq = es.length + 2) (hblame : w.RefusesHandoff) :
    Triple (w.Traced task s₀ k phase es d u) (refuseHandoff task seq) Q (w.Stop task s₀) := by
  refine Triple.bind
    (Q := fun _ => w.Stop task s₀ (.eventWrite task.task_id seq .taskChannelClosed))
    (Triple.act fun s ht => ?_) fun _ => Triple.throw fun s h => h
  refine ⟨k, phase, es, ht.emitted, ht.grammar, hlive, hk, ht.received, ?_⟩
  refine .handoff hstart ht.lost ?_ (by rw [hseq]) hblame
  show s.refused ++ [(task.task_id, seq)] = _
  rw [ht.refused, hseq]

theorem finalizeCapability_triple {dispatcher : TaskDispatcher σ} {seq : Nat}
    {status : TaskStatus} {payload : TaskEventPayload} {capability : FinalizationCapability}
    (hblame : Refuses dispatcher → w.RefusesHandoff)
    (hbare : capability.command = none → Refuses dispatcher) (hstart : phase ≠ .start) (hseq : seq = es.length + 2) (hstatus : status = payload.status)
    (hterm : payload.status.isTerminal = true)
    (hcomp : payload.status = .completed → phase = .running) :
    Triple (w.Traced task s₀ k phase es d es.length)
      (w.finalizeCapability dispatcher task seq status payload capability)
      (fun _ => w.Closed task s₀) (w.Stop task s₀) := by
  refine Triple.bind (newEvent_triple hseq hstatus) fun event => ?_
  have hrefuse : ∀ {β : Type} {R : β → WorkerState σ → Prop}, Refuses dispatcher →
      Triple (fun s => Entry task.task_id (fun i => w.eventIds (s₀.eventsDrawn + i)) es payload
        event ∧ w.Traced task s₀ k phase es d (es.length + 1) s)
        (refuseHandoff task seq) R (w.Stop task s₀) :=
    fun h => (refuseHandoff_triple hlive hk hstart hseq (hblame h)).pre fun _ h => h.2
  cases hcommand : capability.command with
  | none => exact hrefuse (hbare hcommand)
  | some sender =>
    refine service_bind (fun _ _ hq h => ⟨h.1, h.2.quiet hq⟩) fun world => ?_
    have hretire : Triple (w.Closed task s₀) (act fun s => ((), w.retire task s))
        (fun (_ : Unit) => w.Closed task s₀) (w.Stop task s₀) :=
      Triple.act fun s h => Closed.quiet (w.quiet_retire task s) h
    cases hanswer : (dispatcher.finalize sender event world).1 with
    | none =>
      have href : Refuses dispatcher := .finalize hanswer nofun nofun
      exact Triple.bind (hrefuse href) fun _ => hretire
    | some result =>
      cases result with
      | committed | alreadyTerminal =>
        exact Triple.bind (emit_terminal hlive hk hterm hcomp) fun _ => hretire
      | stale | fenced | recoveryNeeded =>
        have href : Refuses dispatcher := .finalize hanswer nofun nofun
        exact Triple.bind (hrefuse href) fun _ => hretire

end

/-! ### One attempt -/

section

variable [Externals]

/-- An attempt that found the task after `k` deliveries: the task is closed, or the next
attempt finds it after one more. -/
def AttemptEnd (w : Worker σ) (task : AgentTask) (s₀ : WorkerState σ) (k : Nat)
    {attempt : UInt32} (next : Next w.config.retry attempt) (s : WorkerState σ) : Prop :=
  match next with
  | .finished => w.Closed task s₀ s
  | .again seq _ => ∃ phase es, phase ≠ .closed ∧ seq = es.length + 2 ∧
      w.Traced task s₀ k phase es k es.length s

omit [Externals] in
/-- The rest of an attempt that ends the task. -/
theorem finished_triple {m : Work σ Unit} {P : WorkerState σ → Prop} {attempt : UInt32}
    (hm : Triple P m (fun _ => w.Closed task s₀) (w.Stop task s₀)) :
    Triple P (do m; pure (Next.finished : Next w.config.retry attempt))
      (fun next => AttemptEnd w task s₀ k next) (w.Stop task s₀) :=
  Triple.bind hm fun _ => Triple.pure fun _ h => h

variable (hlive : phase ≠ .closed) (hk : k ≤ w.config.retry.limit)

include hlive hk

theorem retryOrFail_triple {attempt : UInt32} {seq : Nat} {error : DispatchError}
    (hseq : seq = es.length + 2) :
    Triple (w.Traced task s₀ k phase es k es.length) (w.retryOrFail task attempt seq error)
      (fun next => AttemptEnd w task s₀ k next) (w.Stop task s₀) := by
  refine traced_bind (w.quiet_refused task attempt error) fun answer => ?_
  cases answer with
  | cancelled reason => exact finished_triple (interruptTask_triple hlive hk hseq)
  | timedOut deadline => exact finished_triple (interruptTask_triple hlive hk hseq)
  | done verdict =>
    cases verdict with
    | none => exact finished_triple (failTask_triple hlive hk hseq)
    | some allowed => exact Triple.pure fun s ht => ⟨phase, es, hlive, hseq, ht⟩

section

variable {dispatcher : TaskDispatcher σ} {request : DispatchRequest} {seq : Nat}
  (hd : ∃ transport, w.dispatchers transport = some dispatcher)
  (hstart : phase ≠ .start) (hseq : seq = es.length + 2)

include hd hstart hseq

omit [Externals] in
theorem deliveryFailure_triple {error : DispatchError}
    (hprepared : dispatcher.supportsPrepared = true) :
    Triple (w.Traced request.task s₀ k phase es d es.length)
      (w.deliveryFailure dispatcher request seq error)
      (fun _ => w.Closed request.task s₀) (w.Stop request.task s₀) := by
  refine traced_bind (w.quiet_interrupted request.task) fun interrupt => ?_
  obtain ⟨hstatus, hterm, hcomp⟩ :
      (deliveryVerdict error interrupt).1 = (deliveryVerdict error interrupt).2.status ∧
      (deliveryVerdict error interrupt).2.status.isTerminal = true ∧
      ((deliveryVerdict error interrupt).2.status = .completed → phase = .running) := by
    cases interrupt with
    | none => exact ⟨rfl, rfl, nofun⟩
    | some interrupt => exact interrupt_terminal phase interrupt
  refine Triple.bind (newEvent_triple hseq hstatus) fun event => ?_
  refine service_bind (fun _ _ hq h => ⟨h.1, h.2.quiet hq⟩) fun world => ?_
  cases hanswer : (dispatcher.finalizeDeliveryFailure request event world).1 with
  | error error =>
    have hblame := refusesHandoff_of hd hprepared (.deliveryFailure hanswer)
    exact (refuseHandoff_triple hlive hk hstart hseq hblame).pre fun _ h => h.2
  | ok _ =>
    exact Triple.ensure (emit_terminal hlive hk hterm hcomp)
      (fun _ s h => h.quiet (w.quiet_retire _ s)) fun _ s h => h.quiet (w.quiet_retire _ s)

omit [Externals] in
theorem interruptAccepted_triple {interrupt : Interrupt} :
    Triple (w.Traced request.task s₀ k phase es d es.length)
      (w.interruptAccepted dispatcher request seq interrupt)
      (fun _ => w.Closed request.task s₀) (w.Stop request.task s₀) := by
  refine Triple.ite (fun hprepared => ?_) fun _ => interruptTask_triple hlive hk hseq
  refine service_bind Traced.kept fun world => ?_
  cases hanswer : (dispatcher.cancelPrepared request interrupt.cancelText world).1 with
  | error error =>
    exact refuseHandoff_triple hlive hk hstart hseq
      (refusesHandoff_of hd hprepared (.cancel hanswer))
  | ok capability =>
    obtain ⟨hstatus, hterm, hcomp⟩ := interrupt_terminal phase interrupt
    exact finalizeCapability_triple hlive hk (refusesHandoff_of hd hprepared)
      (.cancelled hanswer) hstart hseq hstatus hterm hcomp

end

omit hlive

omit [Externals] in
theorem executePreparedStage_triple {dispatcher : TaskDispatcher σ} {request : DispatchRequest}
    {seq : Nat} (hd : ∃ transport, w.dispatchers transport = some dispatcher)
    (hprepared : dispatcher.supportsPrepared = true) (hseq : seq = es.length + 2) :
    Triple (w.Traced request.task s₀ k .running es d es.length)
      (w.executePreparedStage dispatcher request seq)
      (fun _ => w.Closed request.task s₀) (w.Stop request.task s₀) := by
  have hinterrupt : ∀ interrupt, Triple (w.Traced request.task s₀ k .running es d es.length)
      (w.interruptAccepted dispatcher request seq interrupt)
      (fun _ => w.Closed request.task s₀) (w.Stop request.task s₀) := fun _ =>
    interruptAccepted_triple Phase.running_live hk hd Phase.running_begun hseq
  refine race_bind Traced.kept (fun world => ?_) (fun _ => hinterrupt _) fun _ => hinterrupt _
  cases hanswer : (dispatcher.executePrepared request world).1 with
  | ok prepared =>
    have hblame := refusesHandoff_of hd hprepared
    show Triple _ (w.finalizePrepared dispatcher request.task seq prepared) _ _
    unfold finalizePrepared
    split
    · exact finalizeCapability_triple Phase.running_live hk hblame (.prepared hanswer)
        Phase.running_begun hseq rfl rfl fun _ => rfl
    · exact finalizeCapability_triple Phase.running_live hk hblame (.prepared hanswer)
        Phase.running_begun hseq rfl rfl nofun
  | error error =>
    refine Triple.ite (fun _ => Triple.throw fun s ht => ?_) fun _ =>
      failTask_triple Phase.running_live hk hseq
    exact ⟨k, .running, es, ht.emitted, ht.grammar, Phase.running_live, hk, ht.received,
      .recovery rfl ht.lost ht.refused rfl⟩

theorem executeStage_triple {dispatcher : TaskDispatcher σ} {request : DispatchRequest}
    {seq : Nat} (hseq : seq = es.length + 2) :
    Triple (w.Traced request.task s₀ k .running es k es.length)
      (w.executeStage dispatcher request seq)
      (fun next => AttemptEnd w request.task s₀ k next) (w.Stop request.task s₀) := by
  refine traced_bind (w.quiet_race) fun answer => ?_
  cases answer with
  | cancelled reason => exact finished_triple (interruptTask_triple Phase.running_live hk hseq)
  | timedOut deadline => exact finished_triple (interruptTask_triple Phase.running_live hk hseq)
  | done result =>
    cases result with
    | error error => exact retryOrFail_triple Phase.running_live hk hseq
    | ok outcome =>
      cases outcome with
      | completed output =>
        exact finished_triple (terminate_triple Phase.running_live hk hseq rfl rfl fun _ => rfl)
      | failed error => exact finished_triple (failTask_triple Phase.running_live hk hseq)

theorem runAccepted_triple {dispatcher : TaskDispatcher σ} {request : DispatchRequest}
    {seq : Nat} (hd : ∃ transport, w.dispatchers transport = some dispatcher) (hseq : seq = es.length + 2) :
    Triple (w.Traced request.task s₀ k .dispatched es k es.length)
      (w.runAccepted dispatcher request seq)
      (fun next => AttemptEnd w request.task s₀ k next) (w.Stop request.task s₀) := by
  refine traced_bind (w.quiet_interrupted request.task) fun interrupt => ?_
  cases interrupt with
  | some interrupt =>
    exact finished_triple
      (interruptAccepted_triple Phase.dispatched_live hk hd Phase.dispatched_begun hseq)
  | none =>
    refine traced_bind w.quiet_now fun started_at => ?_
    refine Triple.bind drawEventId_triple fun id => Triple.assume fun hid => ?_
    intro s hs
    have hentry : Entry request.task.task_id (fun i => w.eventIds (s₀.eventsDrawn + i)) es
        (.running started_at)
        { id := id, task_id := request.task.task_id, seq := seq, status := .running,
          timestamp := started_at, payload := .running started_at } :=
      ⟨hid, rfl, hseq, rfl, rfl⟩
    have hg := hs.grammar.run hentry
    refine Triple.bind (emit_triple Phase.dispatched_live hk hk hg) (fun _ => ?_) s hs
    have hlen : ∀ event : TaskEvent, es.length + 1 = (es ++ [event]).length := by simp
    rw [hlen]
    refine Triple.ite
      (fun hprepared => finished_triple (executePreparedStage_triple hk hd hprepared ?_))
      fun _ => executeStage_triple hk ?_ <;> simp [hseq]

theorem deliverStage_triple {dispatcher : TaskDispatcher σ} (request : DispatchRequest)
    {seq : Nat} (hd : ∃ transport, w.dispatchers transport = some dispatcher) (hseq : seq = es.length + 2) :
    Triple (w.Traced request.task s₀ k .dispatched es k es.length)
      (w.deliverStage dispatcher request seq)
      (fun next => AttemptEnd w request.task s₀ k next) (w.Stop request.task s₀) := by
  refine traced_bind (w.quiet_deliverRaced dispatcher request) fun delivered => ?_
  cases delivered with
  | cancelled reason =>
    exact finished_triple (interruptTask_triple Phase.dispatched_live hk hseq)
  | timedOut deadline =>
    exact finished_triple (interruptTask_triple Phase.dispatched_live hk hseq)
  | done result =>
    cases result with
    | ok _ => exact runAccepted_triple hk hd hseq
    | error error =>
      exact Triple.ite
        (fun hprepared => finished_triple (deliveryFailure_triple Phase.dispatched_live hk hd
          Phase.dispatched_begun hseq hprepared))
        fun _ => retryOrFail_triple Phase.dispatched_live hk hseq

omit hk

/-- One round of the attempt loop takes the task from `k` deliveries to `k + 1`, or ends it. -/
theorem attemptOnce_triple {dispatcher : TaskDispatcher σ} {target : RegisteredEndpoint}
    {queue_lease : Option QueueLeaseContext} {seq : Nat} {attempt : UInt32}
    (hd : ∃ transport, w.dispatchers transport = some dispatcher)
    (hlive : phase ≠ .closed) (hnum : attempt.toNat = k + 1)
    (hk : k + 1 ≤ w.config.retry.limit) (hseq : seq = es.length + 2) :
    Triple (w.Traced task s₀ k phase es k es.length)
      (w.attemptOnce dispatcher target task queue_lease seq attempt)
      (fun next => AttemptEnd w task s₀ (k + 1) next) (w.Stop task s₀) := by
  have hle : k ≤ w.config.retry.limit := Nat.le_of_succ_le hk
  refine traced_bind (w.quiet_interrupted task) fun interrupt => ?_
  cases interrupt with
  | some interrupt => exact finished_triple (interruptTask_triple hlive hle hseq)
  | none =>
    refine Triple.bind drawDeliveryId_triple fun delivery_id => Triple.assume fun hid => ?_
    refine Triple.bind (newEvent_triple hseq rfl) fun dispatched => Triple.assume fun hentry => ?_
    intro s hs
    have hg : w.grammarFrom task.task_id s₀ (k + 1) .dispatched (es ++ [dispatched]) :=
      .dispatch hs.grammar hlive hnum (hid ▸ hentry)
    refine Triple.bind (emit_triple hlive hle hk hg) (fun _ => ?_) s hs
    have hlen : es.length + 1 = (es ++ [dispatched]).length := by simp
    have hnext : seq + 1 = (es ++ [dispatched]).length + 2 := by rw [hseq, ← hlen]
    rw [hlen]
    refine traced_bind (w.quiet_queueHooks task queue_lease) fun hooks => ?_
    cases hooks with
    | error error => exact finished_triple (failTask_triple Phase.dispatched_live hk hnext)
    | ok _ =>
      exact deliverStage_triple hk
        { task := task, target := target, delivery_id := delivery_id, attempt := attempt,
          queue_lease := queue_lease } hd hnext

/-- The attempt loop ends, with the task closed or the worker stopped. -/
theorem attempts_triple {dispatcher : TaskDispatcher σ} {target : RegisteredEndpoint}
    {queue_lease : Option QueueLeaseContext}
    (hd : ∃ transport, w.dispatchers transport = some dispatcher) (n : Nat) :
    ∀ {k : Nat} {phase : Phase} {es : List TaskEvent} {seq : Nat} {attempt : UInt32},
      w.config.retry.limit - attempt.toNat = n → phase ≠ .closed → attempt.toNat = k + 1 →
      k + 1 ≤ w.config.retry.limit → seq = es.length + 2 →
      Triple (w.Traced task s₀ k phase es k es.length)
        (w.attempts dispatcher target task queue_lease seq attempt)
        (fun _ => w.Closed task s₀) (w.Stop task s₀) := by
  -- The policy allows only finitely many attempts after this one.
  induction n using Nat.strongRecOn with
  | _ n ih =>
    intro k phase es seq attempt hn hlive hnum hk hseq
    rw [attempts]
    refine Triple.bind (attemptOnce_triple hd hlive hnum hk hseq) fun next => ?_
    cases next with
    | finished => exact Triple.pure fun _ h => h
    | again next allowed =>
      obtain ⟨hsucc, hlt⟩ := succ_of_allowed allowed
      refine Triple.exists_pre fun phase' => Triple.exists_pre fun es' => ?_
      refine Triple.assume fun hlive' => Triple.assume fun hseq' => ?_
      exact ih _ (by omega) rfl hlive' (by omega) (by omega) hseq'

/-- **`process` closes its task, or stops with it open.** -/
theorem process_spec (w : Worker σ) (task : AgentTask) (s₀ : WorkerState σ) :
    Triple (fun s => s = s₀) (w.process task) (fun _ => w.Closed task s₀) (w.Stop task s₀) := by
  have hstart : ∀ s, s = s₀ → w.Traced task s₀ 0 .start [] 0 0 s := by
    intro s hs
    subst hs
    exact ⟨by simp, .start, rfl, rfl, rfl, rfl, rfl⟩
  have hlive : Phase.start ≠ .closed := nofun
  have hlimit : 1 ≤ w.config.retry.limit := Nat.le_max_right _ _
  have hzero : 0 ≤ w.config.retry.limit := Nat.zero_le _
  refine Triple.pre ?_ hstart
  have hactivate : Within Quiet (act fun s => ((), if w.config.cancellation then
      s.onWorld (w.services.activate task.task_id) else s) : Work σ Unit) := by
    refine Within.act fun s => ?_
    dsimp only
    split
    · exact ⟨_, rfl⟩
    · exact Quiet.refl s
  refine traced_bind hactivate fun _ => ?_
  refine traced_bind (w.quiet_interrupted task) fun interrupt => ?_
  cases interrupt with
  | some interrupt => exact interruptTask_triple hlive hzero rfl
  | none =>
    dsimp only
    split
    · exact failTask_triple hlive hzero rfl
    · split
      · exact failTask_triple hlive hzero rfl
      · split
        · exact failTask_triple hlive hzero rfl
        · rename_i dispatcher hdispatcher
          refine traced_bind (w.quiet_claimQueue task) fun claimed => ?_
          cases claimed with
          | error error => exact failTask_triple hlive hzero rfl
          | ok queue_lease => exact attempts_triple ⟨_, hdispatcher⟩ _ rfl hlive rfl hlimit rfl

end

end

/-- `DeliveryId::generate` does not repeat itself within the attempts of one task. -/
def FreshDeliveries {σ : Type} (w : Worker σ) (s : WorkerState σ) : Prop :=
  ∀ i j, i < j → j < w.config.retry.limit →
    w.deliveryIds (s.deliveriesDrawn + i) ≠ w.deliveryIds (s.deliveriesDrawn + j)

end Worker

/-! ### The grammar read off the list -/

/-- The events of one task: sequence numbers from 2 without a hole, attempts numbered from 1
under distinct deliveries, at most as many as the policy allows, and `Running` only right
after `Dispatched`. -/
structure WellFormedEvents (task_id : TaskId) (max_attempts : Nat) (es : List TaskEvent) :
    Prop where
  owned : ∀ event ∈ es, event.task_id = task_id ∧ event.status = event.payload.status
  seqs : es.map (·.seq) = List.range' 2 es.length
  attempts : (es.filterMap (·.delivery?)).map (·.2.toNat) =
    List.range' 1 (es.filterMap (·.delivery?)).length
  fresh : ((es.filterMap (·.delivery?)).map (·.1)).Nodup
  bound : (es.filterMap (·.delivery?)).length ≤ max 1 max_attempts
  running : ∀ i event, es[i]? = some event → event.status = .running →
    ∃ j before, i = j + 1 ∧ es[j]? = some before ∧ before.status = .dispatched

/-- One terminal event, and it is the last. -/
def Terminated (es : List TaskEvent) : Prop :=
  ∃ init last, es = init ++ [last] ∧ last.status.isTerminal = true ∧
    ∀ event ∈ init, event.status.isTerminal = false

/-- No terminal event. -/
def Unterminated (es : List TaskEvent) : Prop :=
  ∀ event ∈ es, event.status.isTerminal = false

theorem Grammar.wellFormed {task_id : TaskId} {deliveries : Nat → DeliveryId}
    {ids : Nat → EventId} {k : Nat} {phase : Phase} {es : List TaskEvent}
    {retry : RetryPolicy} (h : Grammar task_id deliveries ids k phase es)
    (hk : k ≤ retry.limit)
    (hfresh : ∀ i j, i < j → j < retry.limit → deliveries i ≠ deliveries j) :
    WellFormedEvents task_id retry.max_attempts.toNat es := by
  obtain ⟨hids, hattempts⟩ := h.delivery_ids
  have hlen : (es.filterMap (·.delivery?)).length = k := by
    have hl := congrArg List.length hattempts
    rwa [List.length_map, List.length_range'] at hl
  refine
    { owned := fun _ he => h.entry_of_mem he
      seqs := h.seqs
      attempts := by rw [hlen]; exact hattempts
      fresh := ?_
      bound := by rw [hlen, Nat.max_comm]; exact hk
      running := fun _ _ hi hr => h.running_after hi hr }
  rw [hids]
  -- Two places below `k` draw different deliveries.
  refine List.Nodup.map_on ?_ List.nodup_range
  intro i hi j hj heq
  rw [List.mem_range] at hi hj
  rcases Nat.lt_trichotomy i j with hij | hij | hij
  · exact absurd heq (hfresh i j hij (by omega))
  · exact hij
  · exact absurd heq.symm (hfresh j i hij (by omega))

/-- **What the worker publishes for a task, in every world, is well formed; when `process`
returns, it ends in its one terminal event, and when `process` fails, it has none.** -/
theorem event_grammar [Externals] {σ : Type} (w : Worker σ) (task : AgentTask)
    (s : WorkerState σ) (hfresh : w.FreshDeliveries s) :
    ∃ es, (w.process task s).2.emitted = s.emitted ++ es ∧
      WellFormedEvents task.task_id w.config.retry.max_attempts.toNat es ∧
      match (w.process task s).1 with
      | .ok () => Terminated es
      | .error _ => Unterminated es := by
  have h := w.process_spec task s s rfl
  cases hp : w.process task s with
  | mk result s' =>
    rw [hp] at h
    cases result with
    | ok value =>
      obtain ⟨k, es, d, u, hk, ht⟩ := h
      exact ⟨es, ht.emitted, ht.grammar.wellFormed hk hfresh, ht.grammar.terminal_last⟩
    | error error =>
      obtain ⟨k, phase, es, hst⟩ := h
      exact ⟨es, hst.emitted, hst.grammar.wellFormed hst.bound hfresh,
        hst.grammar.no_terminal hst.live⟩

/-! ### A retried task -/

def someTask : AgentTask :=
  { task_id := ⟨1⟩, root_task_id := ⟨1⟩, parent_task_id := none, from_agent := ⟨2⟩,
    to_agent := ⟨3⟩, conversation_id := ⟨4⟩, reply_to := none, text := "hello",
    priority := .default, depth := 0, hops := 0, deadline := none, version := 0 }

/-- An ordinary dispatcher that refuses every delivery. -/
def refusingDispatcher : TaskDispatcher Nat where
  supportsPrepared := false
  deliver _ n := (.error (.notAccepted "busy"), n)
  execute _ n := (.error (.executionFailed "not delivered"), n)
  executePrepared _ n := (.error .unsupportedPrepared, n)
  cancelPrepared _ _ n := (.error .unsupportedPrepared, n)
  finalizeDeliveryFailure _ _ n := (.error .unsupportedPrepared, n)
  finalize _ _ n := (none, n)

/-- The world counts the races: the first delivery runs, every later one is cancelled. -/
def refusingWorker (retry : RetryPolicy) : Worker Nat where
  registry := [⟨⟨3⟩, .acp, true, true⟩]
  services :=
    { now := fun n => (DateTime.ofSecs 0, n), reasonFor := fun _ n => (none, n),
      activate := fun _ n => n, retire := fun _ n => n, emit := fun _ n => (.ok (), n),
      sleepUntil := fun _ n => ((), n),
      arm := fun n => (if n = 0 then .stage else .cancelled "stop", n + 1),
      maxCapacity := 1, tryRecv := fun n => (.disconnected, n), recv := fun n => (none, n) }
  dispatchers _ := some refusingDispatcher
  config := { limits := ⟨3, 8⟩, retry := retry, cancellation := true, timer := false }
  lifecycle := none
  deliveryIds n := ⟨BitVec.ofNat 128 n⟩
  eventIds n := ⟨BitVec.ofNat 128 (n + 100)⟩

def someState : WorkerState Nat := ⟨0, 0, 0, [], [], [], []⟩

theorem event_grammar_retried :
    (refusingWorker ⟨2, .none⟩).FreshDeliveries someState ∧
    ∃ es, ((refusingWorker ⟨2, .none⟩).process someTask someState).2.emitted = [] ++ es ∧
      WellFormedEvents ⟨1⟩ 2 es ∧
      match ((refusingWorker ⟨2, .none⟩).process someTask someState).1 with
      | .ok () => Terminated es
      | .error _ => Unterminated es := by
  have hfresh : (refusingWorker ⟨2, .none⟩).FreshDeliveries someState := by
    intro i j hij hj
    have hlimit : (refusingWorker ⟨2, .none⟩).config.retry.limit = 2 := rfl
    rw [hlimit] at hj
    obtain ⟨rfl, rfl⟩ : i = 0 ∧ j = 1 := by omega
    decide
  exact ⟨hfresh, event_grammar (refusingWorker ⟨2, .none⟩) someTask someState hfresh⟩

end GuiguBridge
