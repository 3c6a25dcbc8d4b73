import GuiguBridge.App.QueueHistory
import GuiguBridge.App.TaskLog
import GuiguBridge.Lib.Interleave
import GuiguBridge.Runtime.LeasedDispatcher

/-!
# The queue row of a delivery

`Worker::process` (`src/src/bus/worker.rs`) claims the queue row of its task once, before the
first event, and hands the task to `LeasedAcpDispatcher::deliver`, which takes the execution
lease.  The claim joins the row with a live lease of the task; nothing but the delivery that
follows takes one.

* `Dispatching`, `Dispatching.step` — a task between its arrival at the worker and the answer of
  `deliver`, one statement of the store a step;
* `dispatchSystem` — any number of them, among all other calls of the bridge;
* `LeaseKin` — **no other call brings a lease for a task that had none**;
* `emission_once` — the `Dispatched` event of a task enters the store once;
* `queue_untracked` — **every delivery finds the rows of its task as the queue left them**: a
  row is under a live lease at no delivery.
-/

namespace GuiguBridge

open Relational Interleave

/-! ### The stretch of `process` -/

/-- Where `process` stands with its task. -/
inductive DispatchPhase where
  /-- CP-0, the cycle limits and the choice of a dispatcher. -/
  | received
  | claiming
  /-- CP-1. -/
  | checkpoint (queue_lease : Option QueueLease)
  | emitting (queue_lease : Option QueueLease)
  | marking (queue_lease : QueueLease)
  | renewing (queue_lease : QueueLease)
  | delivering
  | claimingWorkspaces (lease : Lease)
  | handing (lease : Lease)
  | beginning (lease : Lease)
  | releasing (lease : Lease) (disposition : ReleaseDisposition)
  /-- `deliver` has answered; no second delivery of this task follows. -/
  | answered
  /-- A terminal event at this position. -/
  | failing (seq : Nat)
  | ended
  deriving DecidableEq

/-- A task that the worker processes. -/
structure Dispatching where
  task : AgentTask
  delivery_id : DeliveryId
  phase : DispatchPhase
  deriving DecidableEq

/-- What one step is answered. -/
structure DispatchInput where
  /-- A gate or a checkpoint ends the task. -/
  interrupted : Bool
  /-- The lease that the join of queue and leases yields. -/
  picked : ResourceKey
  now : DateTime
  /-- Thirty seconds after a later reading of the clock. -/
  expires : String
  event_id : EventId
  status : TaskStatus
  payload : TaskEventPayload
  /-- The sink took the event. -/
  published : Bool
  owner : Uuid
  newId : Nat → Uuid
  /-- `AcpDispatcher::deliver` took the task. -/
  taken : Bool

/-- The fields of `LeasedAcpDispatcher` that a delivery reads. -/
structure DeliveryPolicy where
  workspace : Uuid
  workspace_paths : List PathBuf
  lease_ttl : Duration
  fs : FileSystem

/-- A call of `deliver`, with the store that it finds. -/
structure DeliverCall where
  task_id : TaskId
  now : DateTime
  store : Db

namespace Dispatching

variable [Externals]

/-- `process` goes on at `phase`. -/
def at_ (p : Dispatching) (phase : DispatchPhase) : Dispatching := { p with phase := phase }

/-- The event of the first attempt; a prepared dispatcher has no second one. -/
def dispatched (p : Dispatching) (input : DispatchInput) : TaskEvent :=
  { id := input.event_id, task_id := p.task.task_id, seq := 2, status := .dispatched,
    timestamp := input.now, payload := .dispatched p.delivery_id 1 }

/-- What follows the emission of `Dispatched`. -/
def afterEmission (queue_lease : Option QueueLease) (input : DispatchInput) :
    Except DispatchError LifecycleResult → DispatchPhase
  | .ok .committed | .ok .replay =>
    if input.published then
      match queue_lease with
      | some lease => .marking lease
      | none => .delivering
    else .ended
  | .ok .stale | .error _ => .ended

/-- What follows `acquire`. -/
def afterAcquire : Except RuntimeError AcquireOutcome → DispatchPhase
  | .ok (.acquired lease) => .claimingWorkspaces lease
  | .ok .busy | .ok .recoveryNeeded | .error _ => .answered

/-- One statement of `process`, up to the answer of `deliver`. -/
def step (d : DeliveryPolicy) (input : DispatchInput) (p : Dispatching) (db : Db) :
    Dispatching × Db × List DeliverCall :=
  match p.phase with
  | .received => (p.at_ (if input.interrupted then .failing 2 else .claiming), db, [])
  | .claiming =>
    match claimQueue p.task.task_id input.picked (Externals.toRfc3339 input.now) input.expires
      db with
    | (.ok queue_lease, db') => (p.at_ (.checkpoint queue_lease), db', [])
    | (.error _, db') => (p.at_ (.failing 2), db', [])
  | .checkpoint queue_lease =>
    (p.at_ (if input.interrupted then .failing 2 else .emitting queue_lease), db, [])
  | .emitting queue_lease =>
    let r := transition (p.dispatched input) db
    (p.at_ (afterEmission queue_lease input r.1), r.2, [])
  | .marking queue_lease =>
    match markQueueSendStarted p.task.task_id queue_lease (Externals.toRfc3339 input.now) db with
    | (.ok (), db') => (p.at_ (.renewing queue_lease), db', [])
    | (.error _, db') => (p.at_ (.failing 3), db', [])
  | .renewing queue_lease =>
    match renewQueueLease p.task.task_id queue_lease (Externals.toRfc3339 input.now) input.expires
      db with
    | (.ok (), db') => (p.at_ .delivering, db', [])
    | (.error _, db') => (p.at_ (.failing 3), db', [])
  | .delivering =>
    let r := acquire (LeasedAcpDispatcher.resourceKey p.task.to_agent d.workspace)
      p.task.task_id input.owner input.now d.lease_ttl db
    (p.at_ (afterAcquire r.1), r.2, [⟨p.task.task_id, input.now, db⟩])
  | .claimingWorkspaces lease =>
    match claimWorkspaces d.fs lease d.workspace_paths input.newId db with
    | (.ok (), db') => (p.at_ (.handing lease), db', [])
    | (.error _, db') => (p.at_ (.releasing lease .released), db', [])
  | .handing lease => (p.at_ (if input.taken then .beginning lease else .answered), db, [])
  | .beginning lease =>
    match beginContinuation lease p.delivery_id p.task.text input.now db with
    | (.ok _, db') => (p.at_ .answered, db', [])
    | (.error _, db') => (p.at_ (.releasing lease .recoveryNeeded), db', [])
  | .releasing lease disposition =>
    (p.at_ .answered, (release lease disposition input.now db).2, [])
  | .failing seq =>
    (p.at_ .ended, (transition
      { id := input.event_id, task_id := p.task.task_id, seq := seq, status := input.status,
        timestamp := input.now, payload := input.payload } db).2, [])
  | .answered => (p, db, [])
  | .ended => (p, db, [])

end Dispatching

/-- A call of another component; leases are taken by deliveries alone. -/
structure BesideDelivery where
  call : BridgeCall
  takes_no_lease : call.attempt = none

section

variable [Externals]

/-- Tasks that are dispatched, among the other calls of the bridge. -/
def dispatchSystem (d : DeliveryPolicy) :
    System Db Dispatching DispatchInput BesideDelivery DeliverCall where
  advance _ input p db := p.step d input db
  outside beside db := bridgeStep d.fs db beside.call

abbrev DispatchMove := Move Dispatching DispatchInput BesideDelivery

/-- The store, the tasks and the deliveries after `n` moves. -/
def dispatchAt (d : DeliveryPolicy) (moves : List DispatchMove) (n : Nat) :
    World Db Dispatching DeliverCall :=
  (dispatchSystem d).worldAt Db.empty moves n

/-- The task owns a row of the queue. -/
def DeliverCall.Queued (c : DeliverCall) : Prop :=
  ∃ q ∈ c.store.agentWorkQueue.rows, q.task_id = c.task_id

/-- The row runs, was sent, and is under a live lease of the task. -/
def DeliverCall.RowTracked (c : DeliverCall) (q : WorkQueueRow) : Prop :=
  q.state = .running ∧ q.send_started = true ∧
    ∃ l ∈ c.store.executionLeases.rows, q.runtime_owner = some l.owner_token ∧
      q.owner_fence = some l.fence ∧ l.task_id = c.task_id ∧ l.liveAt (ts c.now) = true

/-- **The queue tracks the delivery**: every row of the task does. -/
def DeliverCall.Tracked (c : DeliverCall) : Prop :=
  ∀ q ∈ c.store.agentWorkQueue.rows, q.task_id = c.task_id → c.RowTracked q

end

/-! ### The tasks of the leases -/

/-- Every lease after a call is of a task that had one before it. -/
def LeaseKin (db db' : Db) : Prop :=
  ∀ l' ∈ db'.executionLeases.rows, ∃ l ∈ db.executionLeases.rows, l.task_id = l'.task_id

section

variable [Externals] {db db' : Db}

/-- **No call but an acquisition brings a lease for a task that had none.** -/
theorem bridge_leaseKin (fs : FileSystem) (call : BridgeCall) (hcall : call.attempt = none) :
    LeaseKin db (bridgeStep fs db call) := by
  intro l' hl'
  rcases bridge_origin fs db call l' hl' with ⟨l, hl, -, -, htask⟩ | hattempt
  · exact ⟨l, hl, htask⟩
  · rw [hcall] at hattempt
    cases hattempt

/-- An acquisition brings no lease but one of its own task. -/
theorem acquire_leases {resource : ResourceKey} {task_id : TaskId} {owner : Uuid}
    {now : DateTime} {ttl : Duration} {r : Except RuntimeError AcquireOutcome}
    (h : acquire resource task_id owner now ttl db = (r, db')) :
    ∀ l' ∈ db'.executionLeases.rows,
      (∃ l ∈ db.executionLeases.rows, l.task_id = l'.task_id) ∨ l'.task_id = task_id := by
  have hputs : ∀ {t : Table LeaseRow.resource_key} {l₀ l' : LeaseRow},
      db.executionLeases.Puts resource l₀ t → l' ∈ t.rows →
        l' = l₀ ∨ l' ∈ db.executionLeases.rows := by
    intro t l₀ l' hput hl'
    rcases hput.mem hl' with ⟨-, heq⟩ | hold
    · exact Or.inl heq
    · exact Or.inr hold
  intro l' hl'
  rcases acquire_cases h with ⟨rfl, -⟩ | ⟨e, t, rfl, -, -, hput⟩ |
    ⟨l, t, rfl, -, hl, -, -, hput⟩ | ⟨l, e, t, rfl, -, hl, -, hput⟩
  · exact Or.inl ⟨l', hl', rfl⟩
  · rcases hputs hput hl' with rfl | hold
    · exact Or.inr rfl
    · exact Or.inl ⟨l', hold, rfl⟩
  · rcases hputs hput hl' with rfl | hold
    · exact Or.inl ⟨l, Table.mem_of_get hl, rfl⟩
    · exact Or.inl ⟨l', hold, rfl⟩
  · rcases hputs hput hl' with rfl | hold
    · exact Or.inr rfl
    · exact Or.inl ⟨l', hold, rfl⟩

end

/-! ### The second event of a task -/

/-- The event at position 2 of the task, `Dispatched` or a terminal one. -/
def Db.started (db : Db) (task_id : TaskId) : Prop :=
  ∃ e ∈ db.taskEvents.rows, e.task_id = task_id ∧ e.seq = 2

section

variable [Externals] {db db' : Db}

theorem bridge_events (fs : FileSystem) (call : BridgeCall) :
    ∀ e ∈ db.taskEvents.rows, e ∈ (bridgeStep fs db call).taskEvents.rows := by
  intro e he
  cases bridge_log fs db call with
  | same htasks hevents hadmissions =>
    rw [hevents]
    exact he
  | moved task_id a a' htasks hevents ha hopen hopen' hrevision hputs =>
    rw [hevents]
    exact he
  | admitted row e' a hcall h => exact (Table.mem_insert h.event).mpr (Or.inl he)
  | appended event a a' hcall htasks hevent ha hopen hclose hrevision hputs =>
    exact (Table.mem_insert hevent).mpr (Or.inl he)

theorem Db.started.step {task_id : TaskId} (h : db.started task_id) (fs : FileSystem)
    (call : BridgeCall) : (bridgeStep fs db call).started task_id := by
  obtain ⟨e, he, htask, hseq⟩ := h
  exact ⟨e, bridge_events fs call e he, htask, hseq⟩

/-- **The second event enters the store once**: its position was free. -/
theorem emission_once {event : TaskEvent} (hseq : event.seq = 2)
    (h : transition event db = (.ok .committed, db')) :
    ¬ db.started event.task_id ∧ db'.started event.task_id := by
  have hstep : TransitionStep event db db' := by
    rcases transition_cases h with ⟨-, hr⟩ | ⟨-, hstep⟩
    · exact absurd rfl hr
    · exact hstep
  refine ⟨?_, eventToRow event event.seq event.status,
    (Table.mem_insert hstep.appended).mpr (Or.inr rfl), rfl, hseq⟩
  rintro ⟨e, he, htask, heseq⟩
  rcases Tx.commit_cases h with hok | ⟨hsame, -⟩
  · -- the call has looked for an event at the position
    simp only [Tx.bind_ok, Tx.orElse_ok, Tx.read_ok, Tx.require_ok, Tx.pure_ok] at hok
    obtain ⟨q, _, ⟨hq, rfl⟩, _, _, ⟨-, rfl⟩, _, _, ⟨-, rfl⟩, hmore⟩ := hok
    obtain ⟨_, _, ⟨-, rfl⟩, x, _, ⟨-, rfl⟩, n, s₁, hver, hmore⟩ := hmore
    obtain ⟨_, _, ⟨hn, rfl⟩, move, _, ⟨-, rfl⟩, m, s₂, hadm, hmore⟩ := hmore
    obtain ⟨_, _, ⟨-, rfl⟩, _, s₃, hev, -, -⟩ := hmore
    obtain ⟨rfl, -⟩ := toI64_eq_some hq
    obtain ⟨row, t, rfl, -⟩ := advanceVersion_ok hver (of_decide_eq_true hn)
    obtain ⟨-, rfl⟩ := Tx.update_ok.1 hadm
    simp only [insertEvent, Tx.bind_ok, Tx.require_ok, Tx.read_ok] at hev
    obtain ⟨_, _, ⟨-, rfl⟩, taken, _, ⟨rfl, rfl⟩, _, _, ⟨hfree, -⟩, -⟩ := hev
    simp only [Bool.not_eq_true'] at hfree
    have hother := List.any_eq_false.mp hfree e he
    exact hother (decide_eq_true ⟨htask, heseq.trans hseq.symm⟩)
  · -- the store grew by the event, so no early return of the call has answered
    subst hsame
    have hlength := congrArg List.length
      ((Table.insert_eq_some_iff _ _ _).mp hstep.appended).2
    simp at hlength

/-- An event with an identity of its own is no replay. -/
theorem transition_fresh {event : TaskEvent} (hseq : event.seq = 2)
    (hfresh : db.freshEvent event.id) : (transition event db).1 ≠ .ok .replay := by
  have hlt : toI64 event.seq = some event.seq := toI64_of_lt (by rw [hseq]; decide)
  obtain ⟨⟨r, db'⟩, h⟩ : ∃ result, transition event db = result := ⟨_, rfl⟩
  rw [h]
  rintro rfl
  rcases Tx.commit_cases h with hok | ⟨-, e, he, hr⟩
  · simp only [Tx.bind_ok, Tx.orElse_ok, Tx.read_ok, Tx.require_ok, Tx.pure_ok] at hok
    obtain ⟨q, _, ⟨-, rfl⟩, _, _, ⟨-, rfl⟩, _, _, ⟨-, rfl⟩, hmore⟩ := hok
    obtain ⟨_, _, ⟨-, rfl⟩, x, _, ⟨-, rfl⟩, n, s₁, -, hmore⟩ := hmore
    obtain ⟨_, _, ⟨-, rfl⟩, move, _, ⟨-, rfl⟩, m, s₂, -, hmore⟩ := hmore
    obtain ⟨_, _, ⟨-, rfl⟩, _, s₃, -, hr, -⟩ := hmore
    cases hr
  · -- the replay is answered before the first write, and only for a known identity
    rw [Tx.bind_of_ok (show _ = Except.ok (event.seq, db) by rw [hlt]; rfl),
      Tx.bind_of_ok Tx.read_apply, replays_of_fresh hfresh, Bool.not_false,
      Tx.bind_of_ok Tx.require_true] at he
    refine absurd hr.symm (Tx.Aborts.of_error (P := fun e => id e ≠ .ok .replay) he ?_)
    refine Tx.aborts_bind (Tx.aborts_require nofun) fun _ => ?_
    refine Tx.aborts_bind (Tx.aborts_orElse nofun) fun _ => ?_
    refine Tx.aborts_bind (Tx.aborts_update _ _ _ _) fun _ => ?_
    refine Tx.aborts_bind (Tx.aborts_require nofun) fun _ => ?_
    refine Tx.aborts_bind (Tx.aborts_orElse nofun) fun _ => ?_
    refine Tx.aborts_bind (Tx.aborts_update _ _ _ _) fun _ => ?_
    refine Tx.aborts_bind (Tx.aborts_require nofun) fun _ => ?_
    exact Tx.aborts_bind (insertEvent_aborts nofun) fun _ => Tx.aborts_pure _

end

/-! ### One step of a task -/

/-- The `Dispatched` event of this call of `process` is in the store. -/
def DispatchPhase.past : DispatchPhase → Bool
  | .marking _ | .renewing _ | .delivering | .claimingWorkspaces _ | .handing _ | .beginning _
  | .releasing _ _ | .answered => true
  | .received | .claiming | .checkpoint _ | .emitting _ | .failing _ | .ended => false

/-- `deliver` was called. -/
def DispatchPhase.called : DispatchPhase → Bool
  | .claimingWorkspaces _ | .handing _ | .beginning _ | .releasing _ _ | .answered => true
  | .received | .claiming | .checkpoint _ | .emitting _ | .marking _ | .renewing _
  | .delivering | .failing _ | .ended => false

section

variable [Externals] {d : DeliveryPolicy} {input : DispatchInput} {p : Dispatching} {db : Db}

/-- What one step of a task does to the store and the log of deliveries. -/
inductive Dispatching.Effect (d : DeliveryPolicy) (input : DispatchInput) (p : Dispatching)
    (db : Db) (p' : Dispatching) : Db → List DeliverCall → Prop where
  /-- No lease, no delivery, and no new emission. -/
  | quiet (beside : BesideDelivery) (hpast : p'.phase.past = true → p.phase.past = true)
      (hcalled : p.phase.called = true → p'.phase.called = true) :
      Effect d input p db p' (bridgeStep d.fs db beside.call) []
  | emitted (db' : Db) (hphase : p.phase.past = false)
      (hcommit : transition (p.dispatched input) db = (.ok .committed, db')) :
      Effect d input p db p' db' []
  | called (hphase : p.phase = .delivering) (hcalled : p'.phase.called = true) :
      Effect d input p db p'
        (acquire (LeasedAcpDispatcher.resourceKey p.task.to_agent d.workspace) p.task.task_id
          input.owner input.now d.lease_ttl db).2 [⟨p.task.task_id, input.now, db⟩]

/-- A step that leaves the store alone. -/
theorem Dispatching.Effect.still {p' : Dispatching}
    (hpast : p'.phase.past = true → p.phase.past = true)
    (hcalled : p.phase.called = true → p'.phase.called = true) :
    Dispatching.Effect d input p db p' db [] :=
  .quiet ⟨.runtime .refused, rfl⟩ hpast hcalled

/-- A step that makes one call of the store and is no emission or delivery. -/
theorem Dispatching.Effect.calls {p' : Dispatching} {db' : Db} (call : BridgeCall)
    (htakes : call.attempt = none) (hdb : bridgeStep d.fs db call = db')
    (hpast : p'.phase.past = true → p.phase.past = true)
    (hcalled : p.phase.called = true → p'.phase.called = true) :
    Dispatching.Effect d input p db p' db' [] := by
  subst hdb
  exact .quiet ⟨call, htakes⟩ hpast hcalled

/-- The emission of `Dispatched` is recorded once, or ends the task. -/
theorem Dispatching.emission_effect {queue_lease : Option QueueLease}
    (hphase : p.phase = .emitting queue_lease) (hfresh : db.freshEvent input.event_id) :
    Dispatching.Effect d input p db
      (p.at_ (afterEmission queue_lease input (transition (p.dispatched input) db).1))
      (transition (p.dispatched input) db).2 [] := by
  have hreplay : (transition (p.dispatched input) db).1 ≠ .ok .replay :=
    transition_fresh rfl hfresh
  obtain ⟨⟨r, db'⟩, h⟩ : ∃ result, transition (p.dispatched input) db = result := ⟨_, rfl⟩
  have hdb : bridgeStep d.fs db (.runtime (.transition (p.dispatched input))) = db' :=
    congrArg Prod.snd h
  rw [h] at hreplay ⊢
  have hquiet : afterEmission queue_lease input r = .ended →
      Dispatching.Effect d input p db (p.at_ (afterEmission queue_lease input r)) db' [] := by
    intro hended
    rw [hended]
    exact .calls _ rfl hdb nofun (by rw [hphase]; nofun)
  cases r with
  | error e => exact hquiet rfl
  | ok result =>
    cases result with
    | stale => exact hquiet rfl
    | replay => exact absurd rfl hreplay
    | committed => exact .emitted db' (by rw [hphase]; rfl) h

/-- **Every step of a task has one of three effects.** -/
theorem Dispatching.step_effect
    (hfresh : ∀ queue_lease, p.phase = .emitting queue_lease → db.freshEvent input.event_id) :
    (p.step d input db).1.task = p.task ∧
      Dispatching.Effect d input p db (p.step d input db).1 (p.step d input db).2.1
        (p.step d input db).2.2 := by
  obtain ⟨task, delivery_id, phase⟩ := p
  cases phase with
  | received =>
    refine ⟨rfl, .still ?_ nofun⟩
    cases hi : input.interrupted <;> simp [step, at_, hi, DispatchPhase.past]
  | claiming =>
    obtain ⟨⟨r, db'⟩, h⟩ : ∃ result, claimQueue task.task_id input.picked
      (Externals.toRfc3339 input.now) input.expires db = result := ⟨_, rfl⟩
    have hdb : bridgeStep d.fs db (.queue (.claimQueue task.task_id input.picked
      (Externals.toRfc3339 input.now) input.expires)) = db' := congrArg Prod.snd h
    cases r with
    | ok queue_lease =>
      simp only [step, h]
      exact ⟨rfl, .calls _ rfl hdb nofun nofun⟩
    | error e =>
      simp only [step, h]
      exact ⟨rfl, .calls _ rfl hdb nofun nofun⟩
  | checkpoint queue_lease =>
    refine ⟨rfl, .still ?_ nofun⟩
    cases hi : input.interrupted <;> simp [step, at_, hi, DispatchPhase.past]
  | emitting queue_lease => exact ⟨rfl, emission_effect rfl (hfresh queue_lease rfl)⟩
  | marking queue_lease =>
    obtain ⟨⟨r, db'⟩, h⟩ : ∃ result, markQueueSendStarted task.task_id queue_lease
      (Externals.toRfc3339 input.now) db = result := ⟨_, rfl⟩
    have hdb : bridgeStep d.fs db (.queue (.markQueueSendStarted task.task_id queue_lease
      (Externals.toRfc3339 input.now))) = db' := congrArg Prod.snd h
    cases r with
    | ok u =>
      simp only [step, h]
      exact ⟨rfl, .calls _ rfl hdb id nofun⟩
    | error e =>
      simp only [step, h]
      exact ⟨rfl, .calls _ rfl hdb nofun nofun⟩
  | renewing queue_lease =>
    obtain ⟨⟨r, db'⟩, h⟩ : ∃ result, renewQueueLease task.task_id queue_lease
      (Externals.toRfc3339 input.now) input.expires db = result := ⟨_, rfl⟩
    have hdb : bridgeStep d.fs db (.queue (.renewQueueLease task.task_id queue_lease
      (Externals.toRfc3339 input.now) input.expires)) = db' := congrArg Prod.snd h
    cases r with
    | ok u =>
      simp only [step, h]
      exact ⟨rfl, .calls _ rfl hdb id nofun⟩
    | error e =>
      simp only [step, h]
      exact ⟨rfl, .calls _ rfl hdb nofun nofun⟩
  | delivering =>
    refine ⟨rfl, .called rfl ?_⟩
    show (afterAcquire _).called = true
    unfold afterAcquire
    split <;> rfl
  | claimingWorkspaces lease =>
    obtain ⟨⟨r, db'⟩, h⟩ : ∃ result, claimWorkspaces d.fs lease d.workspace_paths input.newId
      db = result := ⟨_, rfl⟩
    have hdb : bridgeStep d.fs db (.runtime (.claimWorkspaces lease d.workspace_paths
      input.newId)) = db' := congrArg Prod.snd h
    cases r with
    | ok u =>
      simp only [step, h]
      exact ⟨rfl, .calls _ rfl hdb id id⟩
    | error e =>
      simp only [step, h]
      exact ⟨rfl, .calls _ rfl hdb id id⟩
  | handing lease =>
    refine ⟨rfl, .still (fun _ => rfl) fun _ => ?_⟩
    cases hi : input.taken <;> simp [step, at_, hi, DispatchPhase.called]
  | beginning lease =>
    obtain ⟨⟨r, db'⟩, h⟩ : ∃ result, beginContinuation lease delivery_id task.text input.now
      db = result := ⟨_, rfl⟩
    have hdb : bridgeStep d.fs db (.runtime (.beginContinuation lease delivery_id task.text
      input.now)) = db' := congrArg Prod.snd h
    cases r with
    | ok u =>
      simp only [step, h]
      exact ⟨rfl, .calls _ rfl hdb id id⟩
    | error e =>
      simp only [step, h]
      exact ⟨rfl, .calls _ rfl hdb id id⟩
  | releasing lease disposition =>
    exact ⟨rfl, .calls (.runtime (.release lease disposition input.now)) rfl rfl id id⟩
  | answered => exact ⟨rfl, .still id id⟩
  | failing seq =>
    exact ⟨rfl, .calls (.runtime (.transition
      { id := input.event_id, task_id := task.task_id, seq := seq, status := input.status,
        timestamp := input.now, payload := input.payload })) rfl rfl nofun nofun⟩
  | ended => exact ⟨rfl, .still id id⟩

end

/-! ### Every run -/

theorem DispatchPhase.past_of_called {phase : DispatchPhase} (h : phase.called = true) :
    phase.past = true := by
  cases phase <;> first | rfl | cases h

section

variable [Externals] {d : DeliveryPolicy}

/-- What the worker and `EventId::generate` promise: a task arrives at its beginning, and the
`Dispatched` event has an identity of its own. -/
structure DispatchRun (d : DeliveryPolicy) (moves : List DispatchMove) : Prop where
  arrives : ∀ p, .start p ∈ moves → p.phase = .received
  fresh : ∀ n index input (p : Dispatching) queue_lease, moves[n]? = some (.advance index input) →
    (dispatchAt d moves n).procs[index]? = some p → p.phase = .emitting queue_lease →
      (dispatchAt d moves n).store.freshEvent input.event_id

/-- Who holds the leases, and what the deliveries found. -/
structure TrackInv (w : World Db Dispatching DeliverCall) : Prop where
  started : ∀ (i : Nat) (p : Dispatching), w.procs[i]? = some p → p.phase.past = true →
    w.store.started p.task.task_id
  /-- **One call of `process` gets past the emission.** -/
  alone : ∀ (i j : Nat) (p q : Dispatching), w.procs[i]? = some p → w.procs[j]? = some q →
    p.phase.past = true → q.phase.past = true → p.task.task_id = q.task.task_id → i = j
  /-- A lease is of a task that was delivered. -/
  leases : ∀ l ∈ w.store.executionLeases.rows, ∃ (i : Nat) (p : Dispatching),
    w.procs[i]? = some p ∧ p.task.task_id = l.task_id ∧ p.phase.called = true
  /-- **A delivery finds no lease of its task.** -/
  calls : ∀ c ∈ w.log, ∀ l ∈ c.store.executionLeases.rows, l.task_id ≠ c.task_id

omit [Externals] in
theorem TrackInv.init : TrackInv ⟨Db.empty, [], []⟩ where
  started i p hp := by simp at hp
  alone i j p q hp := by simp at hp
  leases l hl := absurd hl List.not_mem_nil
  calls c hc := absurd hc List.not_mem_nil

omit [Externals] in
/-- A task arrives. -/
theorem TrackInv.start {w : World Db Dispatching DeliverCall} (h : TrackInv w)
    {p : Dispatching} (hp : p.phase = .received) :
    TrackInv { w with procs := w.procs ++ [p] } := by
  have hold : ∀ (i : Nat) (q : Dispatching), (w.procs ++ [p])[i]? = some q →
      q.phase.past = true → w.procs[i]? = some q := by
    intro i q hq hpast
    rw [List.getElem?_append] at hq
    split at hq
    · exact hq
    · rw [List.getElem?_singleton] at hq
      split at hq
      · cases hq
        rw [hp] at hpast
        cases hpast
      · cases hq
  refine ⟨?_, ?_, ?_, h.calls⟩
  · intro i q hq hpast
    exact h.started i q (hold i q hq hpast) hpast
  · intro i j q r hq hr hpq hpr
    exact h.alone i j q r (hold i q hq hpq) (hold j r hr hpr) hpq hpr
  · intro l hl
    obtain ⟨i, q, hq, htask, hcalled⟩ := h.leases l hl
    refine ⟨i, q, ?_, htask, hcalled⟩
    have hlt := (List.getElem?_eq_some_iff.mp hq).1
    show (w.procs ++ [p])[i]? = some q
    rw [List.getElem?_append_left hlt]
    exact hq

/-- Another component calls. -/
theorem TrackInv.outside {w : World Db Dispatching DeliverCall} (h : TrackInv w)
    (beside : BesideDelivery) : TrackInv { w with store := bridgeStep d.fs w.store beside.call } := by
  refine ⟨?_, h.alone, ?_, h.calls⟩
  · intro i p hp hpast
    exact (h.started i p hp hpast).step d.fs beside.call
  · intro l hl
    obtain ⟨l₀, hl₀, htask⟩ := bridge_leaseKin d.fs beside.call beside.takes_no_lease l hl
    obtain ⟨i, p, hp, hptask, hcalled⟩ := h.leases l₀ hl₀
    exact ⟨i, p, hp, hptask.trans htask, hcalled⟩

/-- A task takes its next step. -/
theorem TrackInv.advance {w : World Db Dispatching DeliverCall} (h : TrackInv w)
    {index : Nat} {input : DispatchInput} {p p' : Dispatching} {db' : Db}
    {calls : List DeliverCall} (hp : w.procs[index]? = some p) (htask : p'.task = p.task)
    (heffect : Dispatching.Effect d input p w.store p' db' calls) :
    TrackInv ⟨db', w.procs.set index p', w.log ++ calls⟩ := by
  have hlt := (List.getElem?_eq_some_iff.mp hp).1
  have hown : (w.procs.set index p')[index]? = some p' := by simp [hlt]
  have hother : ∀ (i : Nat) (q : Dispatching), (w.procs.set index p')[i]? = some q →
      (i = index ∧ q = p') ∨ (i ≠ index ∧ w.procs[i]? = some q) := by
    intro i q hq
    by_cases hi : i = index
    · subst hi
      rw [hown] at hq
      exact Or.inl ⟨rfl, (Option.some.inj hq).symm⟩
    · rw [List.getElem?_set_ne (Ne.symm hi)] at hq
      exact Or.inr ⟨hi, hq⟩
  -- the tasks past their emission: those of before, and this one
  have halone : (p'.phase.past = true → ∀ j q, w.procs[j]? = some q → q.phase.past = true →
      p.task.task_id = q.task.task_id → j = index) →
      ∀ (i j : Nat) (q r : Dispatching), (w.procs.set index p')[i]? = some q →
        (w.procs.set index p')[j]? = some r → q.phase.past = true → r.phase.past = true →
          q.task.task_id = r.task.task_id → i = j := by
    intro hnew i j q r hq hr hqpast hrpast hsame
    rcases hother i q hq with ⟨hi, hqp⟩ | ⟨-, hqold⟩
    · rcases hother j r hr with ⟨hj, -⟩ | ⟨-, hrold⟩
      · rw [hi, hj]
      · rw [hqp] at hqpast hsame
        rw [htask] at hsame
        rw [hi, hnew hqpast j r hrold hrpast hsame]
    · rcases hother j r hr with ⟨hj, hrp⟩ | ⟨-, hrold⟩
      · rw [hrp] at hrpast hsame
        rw [htask] at hsame
        rw [hj, hnew hrpast i q hqold hqpast hsame.symm]
      · exact h.alone i j q r hqold hrold hqpast hrpast hsame
  -- a lease of before keeps its holder
  have hholder : (p.phase.called = true → p'.phase.called = true) →
      ∀ l ∈ w.store.executionLeases.rows, ∃ (i : Nat) (q : Dispatching),
        (w.procs.set index p')[i]? = some q ∧ q.task.task_id = l.task_id ∧
          q.phase.called = true := by
    intro hcalled l hl
    obtain ⟨i, q, hq, hqtask, hqcalled⟩ := h.leases l hl
    by_cases hi : i = index
    · subst hi
      rw [hp] at hq
      obtain rfl := Option.some.inj hq
      exact ⟨i, p', hown, by rw [htask]; exact hqtask, hcalled hqcalled⟩
    · exact ⟨i, q, by rw [List.getElem?_set_ne (Ne.symm hi)]; exact hq, hqtask, hqcalled⟩
  cases heffect with
  | quiet beside hpast hcalled =>
    refine ⟨?_, halone ?_, ?_, ?_⟩
    · intro i q hq hqpast
      rcases hother i q hq with ⟨-, rfl⟩ | ⟨-, hq⟩
      · rw [htask]
        exact (h.started index p hp (hpast hqpast)).step d.fs beside.call
      · exact (h.started i q hq hqpast).step d.fs beside.call
    · intro hnew j q hq hqpast hsame
      exact h.alone j index q p hq hp hqpast (hpast hnew) hsame.symm
    · intro l hl
      obtain ⟨l₀, hl₀, hkin⟩ := bridge_leaseKin d.fs beside.call beside.takes_no_lease l hl
      rw [← hkin]
      exact hholder hcalled l₀ hl₀
    · rw [List.append_nil]
      exact h.calls
  | emitted db' hphase hcommit =>
    have hdb : bridgeStep d.fs w.store (.runtime (.transition (p.dispatched input))) = db' :=
      congrArg Prod.snd hcommit
    obtain ⟨hfirst, hstarted⟩ := emission_once rfl hcommit
    refine ⟨?_, halone ?_, ?_, ?_⟩
    · intro i q hq hqpast
      rcases hother i q hq with ⟨-, rfl⟩ | ⟨-, hq⟩
      · rw [htask]
        exact hstarted
      · rw [← hdb]
        exact (h.started i q hq hqpast).step d.fs _
    · -- another one past its emission has left the event that was not there
      intro hnew j q hq hqpast hsame
      refine absurd (h.started j q hq hqpast) ?_
      rw [← hsame]
      exact hfirst
    · intro l hl
      rw [← hdb] at hl
      obtain ⟨l₀, hl₀, hkin⟩ :=
        bridge_leaseKin d.fs (.runtime (.transition (p.dispatched input))) rfl l hl
      rw [← hkin]
      refine hholder (fun hcalled => ?_) l₀ hl₀
      rw [DispatchPhase.past_of_called hcalled] at hphase
      cases hphase
    · rw [List.append_nil]
      exact h.calls
  | called hphase hcalled =>
    obtain ⟨⟨r, db'⟩, hacquire⟩ : ∃ result, acquire (LeasedAcpDispatcher.resourceKey
      p.task.to_agent d.workspace) p.task.task_id input.owner input.now d.lease_ttl w.store =
        result := ⟨_, rfl⟩
    have hdb : bridgeStep d.fs w.store (.runtime (.acquire (LeasedAcpDispatcher.resourceKey
      p.task.to_agent d.workspace) p.task.task_id input.owner input.now d.lease_ttl)) = db' :=
        congrArg Prod.snd hacquire
    have hpast : p.phase.past = true := by rw [hphase]; rfl
    rw [hacquire]
    refine ⟨?_, halone ?_, ?_, ?_⟩
    · intro i q hq hqpast
      rw [← hdb]
      rcases hother i q hq with ⟨-, rfl⟩ | ⟨-, hq⟩
      · rw [htask]
        exact (h.started index p hp hpast).step d.fs _
      · exact (h.started i q hq hqpast).step d.fs _
    · intro _ j q hq hqpast hsame
      exact h.alone j index q p hq hp hqpast hpast hsame.symm
    · intro l hl
      rcases acquire_leases hacquire l hl with ⟨l₀, hl₀, hkin⟩ | hnew
      · rw [← hkin]
        exact hholder (fun _ => hcalled) l₀ hl₀
      · exact ⟨index, p', hown, by rw [htask, hnew], hcalled⟩
    · intro c hc l hl
      rcases List.mem_append.mp hc with hc | hc
      · exact h.calls c hc l hl
      · -- its holder would be this very call of `process`, which has not delivered yet
        obtain rfl := List.mem_singleton.mp hc
        intro hltask
        obtain ⟨i, q, hq, hqtask, hqcalled⟩ := h.leases l hl
        obtain rfl := h.alone i index q p hq hp (DispatchPhase.past_of_called hqcalled) hpast
          (hqtask.trans hltask)
        rw [hp] at hq
        obtain rfl := Option.some.inj hq
        rw [hphase] at hqcalled
        cases hqcalled

/-- The invariant holds in every world of every run. -/
theorem dispatchAt_inv {moves : List DispatchMove} (h : DispatchRun d moves) (n : Nat) :
    TrackInv (dispatchAt d moves n) := by
  refine System.invariant TrackInv .init ?_ n
  intro n m hm hinv
  cases m with
  | start p => exact hinv.start (h.arrives p (List.mem_of_getElem? hm))
  | outside beside => exact hinv.outside beside
  | advance index input =>
    cases hp : (dispatchAt d moves n).procs[index]? with
    | none =>
      show TrackInv ((dispatchSystem d).move (dispatchAt d moves n) _)
      rw [System.move_advance_none hp]
      exact hinv
    | some p =>
      show TrackInv ((dispatchSystem d).move (dispatchAt d moves n) _)
      rw [System.move_advance_some hp]
      obtain ⟨htask, heffect⟩ := Dispatching.step_effect (d := d) (p := p)
        fun queue_lease hphase => h.fresh n index input p queue_lease hm hp hphase
      exact hinv.advance hp htask heffect

/-- **The queue does not track a delivery.**  In every run, at every call of `deliver`, no row
of the task is under a live lease; the queue agrees with the delivery exactly when the task owns
no row. -/
theorem queue_untracked (d : DeliveryPolicy) (moves : List DispatchMove)
    (h : DispatchRun d moves) (n : Nat) :
    ∀ c ∈ (dispatchAt d moves n).log,
      (∀ q ∈ c.store.agentWorkQueue.rows, ¬ c.RowTracked q) ∧ (c.Tracked ↔ ¬ c.Queued) := by
  intro c hc
  have hrow : ∀ q ∈ c.store.agentWorkQueue.rows, ¬ c.RowTracked q := by
    intro q hq htracked
    obtain ⟨-, -, l, hl, -, -, htask, -⟩ := htracked
    exact (dispatchAt_inv h n).calls c hc l hl htask
  refine ⟨hrow, ?_⟩
  constructor
  · rintro htracked ⟨q, hq, htask⟩
    exact hrow q hq (htracked q hq htask)
  · intro hnone q hq htask
    exact absurd ⟨q, hq, htask⟩ hnone

end

/-! ### A task of the queue -/

/-- The policy of the run below. -/
def plainDelivery : DeliveryPolicy :=
  { workspace := 9, workspace_paths := [], lease_ttl := 60000000000, fs := noFiles }

/-- A step without an interruption. -/
def plainInput (id : EventId) : DispatchInput :=
  { interrupted := false, picked := ⟨1⟩, now := DateTime.ofSecs 1,
    expires := "1970-01-01T00:00:31+00:00", event_id := id, status := .failed,
    payload := .failed "e", published := true, owner := 3, newId := fun i => BitVec.ofNat 128 i,
    taken := true }

/-- A task enters the queue, and the worker processes it up to its delivery. -/
def queuedDelivery : List DispatchMove :=
  [.outside ⟨.queue (.admitQueuedWorkflow sendInput ⟨4⟩ 7 "workflow" (some "c") 1), rfl⟩,
    .start ⟨sendInput.task, ⟨9⟩, .received⟩,
    .advance 0 (plainInput ⟨10⟩), .advance 0 (plainInput ⟨11⟩), .advance 0 (plainInput ⟨12⟩),
    .advance 0 (plainInput ⟨13⟩), .advance 0 (plainInput ⟨14⟩)]

theorem queuedDelivery_run : DispatchRun plainDelivery queuedDelivery where
  arrives := by
    intro p hp
    simp [queuedDelivery] at hp
    rw [hp]
  fresh := by
    intro n index input p queue_lease hm _ _
    match n with
    | 0 | 1 => cases hm
    | 2 | 3 | 4 | 5 | 6 =>
      cases hm
      show ∀ e ∈ (dispatchAt plainDelivery queuedDelivery _).store.taskEvents.rows, _
      decide
    | n + 7 => cases hm

/-- **The row is still queued** when the task is delivered. -/
theorem queuedDelivery_untracked :
    ¬ ∀ (d : DeliveryPolicy) (moves : List DispatchMove), DispatchRun d moves →
      ∀ n, ∀ c ∈ (dispatchAt d moves n).log, c.Queued → c.Tracked := by
  intro hall
  have hlog : ∃ c ∈ (dispatchAt plainDelivery queuedDelivery 7).log,
      ∃ q ∈ c.store.agentWorkQueue.rows, q.task_id = c.task_id ∧ q.state = .queued := by
    decide
  obtain ⟨c, hc, q, hq, htask, hstate⟩ := hlog
  obtain ⟨hrunning, -⟩ := hall _ _ queuedDelivery_run 7 c hc ⟨q, hq, htask⟩ q hq htask
  rw [hstate] at hrunning
  cases hrunning

/-- That delivery owns a row, so the queue does not agree with it. -/
theorem queue_untracked_queuedDelivery :
    ∃ c ∈ (dispatchAt plainDelivery queuedDelivery 7).log, c.Queued ∧ ¬ c.Tracked := by
  have hlog : ∃ c ∈ (dispatchAt plainDelivery queuedDelivery 7).log,
      ∃ q ∈ c.store.agentWorkQueue.rows, q.task_id = c.task_id := by decide
  obtain ⟨c, hc, q, hq, htask⟩ := hlog
  have hqueued : c.Queued := ⟨q, hq, htask⟩
  have hagree := (queue_untracked plainDelivery queuedDelivery queuedDelivery_run 7 c hc).2
  exact ⟨c, hc, hqueued, fun htracked => hagree.mp htracked hqueued⟩

end GuiguBridge
