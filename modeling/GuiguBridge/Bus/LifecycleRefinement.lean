import GuiguBridge.Bus.EventGrammar
import GuiguBridge.Runtime.DurableLog

/-!
# The worker against the durable lifecycle

Two state machines follow a task: the worker's loop, and the admission row that
`SqliteTaskLifecycle::transition` moves.  This file compares them.

* `Worker.submitted` — the events one `process` hands to its lifecycle;
* `Accepts` — the lifecycle takes a list of events one by one, each `Committed` or `Replay`;
* `Stands` — a task between two events: its version, the state of its admission, and the
  positions still free.  `transition_next` says what the lifecycle answers there, and
  `Stands.next` where the task stands then;
* `waiting_log` — in every reachable store a task that waits has only its first event;
* `grammar_accepted` — **with at most one delivery every event list of the worker is taken**:
  each phase of the grammar has its admission state;
* `lifecycle_accepts_iff` — a second `Dispatched` is not: the lifecycle leaves `dispatching`
  and `running` only forwards.
-/

namespace GuiguBridge

open Relational Prog

/-! ### A task between two events -/

/-- The task is at version `n` with its admission in `state`, and no event beyond position
`n + 1`. -/
structure Stands (db : Db) (task_id : TaskId) (n : Nat) (state : AdmissionState) : Prop where
  version : ∃ row, db.tasks.get task_id = some row ∧ row.version = n
  admission : ∃ a, db.taskAdmissions.get task_id = some a ∧ a.state = state
  events : ∀ e ∈ db.taskEvents.rows, e.task_id = task_id → e.seq ≤ n + 1

/-- No event in the store has this identity. -/
def Db.freshEvent (db : Db) (id : EventId) : Prop := ∀ e ∈ db.taskEvents.rows, e.event_id ≠ id

theorem toI64_of_lt {v : Nat} (h : v < 2 ^ 63) : toI64 v = some v := by
  rw [toI64, if_pos h]

theorem replays_of_fresh {db : Db} {event : TaskEvent} (h : db.freshEvent event.id) :
    db.replays event event.seq = false := by
  rw [Db.replays, List.any_eq_false]
  intro e he
  simp [h e he]

section

variable [Externals] {db : Db} {event : TaskEvent} {n : Nat} {state : AdmissionState}
  {from_ : List AdmissionState} {to_ : AdmissionState}

/-- The body of `transition` up to the admission, for the next event of a task with a new
identity: only the admission state is left to decide. -/
theorem transition_next (h : Stands db event.task_id n state) (hseq : event.seq = n + 2)
    (hlt : event.seq < 2 ^ 63) (hfresh : db.freshEvent event.id)
    (hmove : lifecycleTransition event.status = some (from_, to_)) :
    (transition event db).1 = .ok (if state ∈ from_ then .committed else .stale) := by
  obtain ⟨row, hrow, hversion⟩ := h.version
  obtain ⟨a, ha, hstate⟩ := h.admission
  have hexp : toI64 (event.seq - 2) = some n := by
    rw [toI64_of_lt (by omega)]
    congr 1
    omega
  have hge : decide (2 ≤ event.seq) = true := decide_eq_true (by omega)
  have hver : db.tasks.affected
      (fun t => decide (t.task_id = event.task_id ∧ t.version = n)) = 1 :=
    (Table.affected_eq_one_iff fun r hp => (of_decide_eq_true hp).1).mpr
      ⟨row, hrow, decide_eq_true ⟨Table.key_of_get hrow, hversion⟩⟩
  have hadm : (db.taskAdmissions.affected
      (fun a => decide (a.task_id = event.task_id ∧ a.state ∈ from_)) = 1) ↔ state ∈ from_ := by
    rw [Table.affected_eq_one_iff fun r hp => (of_decide_eq_true hp).1]
    constructor
    · rintro ⟨b, hb, hp⟩
      rw [ha] at hb
      cases hb
      exact hstate ▸ (of_decide_eq_true hp).2
    · intro hfrom
      exact ⟨a, ha, decide_eq_true ⟨Table.key_of_get ha, hstate ▸ hfrom⟩⟩
  have htaken : ∀ e ∈ db.taskEvents.rows,
      ¬ (e.task_id = event.task_id ∧ e.seq = event.seq) := by
    intro e he hp
    have hle := h.events e he hp.1
    omega
  obtain ⟨t, ht⟩ := Table.exists_insert (t := db.taskEvents)
    (r := eventToRow event event.seq event.status) fun r hr => hfresh r hr
  simp only [transition, Tx.commit, Tx.bind_apply, toI64_of_lt hlt, Tx.orElse_some, Tx.read_apply,
    replays_of_fresh hfresh, Bool.not_false, Tx.require_true, hge, hexp, advanceVersion,
    Tx.update_apply, Db.tasksL, hver, decide_true, hmove, moveAdmission, Db.taskAdmissionsL]
  by_cases hfrom : state ∈ from_
  · have hone : 1 ≤ event.seq := by omega
    simp only [hadm.mpr hfrom, decide_true, Tx.require_true, if_pos hfrom]
    rw [insertEvent_free hone htaken ht ?_]
    · rfl
    · rfl
  · rw [decide_eq_false (fun hh => hfrom (hadm.mp hh)), if_neg hfrom]
    rfl

/-- After a committed event the task stands one version further, and only the event's own
identity is used up. -/
theorem Stands.next (h : Stands db event.task_id n state) (hseq : event.seq = n + 2)
    (hmove : lifecycleTransition event.status = some (from_, to_))
    (hok : (transition event db).1 = .ok .committed) :
    Stands (transition event db).2 event.task_id (n + 1) to_ ∧
      ∀ e ∈ (transition event db).2.taskEvents.rows,
        e ∈ db.taskEvents.rows ∨ e.event_id = event.id := by
  rcases hr : transition event db with ⟨result, db'⟩
  rw [hr] at hok
  rcases transition_cases hr with ⟨-, hno⟩ | ⟨-, hstep⟩
  · exact absurd hok hno
  · obtain ⟨row, hrow, hversion, htask⟩ := hstep.version
    obtain ⟨from', to', a, hmove', ha, -, hputs⟩ := hstep.admission
    cases hmove.symm.trans hmove'
    have hrows := ((Table.insert_eq_some_iff _ _ _).mp hstep.appended).2
    refine ⟨{ version := ?_, admission := ?_, events := ?_ }, ?_⟩
    · refine ⟨_, by rw [htask, if_pos rfl], ?_⟩
      show event.seq - 2 + 1 = n + 1
      omega
    · exact ⟨_, by rw [hputs, if_pos rfl], rfl⟩
    · intro e he ht
      rw [hrows, List.mem_append, List.mem_singleton] at he
      rcases he with he | rfl
      · have hle := h.events e he ht
        omega
      · show event.seq ≤ n + 1 + 1
        omega
    · intro e he
      rw [hrows, List.mem_append, List.mem_singleton] at he
      rcases he with he | rfl
      · exact Or.inl he
      · exact Or.inr rfl

/-! ### Feeding a list of events to the lifecycle -/

/-- The store after a list of events. -/
def applyEvents (events : List TaskEvent) (db : Db) : Db :=
  events.foldl (fun db event => (transition event db).2) db

/-- The lifecycle takes the event. -/
def Takes (event : TaskEvent) (db : Db) : Prop :=
  (transition event db).1 = .ok .committed ∨ (transition event db).1 = .ok .replay

/-- The lifecycle takes every event of the list, in order. -/
def Accepts : List TaskEvent → Db → Prop
  | [], _ => True
  | event :: events, db => Takes event db ∧ Accepts events (transition event db).2

theorem accepts_concat (events : List TaskEvent) (event : TaskEvent) (db : Db) :
    Accepts (events ++ [event]) db ↔
      Accepts events db ∧ Takes event (applyEvents events db) := by
  induction events generalizing db with
  | nil => simp [Accepts, applyEvents]
  | cons first rest ih =>
    show Takes first db ∧ Accepts (rest ++ [event]) (transition first db).2 ↔ _
    rw [ih]
    exact and_assoc.symm

theorem applyEvents_concat (events : List TaskEvent) (event : TaskEvent) (db : Db) :
    applyEvents (events ++ [event]) db = (transition event (applyEvents events db)).2 := by
  rw [applyEvents, List.foldl_append]
  rfl

/-- The admission state that goes with a phase of the grammar. -/
def Phase.admission : Phase → AdmissionState
  | .start => .enqueued
  | .dispatched => .dispatching
  | .running => .running
  | .closed => .terminal

/-- `EventId::generate` repeats neither itself nor an identity of the store within `n`
draws. -/
structure FreshEvents (ids : Nat → EventId) (n : Nat) (db : Db) : Prop where
  distinct : ∀ i j, i < j → j < n → ids i ≠ ids j
  unused : ∀ i, i < n → db.freshEvent (ids i)

/-- Where a list of the grammar leaves the store. -/
structure Followed (task_id : TaskId) (ids : Nat → EventId) (n : Nat) (phase : Phase)
    (es : List TaskEvent) (db : Db) : Prop where
  accepted : Accepts es db
  stands : Stands (applyEvents es db) task_id es.length phase.admission
  unused : ∀ i, es.length ≤ i → i < n → (applyEvents es db).freshEvent (ids i)

/-- **One event further.**  When the lifecycle may leave the phase for the event's status, it
commits the event and the two machines stay together. -/
theorem Followed.step {task_id : TaskId} {ids : Nat → EventId} {m : Nat} {phase next : Phase}
    {es : List TaskEvent} {payload : TaskEventPayload}
    (hdistinct : ∀ i j, i < j → j < m → ids i ≠ ids j)
    (h : Followed task_id ids m phase es db) (hlen : es.length < m) (hm : m < 2 ^ 32)
    (entry : Entry task_id ids es payload event)
    (hmove : lifecycleTransition payload.status = some (from_, next.admission))
    (hfrom : phase.admission ∈ from_) : Followed task_id ids m next (es ++ [event]) db := by
  have hstands : Stands (applyEvents es db) event.task_id es.length phase.admission :=
    entry.task_id ▸ h.stands
  have hmove' : lifecycleTransition event.status = some (from_, next.admission) :=
    entry.status ▸ hmove
  have hfresh : (applyEvents es db).freshEvent event.id :=
    entry.id ▸ h.unused es.length (Nat.le_refl _) hlen
  have hlt : event.seq < 2 ^ 63 := by
    rw [entry.seq]
    omega
  have hok := transition_next hstands entry.seq hlt hfresh hmove'
  rw [if_pos hfrom] at hok
  obtain ⟨hnext, hids⟩ := hstands.next entry.seq hmove' hok
  refine { accepted := ?_, stands := ?_, unused := ?_ }
  · exact (accepts_concat _ _ _).mpr ⟨h.accepted, Or.inl hok⟩
  · rw [applyEvents_concat, List.length_append, List.length_singleton, ← entry.task_id]
    exact hnext
  · intro i hi him e he
    rw [List.length_append, List.length_singleton] at hi
    rw [applyEvents_concat] at he
    rcases hids e he with he | he
    · exact h.unused i (by omega) him e he
    · rw [he, entry.id]
      exact hdistinct _ _ (by omega) him

omit [Externals] in
/-- Without a delivery the task is where it started, or closed. -/
theorem Grammar.start_of_zero {task_id : TaskId} {deliveries : Nat → DeliveryId}
    {ids : Nat → EventId} {phase : Phase} {es : List TaskEvent}
    (h : Grammar task_id deliveries ids 0 phase es) (hlive : phase ≠ .closed) :
    phase = .start := by
  cases h with
  | start => rfl
  | run before entry => nomatch before
  | close => exact absurd rfl hlive

omit [Externals] in
/-- A terminal status is reached from every live admission state, `completed` from
`running`. -/
theorem lifecycleTransition_close {status : TaskStatus} {phase : Phase}
    (hlive : phase ≠ .closed) (hterm : status.isTerminal = true)
    (hcomp : status = .completed → phase = .running) :
    ∃ from_, lifecycleTransition status = some (from_, Phase.closed.admission) ∧
      phase.admission ∈ from_ := by
  cases status with
  | queued | dispatched | running => nomatch hterm
  | completed =>
    rw [hcomp rfl]
    exact ⟨_, rfl, by decide⟩
  | failed | timedOut | cancelled =>
    refine ⟨_, rfl, ?_⟩
    cases phase with
    | closed => exact absurd rfl hlive
    | start | dispatched | running => decide

/-- **With at most one delivery the two machines agree**, on every event list of the
grammar. -/
theorem grammar_accepted {task_id : TaskId} {deliveries : Nat → DeliveryId}
    {ids : Nat → EventId} {k : Nat} {phase : Phase} {es : List TaskEvent}
    (hdb : Stands db task_id 0 .enqueued) (hfresh : FreshEvents ids 3 db)
    (h : Grammar task_id deliveries ids k phase es) (hk : k ≤ 1) :
    Followed task_id ids 3 phase es db := by
  have hm : 3 < 2 ^ 32 := by decide
  induction h with
  | start => exact ⟨trivial, hdb, fun i _ hi => hfresh.unused i hi⟩
  | dispatch before live number entry ih =>
    obtain rfl : _ = 0 := Nat.le_zero.mp (Nat.le_of_succ_le_succ hk)
    have hlen := before.length_le
    have hstart := before.start_of_zero live
    subst hstart
    simp only [reduceCtorEq, if_false] at hlen
    exact (ih (by omega)).step hfresh.distinct (by omega) hm entry rfl (by decide)
  | run before entry ih =>
    have hlen := before.length_le
    simp only [if_true, reduceCtorEq, if_false] at hlen
    exact (ih hk).step hfresh.distinct (by omega) hm entry rfl (by decide)
  | close before live terminal completed entry ih =>
    have hlen := before.length_le
    rw [if_neg live] at hlen
    obtain ⟨from_, hmove, hfrom⟩ := lifecycleTransition_close live terminal completed
    exact (ih hk).step hfresh.distinct (by omega) hm entry hmove hfrom

/-! ### A task that waits has only its first event -/

omit [Externals] in
/-- One call keeps it. -/
theorem waiting_step {db db' : Db} (hstep : LogStep db db') {task_id : TaskId}
    (hlog : LogInv db task_id)
    (h : ∀ a, db.taskAdmissions.get task_id = some a → a.state.waiting = true →
      (db.eventsOf task_id).length = 1) :
    ∀ a, db'.taskAdmissions.get task_id = some a → a.state.waiting = true →
      (db'.eventsOf task_id).length = 1 := by
  intro b hb hwaiting
  cases hstep with
  | same htasks hevents hadmissions =>
    rw [Db.eventsOf, hevents]
    exact h b (hadmissions ▸ hb) hwaiting
  | moved t a a' htasks hevents ha hwait hwait' hputs =>
    rw [Db.eventsOf, hevents]
    rw [hputs] at hb
    split at hb
    · rename_i heq
      exact h a (heq ▸ ha) hwait
    · exact h b hb hwaiting
  | admitted row e a htask hevent hadmission hversion he hseq hqueued ha hopen =>
    obtain ⟨hnone, -⟩ := Table.insert_puts htask
    obtain ⟨-, haput⟩ := Table.insert_puts hadmission
    rw [eventsOf_insert hevent]
    rw [haput] at hb
    split at hb
    · rename_i heq
      have htid : row.task_id = task_id := ha.symm.trans heq.symm
      rw [if_pos (he.trans htid), hlog.absent (htid ▸ hnone)]
      rfl
    · rename_i heq
      rw [if_neg fun hh => heq (hh.symm.trans (he.trans ha.symm))]
      exact h b hb hwaiting
  | appended e row a a' hrow hseq htask hevent ha hopen hclose hbusy hputs =>
    rw [eventsOf_insert hevent]
    rw [hputs] at hb
    split at hb
    · cases hb
      rw [hbusy] at hwaiting
      cases hwaiting
    · rename_i heq
      rw [if_neg fun hh => heq hh.symm]
      exact h b hb hwaiting

/-- **In every reachable store a task that waits stands at its start.** -/
theorem waiting_log (fs : FileSystem) (calls : List Call) {task_id : TaskId} {a : AdmissionRow}
    (ha : (run fs calls).taskAdmissions.get task_id = some a)
    (hstate : a.state = .enqueued) : Stands (run fs calls) task_id 0 .enqueued := by
  have hwait : ∀ b, (run fs calls).taskAdmissions.get task_id = some b →
      b.state.waiting = true → ((run fs calls).eventsOf task_id).length = 1 := by
    have hboth : LogInv (runFrom fs Db.empty calls) task_id ∧
        ∀ b, (runFrom fs Db.empty calls).taskAdmissions.get task_id = some b →
          b.state.waiting = true → ((runFrom fs Db.empty calls).eventsOf task_id).length = 1 :=
      runFrom_invariant (fun db => LogInv db task_id ∧
      ∀ b, db.taskAdmissions.get task_id = some b → b.state.waiting = true →
        (db.eventsOf task_id).length = 1)
      (fun db call h => ⟨h.1.step (step_logStep fs db call),
        waiting_step (step_logStep fs db call) h.1 h.2⟩) calls
      ⟨LogInv.empty task_id, fun b hb => nomatch hb⟩
    exact hboth.2
  have hlog := run_logInv fs calls task_id
  have hlen := hwait a ha (by rw [hstate]; rfl)
  refine { version := ?_, admission := ⟨a, ha, hstate⟩, events := ?_ }
  · cases hrow : (run fs calls).tasks.get task_id with
    | none =>
      rw [hlog.absent hrow] at hlen
      cases hlen
    | some row =>
      have hv := hlog.version row hrow
      exact ⟨row, rfl, by omega⟩
  · intro e he ht
    have hmem : e.seq ∈ ((run fs calls).eventsOf task_id).map (·.seq) :=
      List.mem_map_of_mem (List.mem_filter.mpr ⟨he, decide_eq_true ht⟩)
    rw [hlog.seqs, hlen, List.mem_range'_1] at hmem
    omega

/-! ### The worker's events -/

/-- The events one `process` hands to its lifecycle: those it published, and the one that was
lost, if any. -/
def Worker.submitted {σ : Type} (w : Worker σ) (task : AgentTask) (s : WorkerState σ) :
    List TaskEvent :=
  let s' := (w.process task s).2
  s'.emitted.drop s.emitted.length ++ (s'.lost.drop s.lost.length).map (·.1)

/-- What the worker submits obeys the grammar. -/
theorem Worker.submitted_grammar {σ : Type} (w : Worker σ) (task : AgentTask)
    (s : WorkerState σ) :
    ∃ k phase, k ≤ w.config.retry.limit ∧
      w.grammarFrom task.task_id s k phase (w.submitted task s) := by
  have h := w.process_spec task s s rfl
  rw [submitted]
  cases hp : w.process task s with
  | mk result s' =>
    rw [hp] at h
    dsimp only
    cases result with
    | ok value =>
      obtain ⟨k, es, d, u, hk, ht⟩ := h
      rw [ht.emitted, ht.lost, List.drop_left, List.drop_length, List.map_nil, List.append_nil]
      exact ⟨k, .closed, hk, ht.grammar⟩
    | error error =>
      obtain ⟨k, phase, es, hst⟩ := h
      rw [hst.emitted, List.drop_left]
      cases hst.cause with
      | unwritten bound grammar lost refused place =>
        rw [lost, List.drop_left]
        exact ⟨_, _, bound, grammar⟩
      | recovery running lost refused error =>
        rw [lost, List.drop_length, List.map_nil, List.append_nil]
        exact ⟨k, phase, hst.bound, hst.grammar⟩
      | handoff dispatched lost refused error =>
        rw [lost, List.drop_length, List.map_nil, List.append_nil]
        exact ⟨k, phase, hst.bound, hst.grammar⟩

def someNewTask : NewTask := { someTask with version_zero := rfl }

def someQueued : TaskEvent :=
  { id := ⟨1⟩, task_id := ⟨1⟩, seq := 1, status := .queued, timestamp := DateTime.ofSecs 0,
    payload := .queued }

/-- One task is admitted. -/
def oneAdmission : List Call := [.admitTask someNewTask someQueued "runtime" none]

theorem oneAdmission_enqueued (fs : FileSystem) :
    (run fs oneAdmission).taskAdmissions.get ⟨1⟩ =
      some (enqueuedAdmission ⟨1⟩ "runtime" (ts (DateTime.ofSecs 0)) none) := rfl

theorem oneAdmission_events (fs : FileSystem) :
    (run fs oneAdmission).taskEvents.rows = [queuedEvent ⟨1⟩ someQueued] := rfl

section

variable {retry : RetryPolicy} (hretry : retry.allowsAnotherAttemptAfter 1 = true)

/-- The first refusal is followed by another attempt at once: this worker has no timer. -/
theorem refusingWorker_retries (s : WorkerState Nat) :
    (refusingWorker retry).retryOrFail someTask 1 3 (.notAccepted "busy") s =
      (.ok (.again 3 ⟨hretry⟩), s) := by
  have hwait : (refusingWorker retry).waitBackoff someTask 1 = pure (.done ()) := by
    simp only [Worker.waitBackoff]
    split
    · rfl
    · rfl
  have hrefused : (refusingWorker retry).refused someTask 1 (.notAccepted "busy") =
      pure (.done (some ⟨⟨hretry⟩⟩)) := by
    rw [Worker.refused, dif_pos ⟨rfl, hretry⟩, hwait]
    rfl
  rw [Worker.retryOrFail, hrefused]
  rfl

/-- The events of the retried task. -/
def retriedEvents : List TaskEvent :=
  [{ id := ⟨100⟩, task_id := ⟨1⟩, seq := 2, status := .dispatched,
     timestamp := DateTime.ofSecs 0, payload := .dispatched ⟨0⟩ 1 },
   { id := ⟨101⟩, task_id := ⟨1⟩, seq := 3, status := .dispatched,
     timestamp := DateTime.ofSecs 0, payload := .dispatched ⟨1⟩ 2 },
   { id := ⟨102⟩, task_id := ⟨1⟩, seq := 4, status := .cancelled,
     timestamp := DateTime.ofSecs 0, payload := .cancelled "stop" }]

include hretry in
theorem refusingWorker_submitted :
    (refusingWorker retry).submitted someTask someState = retriedEvents := by
  have hfirst : (refusingWorker retry).attemptOnce refusingDispatcher ⟨⟨3⟩, .acp, true, true⟩
      someTask none 2 1 someState =
      (.ok (.again 3 ⟨hretry⟩), ⟨1, 1, 1, [], retriedEvents.take 1, [], []⟩) :=
    (show _ = (refusingWorker retry).retryOrFail someTask 1 3 (.notAccepted "busy") _
      from rfl).trans (refusingWorker_retries hretry _)
  have hsecond : (refusingWorker retry).attemptOnce refusingDispatcher ⟨⟨3⟩, .acp, true, true⟩
      someTask none 3 2 ⟨1, 1, 1, [], retriedEvents.take 1, [], []⟩ =
      (.ok .finished, ⟨2, 2, 3, [], retriedEvents, [], []⟩) := rfl
  have hloop : (refusingWorker retry).attempts refusingDispatcher ⟨⟨3⟩, .acp, true, true⟩
      someTask none 2 1 someState = (.ok (), ⟨2, 2, 3, [], retriedEvents, [], []⟩) := by
    rw [Worker.attempts, bind_of_ok hfirst]
    show (refusingWorker retry).attempts _ _ _ _ 3 2 _ = _
    rw [Worker.attempts, bind_of_ok hsecond]
    rfl
  have hprocess : (refusingWorker retry).process someTask someState =
      (.ok (), ⟨2, 2, 3, [], retriedEvents, [], []⟩) := hloop
  rw [Worker.submitted, hprocess]
  rfl

end

/-- The second `Dispatched` finds the admission `dispatching`, and is stale. -/
theorem retriedEvents_refused (fs : FileSystem) :
    ¬ Accepts retriedEvents (run fs oneAdmission) := by
  rintro ⟨hfirst, hsecond, -⟩
  have hstands := waiting_log fs oneAdmission (oneAdmission_enqueued fs) rfl
  have hfresh : ∀ id : EventId, id ≠ ⟨1⟩ → (run fs oneAdmission).freshEvent id := by
    intro id hid e he
    rw [oneAdmission_events, List.mem_singleton] at he
    rw [he]
    exact hid.symm
  have hok : (transition retriedEvents[0] (run fs oneAdmission)).1 =
      .ok (if AdmissionState.enqueued ∈ [.ready, .enqueued] then .committed else .stale) :=
    transition_next hstands rfl (by decide) (hfresh ⟨100⟩ (by decide)) rfl
  obtain ⟨hnext, hids⟩ : Stands (transition retriedEvents[0] (run fs oneAdmission)).2 ⟨1⟩ 1
      .dispatching ∧ ∀ e ∈ (transition retriedEvents[0] (run fs oneAdmission)).2.taskEvents.rows,
        e ∈ (run fs oneAdmission).taskEvents.rows ∨ e.event_id = ⟨100⟩ :=
    hstands.next rfl rfl hok
  have hunused : (transition retriedEvents[0] (run fs oneAdmission)).2.freshEvent ⟨101⟩ := by
    intro e he
    rcases hids e he with he | he
    · exact hfresh ⟨101⟩ (by decide) e he
    · rw [he]
      decide
  have hstale : (transition retriedEvents[1]
      (transition retriedEvents[0] (run fs oneAdmission)).2).1 =
      .ok (if AdmissionState.dispatching ∈ [.ready, .enqueued] then .committed else .stale) :=
    transition_next hnext rfl (by decide) hunused rfl
  rcases hsecond with h | h
  · cases hstale.symm.trans h
  · cases hstale.symm.trans h

/-- **The lifecycle takes every event list of the worker exactly when the policy allows one
attempt.**  In any reachable store, for any task whose admission is `enqueued` and any worker
with the policy in any world, each event that `process` hands over is `Committed` or `Replay`,
in order; a policy with a second attempt has a worker whose second `Dispatched` is `Stale`. -/
theorem lifecycle_accepts_iff (fs : FileSystem) (retry : RetryPolicy) :
    (∀ (σ : Type) (w : Worker σ) (task : AgentTask) (s : WorkerState σ) (calls : List Call)
      (a : AdmissionRow), w.config.retry = retry →
      (run fs calls).taskAdmissions.get task.task_id = some a → a.state = .enqueued →
      FreshEvents (fun i => w.eventIds (s.eventsDrawn + i)) (2 * retry.limit + 1)
        (run fs calls) →
      Accepts (w.submitted task s) (run fs calls)) ↔ retry.max_attempts.toNat ≤ 1 := by
  constructor
  · intro h
    by_contra hmany
    have hallow : retry.allowsAnotherAttemptAfter 1 = true := by
      refine decide_eq_true ?_
      show 1 < max retry.max_attempts.toNat 1
      omega
    have hbound : retry.limit < 2 ^ 32 := by
      have hmax : retry.max_attempts.toNat < 2 ^ 32 := retry.max_attempts.toNat_lt
      show max retry.max_attempts.toNat 1 < 2 ^ 32
      omega
    have hfresh : FreshEvents
        (fun i => (refusingWorker retry).eventIds (someState.eventsDrawn + i))
        (2 * retry.limit + 1) (run fs oneAdmission) := by
      have hinj : ∀ i j : Nat, i < 2 ^ 34 → j < 2 ^ 34 →
          (⟨BitVec.ofNat 128 i⟩ : EventId) = ⟨BitVec.ofNat 128 j⟩ → i = j := by
        intro i j hi hj heq
        have hnat := congrArg (fun id : EventId => id.uuid.toNat) heq
        simp only [BitVec.toNat_ofNat] at hnat
        omega
      have hdrawn : someState.eventsDrawn = 0 := rfl
      refine { distinct := ?_, unused := ?_ }
      · intro i j hij hj heq
        have h' := hinj _ _ (by omega) (by omega) heq
        omega
      · intro i hi e he heq
        rw [oneAdmission_events, List.mem_singleton] at he
        rw [he] at heq
        have h' := hinj 1 _ (by decide) (by omega) heq
        omega
    have haccepts := h Nat (refusingWorker retry) someTask someState oneAdmission _ rfl
      (oneAdmission_enqueued fs) rfl hfresh
    rw [refusingWorker_submitted hallow] at haccepts
    exact retriedEvents_refused fs haccepts
  · intro hone σ w task s calls a hconfig ha hstate hfresh
    obtain ⟨k, phase, hk, hg⟩ := w.submitted_grammar task s
    have hlimit : retry.limit = 1 := Nat.max_eq_right hone
    rw [hconfig, hlimit] at hk
    rw [hlimit] at hfresh
    exact (grammar_accepted (waiting_log fs calls ha hstate) hfresh hg hk).accepted

end

/-- Two attempts, an ordinary dispatcher that refuses the first delivery: the admission is
`enqueued`, and the lifecycle does not take the worker's events. -/
theorem second_dispatch_stale :
    ((run noFiles oneAdmission).taskAdmissions.get someTask.task_id).map (·.state) =
      some .enqueued ∧
    ((refusingWorker ⟨2, .none⟩).submitted someTask someState).map (·.status) =
      [.dispatched, .dispatched, .cancelled] ∧
    ¬ Accepts ((refusingWorker ⟨2, .none⟩).submitted someTask someState)
      (run noFiles oneAdmission) := by
  rw [refusingWorker_submitted rfl]
  exact ⟨rfl, rfl, retriedEvents_refused noFiles⟩

end GuiguBridge
