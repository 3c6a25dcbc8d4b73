import GuiguBridge.App.QueueHistory
import GuiguBridge.App.TaskLog

/-!
# The capacity of the work queue

A target has room for a number of items, and an item counts while its row is queued, claimed,
running or paused.

* `closed_admission` — the admission of a closed task is terminal, in every run;
* `NoLeak` — no row of a closed task counts.  No statement of the store retires a row when its
  task ends, so the law holds only where `BridgeCall.Retired` does: **a task that ends has no
  row that counts**;
* `NoLeak.room` — without a leak, a target without live tasks takes a new item;
* `queue_capacity` — the law, in every run whose calls meet the condition;
* `leakRun` — one completed task, and a target that takes nothing any more.
-/

namespace GuiguBridge

open Relational

/-! ### Closed tasks -/

section

variable [Externals]

/-- The admission of a closed task is terminal. -/
def ClosedInv (db : Db) : Prop :=
  ∀ task_id, db.closed task_id →
    ∃ a, db.taskAdmissions.get task_id = some a ∧ a.state = .terminal

omit [Externals] in
theorem closed_of_same {db db' : Db} (h : db'.taskEvents = db.taskEvents) (task_id : TaskId) :
    db'.closed task_id ↔ db.closed task_id := by
  rw [Db.closed, Db.eventsOf, h]
  rfl

omit [Externals] in
/-- One more event closes its own task, if it is terminal. -/
theorem closed_insert {db db' : Db} {e : EventRow}
    (h : db.taskEvents.insert e = some db'.taskEvents) (task_id : TaskId) :
    db'.closed task_id ↔
      db.closed task_id ∨ (e.task_id = task_id ∧ e.status.isTerminal = true) := by
  simp only [Db.closed, eventsOf_insert h]
  by_cases heq : e.task_id = task_id
  · simp only [if_pos heq, List.mem_append, List.mem_singleton]
    constructor
    · rintro ⟨x, hx | rfl, hterm⟩
      · exact Or.inl ⟨x, hx, hterm⟩
      · exact Or.inr ⟨heq, hterm⟩
    · rintro (⟨x, hx, hterm⟩ | ⟨-, hterm⟩)
      · exact ⟨x, Or.inl hx, hterm⟩
      · exact ⟨e, Or.inr rfl, hterm⟩
  · simp [heq]

omit [Externals] in
/-- A task with an open admission is not closed. -/
theorem ClosedInv.open_of {db : Db} (h : ClosedInv db) {task_id : TaskId} {a : AdmissionRow}
    (ha : db.taskAdmissions.get task_id = some a) (hopen : a.state ≠ .terminal) :
    ¬ db.closed task_id := by
  intro hclosed
  obtain ⟨b, hb, hterm⟩ := h task_id hclosed
  rw [ha] at hb
  obtain rfl := Option.some.inj hb
  exact hopen hterm

omit [Externals] in
/-- A task that is not admitted yet is not closed. -/
theorem ClosedInv.open_of_none {db : Db} (h : ClosedInv db) {task_id : TaskId}
    (hnone : db.taskAdmissions.get task_id = none) : ¬ db.closed task_id := by
  intro hclosed
  obtain ⟨b, hb, -⟩ := h task_id hclosed
  rw [hnone] at hb
  cases hb

/-- **One call keeps the agreement.** -/
theorem ClosedInv.step {db db' : Db} {call : BridgeCall} (h : ClosedInv db)
    (hstep : BridgeLog db call db') : ClosedInv db' := by
  intro task_id hclosed
  cases hstep with
  | same htasks hevents hadmissions =>
    rw [hadmissions]
    exact h task_id ((closed_of_same hevents task_id).mp hclosed)
  | moved t a a' htasks hevents ha hopen hopen' hrevision hputs =>
    have hold := (closed_of_same hevents task_id).mp hclosed
    have hne : task_id ≠ t := by
      rintro rfl
      exact h.open_of ha hopen hold
    rw [hputs task_id, if_neg hne]
    exact h task_id hold
  | admitted row e a hcall hadmitted =>
    obtain ⟨hqueued, -, -, -⟩ := BridgeCall.admits_queued hcall
    obtain ⟨hnone, hputs⟩ := Table.insert_puts hadmitted.admission
    have hold : db.closed task_id := by
      rcases (closed_insert hadmitted.event task_id).mp hclosed with hold | ⟨-, hterm⟩
      · exact hold
      · rw [hqueued] at hterm
        cases hterm
    have hne : task_id ≠ a.task_id := by
      rintro rfl
      exact h.open_of_none hnone hold
    rw [hputs task_id, if_neg hne]
    exact h task_id hold
  | appended event a a' hcall htasks hevent ha hopen hclose hrevision hputs =>
    by_cases heq : task_id = event.task_id
    · subst heq
      rw [hputs event.task_id, if_pos rfl]
      refine ⟨a', rfl, hclose.mpr ?_⟩
      rcases (closed_insert hevent event.task_id).mp hclosed with hold | ⟨-, hterm⟩
      · exact absurd hold (h.open_of ha hopen)
      · exact hterm
    · rw [hputs task_id, if_neg heq]
      rcases (closed_insert hevent task_id).mp hclosed with hold | ⟨htask, -⟩
      · exact h task_id hold
      · exact absurd htask.symm heq

theorem closed_admission (fs : FileSystem) (calls : List BridgeCall) (n : Nat) :
    ClosedInv (bridgeAt fs calls n) := by
  refine bridgeAt_invariant ClosedInv ?_ (fun _ call _ h => h.step (bridge_log fs _ call)) n
  rintro task_id ⟨e, he, -⟩
  cases he

end

/-! ### Rows that count -/

/-- A row that moves counts before, and belongs to the same task after. -/
theorem QueueMove.counts {db : Db} {call : QueueCall} {q q' : WorkQueueRow}
    (h : QueueMove db call q q') : q.state.active = true ∧ q'.task_id = q.task_id := by
  cases h with
  | claimed owner fence now hstate => exact ⟨by rw [hstate]; rfl, rfl⟩
  | started now hstate hunsent => exact ⟨by rw [hstate]; rfl, rfl⟩
  | paused now hactive hunsent => exact ⟨hactive, rfl⟩
  | reaped resource owner fence now l hcall hactive howner hfence hl hbound hdead =>
    exact ⟨hactive, rfl⟩
  | suspected now hactive => exact ⟨hactive, rfl⟩
  | requeued sequence now hstate => exact ⟨by rw [hstate]; rfl, rfl⟩
  | recovered now hactive => exact ⟨hactive, rfl⟩

/-- No row of a closed task counts against the capacity of its target. -/
def NoLeak (db : Db) : Prop :=
  ∀ q ∈ db.agentWorkQueue.rows, db.closed q.task_id → q.state.active = false

/-- A call that ends a task finds no row of it that counts; a reservation is for a task that has
not ended, and a workflow message brings the task it names, as `route_workflow` has it. -/
structure BridgeCall.Retired (db : Db) (call : BridgeCall) : Prop where
  ends : ∀ event, call.appends = some event → event.status.isTerminal = true →
    ∀ q ∈ db.agentWorkQueue.rows, q.task_id = event.task_id → q.state.active = false
  enters : ∀ queue_id task_id delivery_id target room_id thread_root sender idempotency_key
    body_hash capacity now, call = .queue (.reserveQueue queue_id task_id delivery_id target
      room_id thread_root sender idempotency_key body_hash capacity now) → ¬ db.closed task_id
  names : ∀ input event_id queue_id room_id thread_root capacity,
    call = .queue (.admitQueuedWorkflow input event_id queue_id room_id thread_root capacity) →
      input.task.task_id = input.task_id

/-- A call that neither ends a task nor brings one into the queue. -/
theorem BridgeCall.Retired.of_quiet {db : Db} {call : BridgeCall} (happends : call.appends = none)
    (hentered : ∀ qcall, call = .queue qcall → qcall.entered = none) : call.Retired db where
  ends := by
    intro event hevent
    rw [happends] at hevent
    cases hevent
  enters := by
    intro queue_id task_id delivery_id target room_id thread_root sender idempotency_key body_hash
      capacity now hcall
    cases hentered _ hcall
  names := by
    intro input event_id queue_id room_id thread_root capacity hcall
    cases hentered _ hcall

/-- A workflow message that brings the task it names. -/
theorem BridgeCall.Retired.of_names {db : Db} {input : WorkflowAdmission} {event_id : EventId}
    {queue_id : Uuid} {room_id : String} {thread_root : Option String} {capacity : Int}
    (h : input.task.task_id = input.task_id) :
    (BridgeCall.queue (.admitQueuedWorkflow input event_id queue_id room_id thread_root
      capacity)).Retired db where
  ends := by rintro _ ⟨⟩
  enters := by rintro _ _ _ _ _ _ _ _ _ _ _ ⟨⟩
  names := by
    rintro _ _ _ _ _ _ ⟨⟩
    exact h

/-- The end of a task without rows that count. -/
theorem BridgeCall.Retired.of_ends {db : Db} {event : TaskEvent}
    (h : ∀ q ∈ db.agentWorkQueue.rows, q.task_id = event.task_id → q.state.active = false) :
    (BridgeCall.runtime (.transition event)).Retired db where
  ends := by
    rintro _ ⟨⟩ _
    exact h
  enters := by rintro _ _ _ _ _ _ _ _ _ _ _ ⟨⟩
  names := by rintro _ _ _ _ _ _ ⟨⟩

section

variable [Externals]

/-- A workflow message that changes the queue is not a replay. -/
theorem admitQueuedWorkflow_enters {input : WorkflowAdmission} {event_id : EventId}
    {queue_id : Uuid} {room_id : String} {thread_root : Option String} {capacity : Int}
    {db db' : Db} {r : Except ReliabilityError QueueReservation}
    (h : admitQueuedWorkflow input event_id queue_id room_id thread_root capacity db =
      (r, db')) :
    db'.agentWorkQueue = db.agentWorkQueue ∨ WorkflowWrite input event_id db db' .inserted := by
  rcases Tx.commit_cases h with hok | ⟨rfl, -⟩
  · simp only [Tx.bind_ok, Tx.pure_ok] at hok
    obtain ⟨outcome, s₁, htx, reservation, s₂, hqueue, -, rfl⟩ := hok
    cases outcome with
    | replay task_id result_code =>
      simp only [reserveWorkflowQueue, Tx.bind_ok, Tx.read_ok, Tx.orElse_ok, Tx.pure_ok] at hqueue
      obtain ⟨_, _, ⟨-, rfl⟩, _, _, ⟨-, rfl⟩, -, rfl⟩ := hqueue
      obtain ⟨-, t, ev, ad, we, d, e, rfl⟩ := admitWorkflowTx_ok htx
      exact Or.inl rfl
    | inserted =>
      obtain ⟨c, q, rfl⟩ := reserveWorkflowQueue_ok hqueue
      exact Or.inr ((admitWorkflowTx_writes htx).congr_right rfl rfl rfl)
  · exact Or.inl rfl

/-- A message that was not a replay is about a task that has not ended. -/
theorem WorkflowWrite.open {input : WorkflowAdmission} {event_id : EventId} {db db' : Db}
    (h : WorkflowWrite input event_id db db' .inserted) (hinv : ClosedInv db)
    (hnames : input.task.task_id = input.task_id) : ¬ db.closed input.task_id := by
  cases h with
  | admitted hnew h =>
    rw [← hnames]
    exact hinv.open_of_none (Table.insert_puts h.admission).1
  | revised auth a hauth htasks hevents ha hrevision hopen hputs => exact hinv.open_of ha hopen

/-- **A row enters the queue for a task that has not ended.** -/
theorem entered_open {fs : FileSystem} {db : Db} {qcall : QueueCall} (hinv : ClosedInv db)
    (hcall : (BridgeCall.queue qcall).Retired db) {task_id : TaskId}
    (hentered : qcall.entered = some task_id)
    (hchanged : (bridgeStep fs db (.queue qcall)).agentWorkQueue ≠ db.agentWorkQueue) :
    ¬ db.closed task_id := by
  cases qcall with
  | reserveQueue queue_id task_id' delivery_id target room_id thread_root sender
      idempotency_key body_hash capacity now =>
    obtain rfl := Option.some.inj hentered
    exact hcall.enters _ _ _ _ _ _ _ _ _ _ _ rfl
  | admitQueuedWorkflow input event_id queue_id room_id thread_root capacity =>
    obtain rfl := Option.some.inj hentered
    obtain ⟨r, db', hdone⟩ : ∃ r db', admitQueuedWorkflow input event_id queue_id room_id
      thread_root capacity db = (r, db') := ⟨_, _, rfl⟩
    have hstep : bridgeStep fs db (.queue (.admitQueuedWorkflow input event_id queue_id room_id
        thread_root capacity)) = db' := congrArg Prod.snd hdone
    rw [hstep] at hchanged
    rcases admitQueuedWorkflow_enters hdone with hsame | hwrite
    · exact absurd hsame hchanged
    · exact hwrite.open hinv (hcall.names _ _ _ _ _ _ rfl)
  | _ => cases hentered

/-- **One call keeps the queue from leaking.** -/
theorem NoLeak.step {fs : FileSystem} {db : Db} {call : BridgeCall} (h : NoLeak db)
    (hinv : ClosedInv db) (hcall : call.Retired db) : NoLeak (bridgeStep fs db call) := by
  -- a task is closed after the call if it was before, or if the call ended it
  have hclosed : ∀ task_id, (bridgeStep fs db call).closed task_id → db.closed task_id ∨
      ∃ event, call.appends = some event ∧ event.status.isTerminal = true ∧
        event.task_id = task_id := by
    intro task_id hc
    cases bridge_log fs db call with
    | same htasks hevents hadmissions => exact Or.inl ((closed_of_same hevents task_id).mp hc)
    | moved t a a' htasks hevents ha hopen hopen' hrevision hputs =>
      exact Or.inl ((closed_of_same hevents task_id).mp hc)
    | admitted row e a hadmits hadmitted =>
      rcases (closed_insert hadmitted.event task_id).mp hc with hold | ⟨-, hterm⟩
      · exact Or.inl hold
      · rw [(BridgeCall.admits_queued hadmits).1] at hterm
        cases hterm
    | appended event a a' happends htasks hevent ha hopen hclose hrevision hputs =>
      rcases (closed_insert hevent task_id).mp hc with hold | ⟨htask, hterm⟩
      · exact Or.inl hold
      · exact Or.inr ⟨event, happends, hterm, htask⟩
  have hkept : ∀ q ∈ db.agentWorkQueue.rows, (bridgeStep fs db call).closed q.task_id →
      q.state.active = false := by
    intro q hq hc
    rcases hclosed _ hc with hold | ⟨event, happends, hterm, htask⟩
    · exact h q hq hold
    · exact hcall.ends event happends hterm q hq htask.symm
  intro q' hq' hc
  cases bridge_queue fs db call with
  | same hqueue hcounters => exact hkept q' (hqueue ▸ hq') hc
  | stepped qcall heq hstep =>
    subst heq
    rcases hstep.rows q' hq' with hold | ⟨q, hq, -, hmove⟩ | ⟨hnew, hfresh, hentered⟩
    · exact hkept q' hold hc
    · obtain ⟨hactive, htask⟩ := hmove.counts
      rw [hkept q hq (htask ▸ hc)] at hactive
      cases hactive
    · -- a row that enters is for a task that is open before and after
      have hchanged : (bridgeStep fs db (.queue qcall)).agentWorkQueue ≠ db.agentWorkQueue := by
        intro hsame
        exact hnew q' (hsame ▸ hq') rfl
      rcases hclosed _ hc with hold | ⟨event, happends, -⟩
      · exact absurd hold (entered_open hinv hcall hentered hchanged)
      · cases happends

end

/-! ### Room for a new item -/

section

variable (s : Db) (target : EndpointId) (now : String)

/-- An upsert with a capacity succeeds and leaves a counter. -/
theorem upsertCounter_counter {capacity : Int} (h : 1 ≤ capacity) :
    ∃ s₁ c, upsertCounter target capacity now s = .ok ((), s₁) ∧
      s₁.agentQueueCounters.get target = some c := by
  obtain ⟨n, s₁, hins, c, hc⟩ : ∃ n s₁, (Tx.insertOrIgnore Db.agentQueueCountersL
      { target_endpoint_id := target, next_sequence := 1, capacity := capacity,
        updated_at := now } : Tx Db ReliabilityError Nat) s = .ok (n, s₁) ∧
      ∃ c, s₁.agentQueueCounters.get target = some c := by
    cases hget : s.agentQueueCounters.get target with
    | some c =>
      exact ⟨0, s, Tx.insertOrIgnore_ok.2 (Or.inr ⟨rfl, Table.insert_eq_none hget, rfl⟩), c,
        hget⟩
    | none =>
      obtain ⟨t, ht⟩ := Table.exists_insert (t := s.agentQueueCounters)
        (r := ⟨target, 1, capacity, now⟩) ((Table.get_eq_none_iff _ _).mp hget)
      have hget' : t.get target = some ⟨target, 1, capacity, now⟩ :=
        ((Table.insert_puts ht).2 target).trans (if_pos rfl)
      exact ⟨1, _, Tx.insertOrIgnore_ok.2 (Or.inl ⟨rfl, t, ht, rfl⟩), _, hget'⟩
  have hok : upsertCounter target capacity now s = .ok ((), { s₁ with
      agentQueueCounters := s₁.agentQueueCounters.updateWhere
        (fun c => decide (c.target_endpoint_id = target))
        (fun c => { c with capacity := capacity, updated_at := now }) (fun _ => rfl) }) := by
    simp only [upsertCounter, Tx.bind_ok, Tx.require_ok, Tx.update_ok, Tx.pure_ok]
    exact ⟨(), s, ⟨decide_eq_true h, rfl⟩, n, s₁, hins, _, _, ⟨rfl, rfl⟩, trivial, rfl⟩
  have hget : (s₁.agentQueueCounters.updateWhere (fun c => decide (c.target_endpoint_id = target))
      (fun c => { c with capacity := capacity, updated_at := now }) (fun _ => rfl)).get target =
        some { c with capacity := capacity, updated_at := now } := by
    rw [Table.get_updateWhere, hc]
    simp [Table.key_of_get hc]
  exact ⟨_, _, hok, hget⟩

/-- A draw from a counter succeeds, and a row with a new identity and a new key takes the place:
the places that are taken are below the counter. -/
theorem takeSequence_place {c : QueueCounterRow} (row : WorkQueueRow) (hinv : SequenceInv s)
    (hc : s.agentQueueCounters.get target = some c) (htarget : row.target_endpoint_id = target)
    (hseq : row.sequence = c.next_sequence)
    (hid : ∀ q ∈ s.agentWorkQueue.rows, q.queue_id ≠ row.queue_id)
    (hkey : ∀ q ∈ s.agentWorkQueue.rows, q.target_endpoint_id = target →
      q.idempotency_key ≠ row.idempotency_key) :
    ∃ s₁ s₂, takeSequence target now s = .ok (c.next_sequence, s₁) ∧
      insertQueueRow row s₁ = .ok ((), s₂) := by
  obtain ⟨t, ht⟩ := Table.exists_insert (t := s.agentWorkQueue) (r := row) hid
  have hdraw : takeSequence target now s = .ok (c.next_sequence, { s with
      agentQueueCounters := s.agentQueueCounters.updateWhere
        (fun c => decide (c.target_endpoint_id = target))
        (fun c => { c with next_sequence := c.next_sequence + 1, updated_at := now })
        (fun _ => rfl) }) := by
    simp only [takeSequence, Tx.bind_ok, Tx.read_ok, Tx.orElse_ok, Tx.update_ok, Tx.pure_ok]
    exact ⟨_, _, ⟨rfl, rfl⟩, c, _, ⟨hc, rfl⟩, _, _, ⟨rfl, rfl⟩, rfl, rfl⟩
  have hfree : (!(s.agentWorkQueue.rows.any fun q =>
      decide (q.target_endpoint_id = row.target_endpoint_id ∧
        (q.idempotency_key = row.idempotency_key ∨ q.sequence = row.sequence)))) = true := by
    simp only [Bool.not_eq_true', List.any_eq_false, decide_eq_true_eq]
    rintro q hq ⟨hqt, hkeyeq | hseqeq⟩
    · exact hkey q hq (hqt.trans htarget) hkeyeq
    · obtain ⟨c', hc', hlt⟩ := hinv.below q hq
      rw [hqt, htarget, hc] at hc'
      obtain rfl := Option.some.inj hc'
      omega
  have hins : ∀ u, insertQueueRow row { s with agentQueueCounters := u } =
      .ok ((), { s with agentQueueCounters := u, agentWorkQueue := t }) := by
    intro u
    simp only [insertQueueRow, Tx.bind_ok, Tx.read_ok, Tx.require_ok, Tx.insert_ok]
    exact ⟨_, _, ⟨rfl, rfl⟩, (), _, ⟨hfree, rfl⟩, t, ht, rfl⟩
  exact ⟨_, _, hdraw, hins _⟩

/-- **There is a place for a row** with a new identity and a new key: the counter gives it out,
and the row is inserted under it. -/
theorem queue_place {capacity : Int} (hinv : SequenceInv s) (hcapacity : 1 ≤ capacity) (row : Nat → WorkQueueRow)
    (htarget : ∀ n, (row n).target_endpoint_id = target) (hseq : ∀ n, (row n).sequence = n)
    (hid : ∀ n, ∀ q ∈ s.agentWorkQueue.rows, q.queue_id ≠ (row n).queue_id)
    (hkey : ∀ n, ∀ q ∈ s.agentWorkQueue.rows, q.target_endpoint_id = target →
      q.idempotency_key ≠ (row n).idempotency_key) :
    ∃ n s₁ s₂ s₃, upsertCounter target capacity now s = .ok ((), s₁) ∧
      s₁.agentWorkQueue = s.agentWorkQueue ∧ takeSequence target now s₁ = .ok (n, s₂) ∧
      insertQueueRow (row n) s₂ = .ok ((), s₃) := by
  obtain ⟨s₁, c, hupsert, hc⟩ := upsertCounter_counter s target now hcapacity
  obtain ⟨t, rfl, hkept⟩ := upsertCounter_ok hupsert
  have hinv' : SequenceInv { s with agentQueueCounters := t } := hinv.counters hkept
  obtain ⟨s₂, s₃, hdraw, hins⟩ := takeSequence_place _ target now (row c.next_sequence) hinv' hc
    (htarget _) (hseq _) (hid _) (hkey _)
  exact ⟨c.next_sequence, _, s₂, s₃, hupsert, rfl, hdraw, hins⟩

end

/-- A target that no live task holds: the task of every row of its queue has ended. -/
def Db.idle (db : Db) (target : EndpointId) : Prop :=
  ∀ q ∈ db.agentWorkQueue.rows, q.target_endpoint_id = target → db.closed q.task_id

/-- Without a leak nothing counts against an idle target. -/
theorem NoLeak.activeItems {db : Db} (h : NoLeak db) {target : EndpointId}
    (hidle : db.idle target) : db.activeItems target = 0 := by
  unfold Db.activeItems
  rw [List.countP_eq_zero]
  intro q hq hcounts
  obtain ⟨htarget, hactive⟩ := Bool.and_eq_true_iff.mp hcounts
  rw [h q hq (hidle q hq (of_decide_eq_true htarget).1)] at hactive
  cases hactive

/-- **An idle target takes a new item**, whatever its capacity. -/
theorem NoLeak.room {db : Db} (h : NoLeak db) (hinv : SequenceInv db) {target : EndpointId}
    (hidle : db.idle target) {queue_id : Uuid} {idempotency_key : String} {capacity : Int}
    (hcapacity : 1 ≤ capacity) (hid : ∀ q ∈ db.agentWorkQueue.rows, q.queue_id ≠ queue_id)
    (hkey : ∀ q ∈ db.agentWorkQueue.rows, q.target_endpoint_id = target →
      q.idempotency_key ≠ idempotency_key) (task_id : TaskId) (delivery_id : DeliveryId)
    (room_id : String) (thread_root : Option String) (sender : EndpointId)
    (body_hash now : String) :
    ∃ sequence, (reserveQueue queue_id task_id delivery_id target room_id thread_root sender
      idempotency_key body_hash capacity now db).1 = .ok ⟨queue_id, sequence, .queued⟩ := by
  obtain ⟨n, s₁, s₂, s₃, hupsert, hsame, hdraw, hins⟩ := queue_place db target now hinv hcapacity
    (fun n => .reserved queue_id task_id delivery_id target room_id thread_root sender
      idempotency_key body_hash n now) (fun _ => rfl) (fun _ => rfl) (fun _ => hid)
    (fun _ => hkey)
  have hnone : (s₁.agentWorkQueue.rows.find? fun q =>
      decide (q.target_endpoint_id = target ∧ q.idempotency_key = idempotency_key)) = none := by
    rw [hsame, List.find?_eq_none]
    intro q hq hmatch
    obtain ⟨htarget, hkeyeq⟩ := of_decide_eq_true hmatch
    exact hkey q hq htarget hkeyeq
  have hfits : decide ((s₁.activeItems target : Int) < capacity) = true := by
    apply decide_eq_true
    have hzero : s₁.activeItems target = 0 := by
      rw [Db.activeItems, hsame]
      exact h.activeItems hidle
    rw [hzero]
    omega
  refine ⟨n, Tx.commit_fst s₃ ?_⟩
  rw [Tx.bind_ok]
  refine ⟨(), _, hupsert, ?_⟩
  rw [Tx.bind_ok]
  refine ⟨none, _, Tx.read_ok.2 ⟨hnone, rfl⟩, ?_⟩
  simp only [Tx.bind_ok, Tx.read_ok, Tx.require_ok, Tx.pure_ok]
  exact ⟨_, _, ⟨rfl, rfl⟩, (), _, ⟨hfits, rfl⟩, _, s₂, hdraw, (), s₃, hins, rfl, rfl⟩

/-- An upsert followed by a draw is `nextSequence`. -/
theorem nextSequence_of_draws {target : EndpointId} {capacity : Int} {now : String} {n : Nat}
    {s s₁ s' : Db} (hupsert : upsertCounter target capacity now s = .ok ((), s₁))
    (hdraw : takeSequence target now s₁ = .ok (n, s')) :
    nextSequence target capacity now s = .ok (n, s') := by
  simp only [upsertCounter, Tx.bind_ok] at hupsert
  obtain ⟨_, t₁, hreq, _, t₂, hins, _, t₃, hupd, hpure⟩ := hupsert
  obtain ⟨-, rfl⟩ := Tx.pure_ok.1 hpure
  simp only [takeSequence, Tx.bind_ok] at hdraw
  simp only [nextSequence, Tx.bind_ok]
  exact ⟨_, t₁, hreq, _, t₂, hins, _, t₃, hupd, hdraw⟩

section

variable [Externals]

/-- The same for a workflow message that would be admitted by itself. -/
theorem NoLeak.workflow_room {db : Db} (h : NoLeak db) (hinv : SequenceInv db)
    {input : WorkflowAdmission} (hidle : db.idle input.target_endpoint_id) {event_id : EventId}
    {queue_id : Uuid} {capacity : Int} (hcapacity : 1 ≤ capacity)
    (hid : ∀ q ∈ db.agentWorkQueue.rows, q.queue_id ≠ queue_id)
    (hkey : ∀ q ∈ db.agentWorkQueue.rows, q.target_endpoint_id = input.target_endpoint_id →
      q.idempotency_key ≠ input.idempotency_key)
    (hdone : (admitWorkflow input event_id db).1 = .ok .inserted) (room_id : String)
    (thread_root : Option String) :
    ∃ sequence, (admitQueuedWorkflow input event_id queue_id room_id thread_root capacity db).1 =
      .ok ⟨queue_id, sequence, .queued⟩ := by
  obtain ⟨r, db', hcall⟩ : ∃ r db', admitWorkflow input event_id db = (r, db') := ⟨_, _, rfl⟩
  rw [hcall] at hdone
  subst hdone
  have htx : admitWorkflowTx input event_id db = .ok (.inserted, db') := by
    rcases Tx.commit_cases hcall with hok | ⟨-, e, -, hr⟩
    · simp only [Tx.bind_ok, Tx.pure_ok] at hok
      obtain ⟨outcome, s₁, htx, hr, rfl⟩ := hok
      cases hr
      exact htx
    · cases hr
  obtain ⟨-, t, ev, ad, we, d, e, rfl⟩ := admitWorkflowTx_ok htx
  obtain ⟨n, s₁, s₂, s₃, hupsert, hsame, hdraw, hins⟩ := queue_place _
    input.target_endpoint_id input.now
    (⟨hinv.below, hinv.distinct⟩ : SequenceInv { db with
      tasks := t, taskEvents := ev, taskAdmissions := ad, workflowEnvelopes := we,
      deliveries := d, deliveryDispositions := e }) hcapacity
    (input.queueRow queue_id room_id thread_root) (fun _ => rfl) (fun _ => rfl) (fun _ => hid)
    (fun _ => hkey)
  have hfits : decide ((db.activeItems input.target_endpoint_id : Int) < capacity) = true := by
    apply decide_eq_true
    rw [h.activeItems hidle]
    omega
  refine ⟨n, Tx.commit_fst s₃ ?_⟩
  rw [Tx.bind_ok]
  refine ⟨_, _, htx, ?_⟩
  simp only [reserveWorkflowQueue, Tx.bind_ok, Tx.read_ok, Tx.require_ok, Tx.pure_ok]
  exact ⟨_, s₃, ⟨_, _, ⟨rfl, rfl⟩, (), _, ⟨hfits, rfl⟩, n, s₂,
    nextSequence_of_draws hupsert hdraw, (), s₃, hins, rfl, rfl⟩, rfl, rfl⟩

/-- A target takes every new item, whatever the capacity that the call names: an item with a new
identity and a new key. -/
structure Db.Accepts (db : Db) (target : EndpointId) : Prop where
  reservation : ∀ queue_id task_id delivery_id room_id thread_root sender idempotency_key
    body_hash (capacity : Int) now, 1 ≤ capacity →
    (∀ q ∈ db.agentWorkQueue.rows, q.queue_id ≠ queue_id) →
    (∀ q ∈ db.agentWorkQueue.rows, q.target_endpoint_id = target →
      q.idempotency_key ≠ idempotency_key) →
    ∃ sequence, (reserveQueue queue_id task_id delivery_id target room_id thread_root sender
      idempotency_key body_hash capacity now db).1 = .ok ⟨queue_id, sequence, .queued⟩
  workflow : ∀ input event_id queue_id room_id thread_root (capacity : Int),
    input.target_endpoint_id = target → 1 ≤ capacity →
    (∀ q ∈ db.agentWorkQueue.rows, q.queue_id ≠ queue_id) →
    (∀ q ∈ db.agentWorkQueue.rows, q.target_endpoint_id = target →
      q.idempotency_key ≠ input.idempotency_key) →
    (admitWorkflow input event_id db).1 = .ok .inserted →
    ∃ sequence, (admitQueuedWorkflow input event_id queue_id room_id thread_root capacity db).1 =
      .ok ⟨queue_id, sequence, .queued⟩

/-- **The capacity is not leaked** in a run where every task that ends has no row that counts:
no row of a closed task counts in any state, and a target whose tasks have all ended takes a new
item. -/
theorem queue_capacity (fs : FileSystem) (calls : List BridgeCall)
    (h : ∀ n (call : BridgeCall), calls[n]? = some call → call.Retired (bridgeAt fs calls n))
    (n : Nat) :
    NoLeak (bridgeAt fs calls n) ∧
      ∀ target, (bridgeAt fs calls n).idle target → (bridgeAt fs calls n).Accepts target := by
  have hleak : NoLeak (bridgeAt fs calls n) := by
    refine bridgeAt_invariant NoLeak ?_ ?_ n
    · intro q hq
      cases hq
    · intro k call hcall hk
      exact hk.step (closed_admission fs calls k) (h k call hcall)
  have hinv : SequenceInv (bridgeAt fs calls n) := (bridgeAt_queueInv fs calls n).sequence
  refine ⟨hleak, fun target hidle => ⟨?_, ?_⟩⟩
  · intro queue_id task_id delivery_id room_id thread_root sender idempotency_key body_hash
      capacity now hcapacity hid hkey
    exact hleak.room hinv hidle hcapacity hid hkey task_id delivery_id room_id thread_root sender
      body_hash now
  · intro input event_id queue_id room_id thread_root capacity htarget hcapacity hid hkey hdone
    subst htarget
    exact hleak.workflow_room hinv hidle hcapacity hid hkey hdone room_id thread_root

end

/-! ### One task that ends -/

/-- The row is sent and leaves the queue for the recovery before the task is cancelled. -/
def retiredRun : List BridgeCall :=
  [.queue (.admitQueuedWorkflow sendInput ⟨4⟩ 7 "workflow" (some "c") 1),
    .runtime (.acquire ⟨1⟩ ⟨2⟩ 3 (DateTime.ofSecs 0) 60000000000),
    .queue (.claimNext ⟨5⟩ ⟨1⟩ 3 1 "1970-01-01T00:00:01+00:00"),
    .queue (.markSendStarted ⟨7, ⟨2⟩, 1, 1⟩ ⟨1⟩ 3 "1970-01-01T00:00:02+00:00"),
    .queue (.markPauseRecoveryNeeded ⟨2⟩ "1970-01-01T00:00:03+00:00"),
    .runtime (.transition (sendEvent ⟨10⟩ 2 .cancelled (.cancelled "c")))]

theorem queue_capacity_retiredRun :
    (bridgeAt noFiles retiredRun 6).closed ⟨2⟩ ∧ NoLeak (bridgeAt noFiles retiredRun 6) := by
  have hrows : ∀ q ∈ (bridgeAt noFiles retiredRun 5).agentWorkQueue.rows,
      q.state.active = false := by decide
  have hretired : ∀ n (call : BridgeCall), retiredRun[n]? = some call →
      call.Retired (bridgeAt noFiles retiredRun n) := by
    intro n call hcall
    match n with
    | 0 =>
      obtain rfl := Option.some.inj hcall
      exact .of_names rfl
    | 1 =>
      obtain rfl := Option.some.inj hcall
      exact .of_quiet rfl (by rintro _ ⟨⟩)
    | 2 | 3 | 4 =>
      obtain rfl := Option.some.inj hcall
      exact .of_quiet rfl (by rintro _ ⟨⟩; rfl)
    | 5 =>
      obtain rfl := Option.some.inj hcall
      exact .of_ends fun q hq _ => hrows q hq
    | n + 6 => cases hcall
  have hclosed : ∃ e ∈ (bridgeAt noFiles retiredRun 6).eventsOf ⟨2⟩,
      e.status.isTerminal = true := by decide
  exact ⟨hclosed, (queue_capacity noFiles retiredRun hretired 6).1⟩

/-- The row stays in the queue while the task runs and completes. -/
def leakRun : List BridgeCall :=
  [.queue (.admitQueuedWorkflow sendInput ⟨4⟩ 7 "workflow" (some "c") 1),
    .runtime (.transition (sendEvent ⟨10⟩ 2 .dispatched (.dispatched ⟨9⟩ 1))),
    .runtime (.transition (sendEvent ⟨11⟩ 3 .running (.running (DateTime.ofSecs 1)))),
    .runtime (.transition (sendEvent ⟨12⟩ 4 .completed (.completed "done")))]

/-- **The target takes nothing any more**: its only task has completed, and the row of that task
still counts. -/
theorem leakRun_full :
    (∃ q ∈ (bridgeAt noFiles leakRun 4).agentWorkQueue.rows,
      (bridgeAt noFiles leakRun 4).closed q.task_id ∧ q.state.active = true) ∧
    (bridgeAt noFiles leakRun 4).idle ⟨5⟩ ∧
    (reserveQueue 20 ⟨21⟩ ⟨22⟩ ⟨5⟩ "workflow" none ⟨6⟩ "another" "h" 1
      "1970-01-01T00:00:02+00:00" (bridgeAt noFiles leakRun 4)).1 = .error .queueFull := by
  have hrow : (bridgeAt noFiles leakRun 4).agentWorkQueue.rows =
      [sendInput.queueRow 7 "workflow" (some "c") 1] := by decide
  have hclosed : ∃ e ∈ (bridgeAt noFiles leakRun 4).eventsOf ⟨2⟩,
      e.status.isTerminal = true := by decide
  refine ⟨⟨sendInput.queueRow 7 "workflow" (some "c") 1,
    by rw [hrow]; exact List.mem_singleton_self _, hclosed, rfl⟩, ?_,
    by decide⟩
  intro q hq htarget
  rw [hrow, List.mem_singleton] at hq
  subst hq
  exact hclosed

end GuiguBridge
