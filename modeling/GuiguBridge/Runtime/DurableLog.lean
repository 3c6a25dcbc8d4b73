import GuiguBridge.Runtime.Frame

/-!
# The durable task log

Two independent writers append to a task's event log: `transition`, for the worker's events,
and `finalize_terminal`, for the ending of a live turn.  Each guards its write with
compare-and-sets of its own over three tables.  This file shows that they agree.

* `LogStep` — everything one call can do to the tasks, the events and the admissions: nothing,
  a move between open admission states, the admission of a task, or **one appended event**;
* `step_logStep` — every call of the system is a `LogStep`;
* `LogInv` — the joint invariant: positions `1..n` without gap or repeat, version `n - 1`, at
  most one terminal event and that one last, the admission terminal exactly when it is there;
* `LogInv.step`, `run_logInv` — one step keeps it, so every run has it;
* `eventsOf_closed` — after a terminal event the log of the task never grows again.
-/

namespace GuiguBridge

open Relational

/-- The events of a task, in the order they were written. -/
def Db.eventsOf (db : Db) (task_id : TaskId) : List EventRow :=
  db.taskEvents.rows.filter (·.task_id = task_id)

/-- A task's log holds a terminal event. -/
def Db.closed (db : Db) (task_id : TaskId) : Prop :=
  ∃ e ∈ db.eventsOf task_id, e.status.isTerminal = true

/-- What one call does to the tasks, the event log and the admissions. -/
inductive LogStep (db db' : Db) : Prop where
  | same (htasks : db'.tasks = db.tasks) (hevents : db'.taskEvents = db.taskEvents)
      (hadmissions : db'.taskAdmissions = db.taskAdmissions)
  | moved (task_id : TaskId) (a a' : AdmissionRow) (htasks : db'.tasks = db.tasks)
      (hevents : db'.taskEvents = db.taskEvents)
      (ha : db.taskAdmissions.get task_id = some a)
      (hwait : a.state.waiting = true) (hwait' : a'.state.waiting = true)
      (hputs : db.taskAdmissions.Puts task_id a' db'.taskAdmissions)
  | admitted (row : TaskRow) (e : EventRow) (a : AdmissionRow)
      (htask : db.tasks.insert row = some db'.tasks)
      (hevent : db.taskEvents.insert e = some db'.taskEvents)
      (hadmission : db.taskAdmissions.insert a = some db'.taskAdmissions)
      (hversion : row.version = 0) (he : e.task_id = row.task_id) (hseq : e.seq = 1)
      (hqueued : e.status = .queued) (ha : a.task_id = row.task_id)
      (hopen : a.state ≠ .terminal)
  | appended (e : EventRow) (row : TaskRow) (a a' : AdmissionRow)
      (hrow : db.tasks.get e.task_id = some row) (hseq : e.seq = row.version + 2)
      (htask : db.tasks.Puts e.task_id { row with version := row.version + 1 } db'.tasks)
      (hevent : db.taskEvents.insert e = some db'.taskEvents)
      (ha : db.taskAdmissions.get e.task_id = some a) (hopen : a.state ≠ .terminal)
      (hclose : a'.state = .terminal ↔ e.status.isTerminal = true)
      (hbusy : a'.state.waiting = false)
      (hputs : db.taskAdmissions.Puts e.task_id a' db'.taskAdmissions)

section

variable [Externals]

/-! ### Every call is a log step -/

omit [Externals] in
/-- A compare-and-set between waiting admission states. -/
theorem updateAdmission_logStep {db : Db} {p : AdmissionRow → Bool}
    {f : AdmissionRow → AdmissionRow} {hf : ∀ a, (f a).task_id = a.task_id} {task_id : TaskId}
    (hp : ∀ a, p a = true → a.task_id = task_id ∧ a.state.waiting = true)
    (hwait : ∀ a, p a = true → (f a).state.waiting = true) :
    LogStep db (updateAdmission p f hf db).2 := by
  have hkey : ∀ a, p a = true → a.task_id = task_id := fun a h => (hp a h).1
  have hle := Table.affected_le_one (t := db.taskAdmissions) hkey
  rcases Nat.lt_or_ge 0 (db.taskAdmissions.affected p) with hpos | hzero
  · obtain ⟨a, ha, hpa⟩ := (Table.affected_eq_one_iff hkey).mp
      (show db.taskAdmissions.affected p = 1 by omega)
    have hputs : db.taskAdmissions.Puts task_id (f a)
        (db.taskAdmissions.updateWhere p f hf) := Table.puts_updateWhere hkey ha hpa
    exact .moved task_id a (f a) rfl rfl ha (hp a hpa).2 (hwait a hpa) hputs
  · have hsame : (updateAdmission p f hf db).2.taskAdmissions = db.taskAdmissions :=
      Table.updateWhere_of_affected_zero hf (by omega)
    exact .same rfl rfl hsame

theorem transition_logStep {event : TaskEvent} {db db' : Db}
    {r : Except DispatchError LifecycleResult} (h : transition event db = (r, db')) :
    LogStep db db' := by
  rcases transition_cases h with ⟨rfl, -⟩ | ⟨-, h⟩
  · exact .same rfl rfl rfl
  · obtain ⟨row, hrow, hv, htask⟩ := h.version
    obtain ⟨from_, to_, a, hmove, ha, hmem, hputs⟩ := h.admission
    obtain ⟨hto, hfrom, hbusy⟩ := lifecycleTransition_terminal hmove
    have hge := h.seq_ge
    refine .appended (eventToRow event event.seq event.status) row a _ hrow ?_ ?_ h.appended ha
      ?_ hto hbusy hputs
    · show event.seq = row.version + 2
      omega
    · rw [hv]
      exact htask
    · intro hterm
      exact hfrom (hterm ▸ hmem)

theorem finalizeTerminal_logStep {seen : Db} {lease : Lease} {revision : Nat}
    {generation : String} {state : ContinuationState} {observed_bytes : Nat}
    {event : TaskEvent} {now : DateTime} {db db' : Db} {r : Except RuntimeError FinalizeResult}
    (h : finalizeTerminal seen lease revision generation state observed_bytes event now db =
      (r, db')) : LogStep db db' := by
  rcases finalizeTerminal_cases h with ⟨rfl, -⟩ | ⟨-, h⟩
  · exact .same rfl rfl rfl
  · obtain ⟨row, hrow, hv, htask⟩ := h.version
    obtain ⟨a, ha, hcl, hputs⟩ := h.admission
    have hge := h.seq_ge
    refine .appended (eventToRow event event.seq event.status) row a _ hrow ?_ ?_ h.appended ha
      ?_ ?_ rfl hputs
    · show event.seq = row.version + 2
      omega
    · rw [hv]
      exact htask
    · rcases hcl with h | h | h <;> rw [h] <;> simp
    · have hterm := h.terminal
      simpa [eventToRow] using hterm

theorem admitTask_logStep {task : NewTask} {event : TaskEvent} {runtime_instance : String}
    {context : Option AdmissionContext} {db db' : Db}
    {r : Except ReliabilityError ReceiptOutcome}
    (h : admitTask task.toAgentTask event runtime_instance context db = (r, db')) :
    LogStep db db' := by
  rcases admitTask_cases h with rfl | ⟨-, t, ev, ad, rc, rfl, ht, hev, had⟩
  · exact .same rfl rfl rfl
  · exact .admitted _ _ _ ht hev had task.version_zero rfl rfl rfl rfl (by
      simp [enqueuedAdmission])

/-- **Every call of the system is a log step.** -/
theorem step_logStep (fs : FileSystem) (db : Db) (call : Call) :
    LogStep db (step fs db call) := by
  have hsame (ht : call.writes.contains .tasks = false)
      (he : call.writes.contains .taskEvents = false)
      (ha : call.writes.contains .taskAdmissions = false) : LogStep db (step fs db call) :=
    .same (step_frame fs db call .tasks ht) (step_frame fs db call .taskEvents he)
      (step_frame fs db call .taskAdmissions ha)
  cases call with
  | admitTask task event runtime_instance context =>
    exact admitTask_logStep rfl
  | claimAdmission task_id revision runtime_instance now =>
    have hguard : ∀ a : AdmissionRow, decide (a.task_id = task_id ∧ a.state = .ready ∧
        a.revision = revision) = true → a.task_id = task_id ∧ a.state.waiting = true := by
      intro a ha
      have ha := of_decide_eq_true ha
      exact ⟨ha.1, by rw [ha.2.1]; rfl⟩
    exact updateAdmission_logStep hguard fun _ _ => rfl
  | reclaimStoppedAdmission task_id revision runtime_instance now =>
    have hguard : ∀ a : AdmissionRow, (decide (a.task_id = task_id ∧ a.state = .enqueued ∧
        a.revision = revision) && db.stoppedInstance a.runtime_instance) = true →
        a.task_id = task_id ∧ a.state.waiting = true := by
      intro a ha
      have ha := of_decide_eq_true (Bool.and_eq_true_iff.mp ha).1
      exact ⟨ha.1, by rw [ha.2.1]; rfl⟩
    exact updateAdmission_logStep hguard (fun a ha => (hguard a ha).2)
  | releaseAdmission task_id revision now =>
    have hguard : ∀ a : AdmissionRow, decide (a.task_id = task_id ∧ a.state = .enqueued ∧
        a.revision = revision) = true → a.task_id = task_id ∧ a.state.waiting = true := by
      intro a ha
      have ha := of_decide_eq_true ha
      exact ⟨ha.1, by rw [ha.2.1]; rfl⟩
    exact updateAdmission_logStep hguard fun _ _ => rfl
  | transition event => exact transition_logStep rfl
  | finalizeTerminal seen lease revision generation state observed_bytes event now =>
    exact finalizeTerminal_logStep rfl
  | _ => exact hsame rfl rfl rfl

/-! ### The invariant -/

/-- The joint invariant of a task's log, version and admission. -/
structure LogInv (db : Db) (task_id : TaskId) : Prop where
  /-- The positions are `1..n`, each once. -/
  seqs : (db.eventsOf task_id).map (·.seq) = List.range' 1 (db.eventsOf task_id).length
  /-- The version is one less than the number of events. -/
  version : ∀ row, db.tasks.get task_id = some row →
    row.version + 1 = (db.eventsOf task_id).length
  /-- No task, no events. -/
  absent : db.tasks.get task_id = none → db.eventsOf task_id = []
  /-- A terminal event is the last one. -/
  terminal_last : ∀ e ∈ db.eventsOf task_id, e.status.isTerminal = true →
    e.seq = (db.eventsOf task_id).length
  /-- The admission is terminal exactly when a terminal event is there. -/
  admission : (∃ a, db.taskAdmissions.get task_id = some a ∧ a.state = .terminal) ↔
    db.closed task_id

omit [Externals] in
theorem LogInv.empty (task_id : TaskId) : LogInv Db.empty task_id where
  seqs := rfl
  version := by intro row h; cases h
  absent := fun _ => rfl
  terminal_last := by intro e he; cases he
  admission := by
    constructor
    · rintro ⟨a, h, -⟩
      cases h
    · rintro ⟨e, he, -⟩
      cases he

omit [Externals] in
/-- Appending one row adds it to the log of its own task and to no other. -/
theorem eventsOf_insert {db db' : Db} {e : EventRow}
    (h : db.taskEvents.insert e = some db'.taskEvents) (task_id : TaskId) :
    db'.eventsOf task_id =
      if e.task_id = task_id then db.eventsOf task_id ++ [e] else db.eventsOf task_id := by
  have hrows := ((Table.insert_eq_some_iff _ _ _).mp h).2
  simp only [Db.eventsOf, hrows, List.filter_append]
  by_cases ht : e.task_id = task_id
  · simp [ht]
  · simp [ht]

omit [Externals] in
/-- **One step keeps the invariant**, whichever writer made it. -/
theorem LogInv.step {db db' : Db} (hstep : LogStep db db') {task_id : TaskId}
    (h : LogInv db task_id) : LogInv db' task_id := by
  cases hstep with
  | same htasks hevents hadmissions =>
    have hev : db'.eventsOf task_id = db.eventsOf task_id := by simp [Db.eventsOf, hevents]
    exact
      { seqs := by rw [hev]; exact h.seqs
        version := by rw [hev, htasks]; exact h.version
        absent := by rw [hev, htasks]; exact h.absent
        terminal_last := by rw [hev]; exact h.terminal_last
        admission := by rw [Db.closed, hev, hadmissions]; exact h.admission }
  | moved t a a' htasks hevents ha hwait hwait' hputs =>
    have hev : db'.eventsOf task_id = db.eventsOf task_id := by simp [Db.eventsOf, hevents]
    refine
      { seqs := by rw [hev]; exact h.seqs
        version := by rw [hev, htasks]; exact h.version
        absent := by rw [hev, htasks]; exact h.absent
        terminal_last := by rw [hev]; exact h.terminal_last
        admission := ?_ }
    rw [Db.closed, hev, hputs task_id]
    by_cases ht : task_id = t
    · subst ht
      rw [if_pos rfl]
      have hno := h.admission
      rw [ha] at hno
      simp only [Option.some.injEq, exists_eq_left'] at hno ⊢
      rw [Db.closed] at hno
      rw [← hno]
      simp [AdmissionState.open_of_waiting hwait, AdmissionState.open_of_waiting hwait']
    · rw [if_neg ht]
      exact h.admission
  | admitted row e a htask hevent hadmission hversion he hseq hqueued ha hopen =>
    obtain ⟨hnone, htput⟩ := Table.insert_puts htask
    obtain ⟨hanone, haput⟩ := Table.insert_puts hadmission
    have hev := eventsOf_insert hevent task_id
    by_cases ht : row.task_id = task_id
    · -- the task is new: its log was empty, and now holds the first event
      have hempty : db.eventsOf task_id = [] := h.absent (ht ▸ hnone)
      rw [if_pos (he.trans ht), hempty, List.nil_append] at hev
      have hat : a.task_id = task_id := ha.trans ht
      refine
        { seqs := by rw [hev]; simp [hseq]
          version := ?_
          absent := ?_
          terminal_last := ?_
          admission := ?_ }
      · intro r hr
        rw [htput task_id, if_pos ht.symm] at hr
        cases hr
        rw [hev, hversion]
        rfl
      · intro hr
        rw [htput task_id, if_pos ht.symm] at hr
        cases hr
      · intro x hx hterm
        rw [hev, List.mem_singleton] at hx
        subst hx
        rw [hqueued] at hterm
        cases hterm
      · rw [Db.closed, hev, haput task_id, if_pos hat.symm]
        simp [hopen, hqueued, TaskStatus.isTerminal]
    · have hat : ¬ task_id = a.task_id := fun hh => ht (ha ▸ hh.symm)
      have htt : ¬ task_id = row.task_id := fun hh => ht hh.symm
      rw [if_neg (fun hh => ht (he ▸ hh))] at hev
      exact
        { seqs := by rw [hev]; exact h.seqs
          version := by rw [hev, htput task_id, if_neg htt]; exact h.version
          absent := by rw [hev, htput task_id, if_neg htt]; exact h.absent
          terminal_last := by rw [hev]; exact h.terminal_last
          admission := by rw [Db.closed, hev, haput task_id, if_neg hat]; exact h.admission }
  | appended e row a a' hrow hseq htask hevent ha hopen hclose hbusy hputs =>
    have hev := eventsOf_insert hevent task_id
    by_cases ht : task_id = e.task_id
    · subst ht
      rw [if_pos rfl] at hev
      have hlen := h.version row hrow
      -- the admission was open, so no terminal event stands before the new one
      have hnone : ∀ x ∈ db.eventsOf e.task_id, ¬ x.status.isTerminal = true := by
        intro x hx hterm
        obtain ⟨b, hb, hbt⟩ := h.admission.mpr ⟨x, hx, hterm⟩
        rw [ha] at hb
        cases hb
        exact hopen hbt
      refine
        { seqs := ?_
          version := ?_
          absent := ?_
          terminal_last := ?_
          admission := ?_ }
      · rw [hev, List.map_append, h.seqs, List.length_append, List.length_singleton,
          List.range'_concat, List.map_singleton, hseq, ← hlen]
        congr 2
        omega
      · intro r hr
        rw [htask, if_pos rfl] at hr
        cases hr
        rw [hev, List.length_append, List.length_singleton]
        show row.version + 1 + 1 = _
        omega
      · intro hr
        rw [htask, if_pos rfl] at hr
        cases hr
      · intro x hx hterm
        rw [hev, List.mem_append, List.mem_singleton] at hx
        rcases hx with hx | rfl
        · exact absurd hterm (hnone x hx)
        · rw [hev, List.length_append, List.length_singleton, hseq]
          omega
      · rw [hputs, if_pos rfl]
        simp only [Option.some.injEq, exists_eq_left', hclose]
        constructor
        · intro hterm
          exact ⟨e, by rw [hev]; simp, hterm⟩
        · rintro ⟨x, hx, hterm⟩
          rw [hev, List.mem_append, List.mem_singleton] at hx
          rcases hx with hx | rfl
          · exact absurd hterm (hnone x hx)
          · exact hterm
    · rw [if_neg (fun hh => ht hh.symm)] at hev
      exact
        { seqs := by rw [hev]; exact h.seqs
          version := by rw [hev, htask task_id, if_neg ht]; exact h.version
          absent := by rw [hev, htask task_id, if_neg ht]; exact h.absent
          terminal_last := by rw [hev]; exact h.terminal_last
          admission := by rw [Db.closed, hev, hputs task_id, if_neg ht]; exact h.admission }

omit [Externals] in
/-- Positions `1..n` and the position `n` of a terminal event: it stands at the end. -/
theorem LogInv.terminal_getLast {db : Db} {task_id : TaskId} (h : LogInv db task_id)
    {e : EventRow} (he : e ∈ db.eventsOf task_id) (hterm : e.status.isTerminal = true) :
    (db.eventsOf task_id).getLast? = some e := by
  obtain ⟨i, hi, rfl⟩ := List.mem_iff_getElem.mp he
  have hseq : ((db.eventsOf task_id).map (·.seq))[i]? =
      some ((db.eventsOf task_id)[i].seq) := by
    simp [hi]
  rw [h.seqs, h.terminal_last _ he hterm, List.getElem?_range' hi] at hseq
  have hlast : i = (db.eventsOf task_id).length - 1 := by
    simp only [Option.some.injEq] at hseq
    omega
  rw [List.getLast?_eq_getElem?, ← hlast]
  simp [hi]

/-- Every run has the invariant, for every task. -/
theorem run_logInv (fs : FileSystem) (calls : List Call) (task_id : TaskId) :
    LogInv (run fs calls) task_id :=
  runFrom_invariant (fun db => LogInv db task_id)
    (fun db call h => h.step (step_logStep fs db call)) calls (LogInv.empty task_id)

omit [Externals] in
/-- A log step adds nothing to a closed log. -/
theorem eventsOf_closed_step {db db' : Db} (hstep : LogStep db db') {task_id : TaskId}
    (h : LogInv db task_id) (hclosed : db.closed task_id) :
    db'.eventsOf task_id = db.eventsOf task_id := by
  obtain ⟨b, hb, hterm⟩ := h.admission.mpr hclosed
  cases hstep with
  | same htasks hevents hadmissions => simp [Db.eventsOf, hevents]
  | moved t a a' htasks hevents ha hwait hwait' hputs => simp [Db.eventsOf, hevents]
  | admitted row e a htask hevent hadmission hversion he hseq hqueued ha hopen =>
    rw [eventsOf_insert hevent, if_neg]
    intro ht
    -- a task that is admitted now had no events before
    have hnone := h.absent (he.symm.trans ht ▸ (Table.insert_puts htask).1)
    obtain ⟨x, hx, -⟩ := hclosed
    rw [hnone] at hx
    cases hx
  | appended e row a a' hrow hseq htask hevent ha hopen hclose hbusy hputs =>
    rw [eventsOf_insert hevent, if_neg]
    intro ht
    rw [ht] at ha
    cases hb.symm.trans ha
    exact hopen hterm

/-- After a terminal event no call of any later run appends to the log of its task. -/
theorem eventsOf_closed (fs : FileSystem) {db : Db} {task_id : TaskId}
    (h : LogInv db task_id) (hclosed : db.closed task_id) (later : List Call) :
    (runFrom fs db later).eventsOf task_id = db.eventsOf task_id := by
  -- closedness and the invariant travel along with the equality
  have hrun : LogInv (runFrom fs db later) task_id ∧
      (runFrom fs db later).eventsOf task_id = db.eventsOf task_id := by
    refine runFrom_invariant (fun d => LogInv d task_id ∧
      d.eventsOf task_id = db.eventsOf task_id) ?_ later ⟨h, rfl⟩
    rintro d call ⟨hinv, heq⟩
    have hd : d.closed task_id := by
      rw [Db.closed, heq]
      exact hclosed
    have hls := step_logStep fs d call
    exact ⟨hinv.step hls, (eventsOf_closed_step hls hinv hd).trans heq⟩
  exact hrun.2

theorem transition_unchanged (event : TaskEvent) (db : Db)
    (h : (transition event db).1 ≠ .ok .committed) : (transition event db).2 = db := by
  rcases transition_cases (show transition event db = _ from rfl) with ⟨hdb, -⟩ | ⟨hr, -⟩
  · exact hdb
  · exact absurd hr h

theorem finalizeTerminal_unchanged (seen : Db) (lease : Lease) (revision : Nat)
    (generation : String) (state : ContinuationState) (observed_bytes : Nat)
    (event : TaskEvent) (now : DateTime) (db : Db)
    (h : (finalizeTerminal seen lease revision generation state observed_bytes event now
      db).1 ≠ .ok .committed) :
    (finalizeTerminal seen lease revision generation state observed_bytes event now db).2 =
      db := by
  rcases finalizeTerminal_cases (show finalizeTerminal seen lease revision generation state
    observed_bytes event now db = _ from rfl) with ⟨hdb, -⟩ | ⟨hr, -⟩
  · exact hdb
  · exact absurd hr h

theorem admitTask_unchanged (task : AgentTask) (event : TaskEvent) (runtime_instance : String)
    (context : Option AdmissionContext) (db : Db)
    (h : (admitTask task event runtime_instance context db).1 ≠ .ok .inserted) :
    (admitTask task event runtime_instance context db).2 = db := by
  rcases admitTask_cases (show admitTask task event runtime_instance context db = _ from rfl)
    with hdb | ⟨hr, -⟩
  · exact hdb
  · exact absurd hr h

/-- **The durable log (proved).**  After any list of calls by any callers, every task has
its events at the positions `1..n`, version `n - 1`, at most one terminal event and that one
last, and a terminal admission exactly when it is there; a closed log never grows; and a call
that reports anything but success leaves every table as it was. -/
theorem durable_log (fs : FileSystem) (calls : List Call) :
    (∀ task_id, LogInv (run fs calls) task_id) ∧
    (∀ task_id, ∀ e ∈ (run fs calls).eventsOf task_id, e.status.isTerminal = true →
      ((run fs calls).eventsOf task_id).getLast? = some e) ∧
    (∀ task_id later, (run fs calls).closed task_id →
      (run fs (calls ++ later)).eventsOf task_id = (run fs calls).eventsOf task_id) ∧
    (∀ event, (transition event (run fs calls)).1 ≠ .ok .committed →
      (transition event (run fs calls)).2 = run fs calls) ∧
    (∀ seen lease revision generation state observed_bytes event now,
      (finalizeTerminal seen lease revision generation state observed_bytes event now
        (run fs calls)).1 ≠ .ok .committed →
      (finalizeTerminal seen lease revision generation state observed_bytes event now
        (run fs calls)).2 = run fs calls) ∧
    (∀ task event runtime_instance context,
      (admitTask task event runtime_instance context (run fs calls)).1 ≠ .ok .inserted →
      (admitTask task event runtime_instance context (run fs calls)).2 = run fs calls) := by
  have hinv := run_logInv fs calls
  refine ⟨hinv, fun t e he hterm => (hinv t).terminal_getLast he hterm, ?_,
    fun event => transition_unchanged event _,
    fun seen lease revision generation state observed_bytes event now =>
      finalizeTerminal_unchanged seen lease revision generation state observed_bytes event now _,
    fun task event runtime_instance context =>
      admitTask_unchanged task event runtime_instance context _⟩
  intro t later hclosed
  rw [run, runFrom_append]
  exact eventsOf_closed fs (hinv t) hclosed later

end

end GuiguBridge
