import GuiguBridge.Bus.EventGrammar

/-!
# When the worker stops

`Worker::run` takes task after task from its queue and stops for good when `process` fails with
anything but a recovery report (`src/src/bus/worker.rs`).  A failed `process` has one of three
causes (`StopCause`), and two of them end the run: an event that was not written, and a terminal
handoff that the dispatcher refused.  The second is reported with the error of the first.

* `Reported` — a task's events stand in the published list, closed, or up to a `Running` that
  was left to recovery;
* `Idle`, `RunEnded`, `RunFailed` — the loop between two tasks, at its end, and stopped;
* `runLoop_triple` — **one round of the loop keeps `Idle`**, so a run ends in one of the other
  two;
* `run_stops_iff` — a stopped run had an event whose write returned an error, unless a handoff
  was refused or the lifecycle answered `Stale`.
-/

namespace GuiguBridge

open Prog

/-- The events of a task as a reader of the published list finds them: ended, or running when
its execution was left to recovery. -/
structure Report (task : AgentTask) (es : List TaskEvent) : Prop where
  owned : ∀ event ∈ es, event.task_id = task.task_id
  settled : Terminated es ∨ ∃ init last, es = init ++ [last] ∧ last.status = .running

/-- The published list holds a report of the task. -/
def Reported (task : AgentTask) (published : List TaskEvent) : Prop :=
  ∃ before es after, published = before ++ es ++ after ∧ Report task es

theorem Reported.append {task : AgentTask} {published : List TaskEvent}
    (h : Reported task published) (more : List TaskEvent) :
    Reported task (published ++ more) := by
  obtain ⟨before, es, after, rfl, hes⟩ := h
  exact ⟨before, es, after ++ more, by simp, hes⟩

theorem Grammar.last_running {task_id : TaskId} {deliveries : Nat → DeliveryId}
    {ids : Nat → EventId} {k : Nat} {es : List TaskEvent}
    (h : Grammar task_id deliveries ids k .running es) :
    ∃ init last, es = init ++ [last] ∧ last.status = .running := by
  cases h with
  | run before entry => exact ⟨_, _, rfl, entry.status⟩

/-- The last event of a list of the grammar carries its position. -/
theorem Grammar.last_seq {task_id : TaskId} {deliveries : Nat → DeliveryId}
    {ids : Nat → EventId} {k : Nat} {phase : Phase} {es : List TaskEvent} {event : TaskEvent}
    (h : Grammar task_id deliveries ids k phase (es ++ [event])) :
    event.seq = es.length + 2 := by
  have hseqs := congrArg (fun l => l[es.length]?) h.seqs
  have hlt : es.length < (es ++ [event]).length := by simp
  simp only [List.map_append, List.map_singleton, List.getElem?_range' hlt] at hseqs
  rw [List.getElem?_append_right (by simp), List.length_map, Nat.sub_self] at hseqs
  simp only [List.getElem?_cons_zero, Option.some.injEq] at hseqs
  omega

/-- No event of a task reaches the sequence number that reports recovery. -/
theorem Grammar.seq_lt {task_id : TaskId} {deliveries : Nat → DeliveryId}
    {ids : Nat → EventId} {k : Nat} {phase : Phase} {es : List TaskEvent}
    {retry : RetryPolicy} (h : Grammar task_id deliveries ids k phase es)
    (hk : k ≤ retry.limit) : es.length + 2 < recoverySeq := by
  have hlen := h.length_le
  have hmax : retry.max_attempts.toNat < 2 ^ 32 := retry.max_attempts.toNat_lt
  have hk : k ≤ max retry.max_attempts.toNat 1 := hk
  have hclosed : (if phase = .closed then 1 else 0) ≤ 1 := by split <;> omega
  show es.length + 2 < 2 ^ 64 - 1
  omega

theorem WorkerError.not_recovery {error : WorkerError} (h : error.place.2 < recoverySeq) :
    error.isRecoveryNeeded = false := by
  cases error with
  | eventStreamClosed task_id seq => rfl
  | eventBackpressure task_id seq => rfl
  | eventWrite task_id seq cause =>
    cases cause with
    | taskChannelClosed => exact decide_eq_false (Nat.ne_of_lt h)
    | _ => rfl

namespace Worker

variable {σ : Type} {w : Worker σ}

/-! ### The queue -/

/-- `pop` takes one task out and leaves the others. -/
theorem popQueue_mem {queue rest : List QueuedTask} {next : QueuedTask}
    (h : popQueue queue = some (next, rest)) :
    ∀ q, q ∈ queue ↔ q = next ∨ q ∈ rest := by
  induction queue generalizing next rest with
  | nil => cases h
  | cons t ts ih =>
    intro q
    rw [popQueue] at h
    cases hp : popQueue ts with
    | none =>
      rw [hp] at h
      cases h
      cases ts with
      | nil => simp
      | cons t' ts' =>
        rw [popQueue] at hp
        split at hp
        · cases hp
        · split at hp <;> cases hp
    | some v =>
      obtain ⟨best, others⟩ := v
      have hmem := ih hp q
      rw [hp] at h
      dsimp only at h
      split at h
      · cases h
        rw [List.mem_cons, List.mem_cons, hmem]
        exact ⟨fun h => by tauto, fun h => by tauto⟩
      · cases h
        rw [List.mem_cons, List.mem_cons, hmem]

theorem popQueue_none {queue : List QueuedTask} (h : popQueue queue = none) : queue = [] := by
  cases queue with
  | nil => rfl
  | cons t ts =>
    rw [popQueue] at h
    split at h
    · cases h
    · split at h <;> cases h

/-! ### The loop -/

/-- The loop between two tasks: nothing was lost or refused since `s₀`, and every task it
received is in the queue or reported. -/
structure Idle (s₀ : WorkerState σ) (queue : List QueuedTask) (s : WorkerState σ) : Prop where
  lost : s.lost = s₀.lost
  refused : s.refused = s₀.refused
  received : ∃ tasks, s.received = s₀.received ++ tasks ∧
    ∀ task ∈ tasks, (∃ q ∈ queue, q.task = task) ∨ Reported task s.emitted

/-- The run returned. -/
def RunEnded (s₀ : WorkerState σ) (ending : RunEnd) (s : WorkerState σ) : Prop :=
  ∃ queue, Idle s₀ queue s ∧ (ending = .drained → queue = [])

/-- The run stopped with an error. -/
inductive RunFailed (w : Worker σ) (s₀ : WorkerState σ) (e : WorkerError)
    (s : WorkerState σ) : Prop
  | unwritten (event : TaskEvent) (cause : LossCause)
      (lost : s.lost = s₀.lost ++ [(event, cause)]) (refused : s.refused = s₀.refused)
      (place : e.place = (event.task_id, event.seq)) (blame : cause = .stale → w.AnswersStale)
  | handoff (lost : s.lost = s₀.lost) (refused : s.refused = s₀.refused ++ [e.place])
      (blame : w.RefusesHandoff)

theorem Idle.quiet {s₀ s s' : WorkerState σ} {queue : List QueuedTask} (h : Quiet s s')
    (hi : Idle s₀ queue s) : Idle s₀ queue s' := by
  obtain ⟨world, rfl⟩ := h
  exact ⟨hi.lost, hi.refused, hi.received⟩

/-- A task leaves the channel and enters the queue. -/
theorem receive_triple {s₀ : WorkerState σ} {queue : List QueuedTask}
    (queue' : List QueuedTask) {task : AgentTask} {E : WorkerError → WorkerState σ → Prop} (hkeep : ∀ q ∈ queue, q ∈ queue')
    (hnew : ∃ q ∈ queue', q.task = task) :
    Triple (Idle s₀ queue) (receive task) (fun _ => Idle s₀ queue') E := by
  intro s hi
  refine ⟨hi.lost, hi.refused, ?_⟩
  obtain ⟨tasks, hreceived, hall⟩ := hi.received
  refine ⟨tasks ++ [task], ?_, ?_⟩
  · show s.received ++ [task] = _
    rw [hreceived, List.append_assoc]
  · intro t ht
    rcases List.mem_append.mp ht with ht | ht
    · rcases hall t ht with ⟨q, hq, hqt⟩ | hr
      · exact Or.inl ⟨q, hkeep q hq, hqt⟩
      · exact Or.inr hr
    · rw [List.mem_singleton.mp ht]
      exact Or.inl hnew

theorem admitReady_triple {s₀ : WorkerState σ} {E : WorkerError → WorkerState σ → Prop}
    (budget : Nat) : ∀ (queue : List QueuedTask) (arrival : Nat),
      Triple (Idle s₀ queue) (w.admitReady budget queue arrival)
        (fun admitted => Idle s₀ admitted.1) E := by
  induction budget with
  | zero => exact fun queue arrival => Triple.pure fun s h => h
  | succ budget ih =>
    intro queue arrival
    refine Triple.bind (Triple.within (quiet_service _) fun _ _ hq hi => hi.quiet hq)
      fun answer => ?_
    cases answer with
    | empty => exact Triple.pure fun s h => h
    | disconnected => exact Triple.pure fun s h => h
    | task task =>
      refine Triple.bind (receive_triple (queue ++ [⟨task.priority, arrival, task⟩]) ?_ ?_)
        fun _ => ih _ _
      · exact fun q hq => List.mem_append_left _ hq
      · exact ⟨_, List.mem_append_right _ (List.mem_singleton.mpr rfl), rfl⟩

theorem admit_triple {s₀ : WorkerState σ} {E : WorkerError → WorkerState σ → Prop}
    (queue : List QueuedTask) (arrival : Nat) (closed : Bool) :
    Triple (Idle s₀ queue) (w.admitAvailable queue arrival closed)
      (fun admitted => Idle s₀ admitted.1) E :=
  Triple.ite (fun _ => Triple.pure fun _ h => h) fun _ => admitReady_triple _ _ _

/-- Only the exit to recovery reports a recovery; nothing was lost or refused on it. -/
theorem Stopped.recovery {task : AgentTask} {s₀ s : WorkerState σ} {k : Nat} {phase : Phase}
    {es : List TaskEvent} {e : WorkerError} (h : w.Stopped task s₀ k phase es e s)
    (hrec : e.isRecoveryNeeded = true) :
    phase = .running ∧ s.lost = s₀.lost ∧ s.refused = s₀.refused := by
  have hlt := Grammar.seq_lt h.grammar h.bound
  have hseq : ¬ e.place.2 < recoverySeq := by
    intro hplace
    rw [WorkerError.not_recovery hplace] at hrec
    cases hrec
  cases h.cause with
  | unwritten bound grammar lost refused place blame =>
    have hlast := Grammar.last_seq grammar
    refine absurd ?_ hseq
    rw [place]
    show _ < recoverySeq
    omega
  | handoff dispatched lost refused error blame =>
    refine absurd ?_ hseq
    rw [error]
    exact hlt
  | recovery running lost refused error => exact ⟨running, lost, refused⟩

section

variable [Externals]

/-- One task: reported and the loop goes on, or the run has failed. -/
theorem process_idle {s₀ : WorkerState σ} {queue rest : List QueuedTask} {next : QueuedTask}
    {E : WorkerError → WorkerState σ → Prop} (hpop : popQueue queue = some (next, rest)) :
    Triple (Idle s₀ queue) (attempt (w.process next.task))
      (fun result s => match result with
        | .ok () => Idle s₀ rest s
        | .error e => if e.isRecoveryNeeded then Idle s₀ rest s else RunFailed w s₀ e s) E := by
  intro s hi
  -- What a task's report adds to the published list leaves the others as they were.
  have hrest : ∀ {s' : WorkerState σ} {es : List TaskEvent}, s'.emitted = s.emitted ++ es →
      Report next.task es → s'.lost = s.lost → s'.refused = s.refused →
      s'.received = s.received → Idle s₀ rest s' := by
    intro s' es hemitted hreport hlost hrefused hreceived
    obtain ⟨tasks, hr, hall⟩ := hi.received
    refine ⟨hlost.trans hi.lost, hrefused.trans hi.refused, tasks, hreceived.trans hr, ?_⟩
    intro task htask
    rw [hemitted]
    rcases hall task htask with ⟨q, hq, rfl⟩ | hrep
    · rcases (popQueue_mem hpop q).mp hq with rfl | hq
      · exact Or.inr ⟨s.emitted, es, [], by simp, hreport⟩
      · exact Or.inl ⟨q, hq, rfl⟩
    · exact Or.inr (hrep.append es)
  have h := w.process_spec next.task s s rfl
  show match (w.process next.task s).1 with
    | .ok () => Idle s₀ rest (w.process next.task s).2
    | .error e => if e.isRecoveryNeeded then Idle s₀ rest (w.process next.task s).2
        else RunFailed w s₀ e (w.process next.task s).2
  cases hp : w.process next.task s with
  | mk result s' =>
    rw [hp] at h
    cases result with
    | ok value =>
      obtain ⟨k, es, d, u, hk, ht⟩ := h
      exact hrest ht.emitted ⟨fun e he => (ht.grammar.entry_of_mem he).1,
        Or.inl ht.grammar.terminal_last⟩ ht.lost ht.refused ht.received
    | error error =>
      obtain ⟨k, phase, es, hst⟩ := h
      dsimp only
      by_cases hrec : error.isRecoveryNeeded = true
      · obtain ⟨running, lost, refused⟩ := hst.recovery hrec
        subst running
        rw [if_pos hrec]
        exact hrest hst.emitted ⟨fun e he => (hst.grammar.entry_of_mem he).1,
          Or.inr hst.grammar.last_running⟩ lost refused hst.received
      · rw [if_neg hrec]
        cases hst.cause with
        | unwritten bound grammar lost refused place blame =>
          exact .unwritten _ _ (hi.lost ▸ lost) (refused.trans hi.refused) place blame
        | handoff dispatched lost refused herror blame =>
          refine .handoff (lost.trans hi.lost) ?_ blame
          rw [refused, hi.refused, herror]
          rfl
        | recovery running lost refused herror =>
          rw [herror] at hrec
          exact absurd rfl hrec

/-- **One round of the loop keeps `Idle`**, so a run ends returned or failed. -/
theorem runLoop_triple {s₀ : WorkerState σ} (fuel : Nat) :
    ∀ (queue : List QueuedTask) (arrival : Nat) (closed : Bool),
      Triple (Idle s₀ queue) (w.runLoop fuel queue arrival closed) (RunEnded s₀)
        (RunFailed w s₀) := by
  induction fuel with
  | zero => exact fun queue arrival closed => Triple.pure fun s h => ⟨queue, h, nofun⟩
  | succ fuel ih =>
    intro queue arrival closed
    rw [runLoop]
    refine Triple.bind (admit_triple queue arrival closed) fun admitted => ?_
    obtain ⟨queue, arrival, closed⟩ := admitted
    dsimp only
    cases hpop : popQueue queue with
    | some popped =>
      obtain ⟨next, rest⟩ := popped
      refine Triple.bind (process_idle hpop) fun result => ?_
      cases result with
      | ok value => exact ih rest arrival closed
      | error error =>
        dsimp only
        by_cases hrec : error.isRecoveryNeeded = true
        · simp only [if_pos hrec]
          exact ih rest arrival closed
        · simp only [if_neg hrec]
          exact Triple.throw fun s h => h
    | none =>
      rw [popQueue_none hpop]
      have hdrained : Triple (Idle s₀ []) (pure .drained : Work σ RunEnd) (RunEnded s₀)
          (RunFailed w s₀) := Triple.pure fun s h => ⟨[], h, fun _ => rfl⟩
      refine Triple.ite (fun _ => hdrained) fun _ => ?_
      refine Triple.bind (Triple.within (quiet_service _) fun _ _ hq hi => hi.quiet hq)
        fun answer => ?_
      cases answer with
      | none => exact hdrained
      | some task =>
        refine Triple.bind (receive_triple [⟨task.priority, arrival, task⟩] nofun ?_)
          fun _ => ih _ _ _
        exact ⟨_, List.mem_singleton.mpr rfl, rfl⟩

/-- The write of an event returned an error, and `e` names that event. -/
def WriteFailed (s s' : WorkerState σ) (e : WorkerError) : Prop :=
  ∃ event cause, s'.lost = s.lost ++ [(event, cause)] ∧ cause ≠ .stale ∧
    e.place = (event.task_id, event.seq)

/-- No terminal handoff was refused, and no event found the lifecycle `Stale`. -/
structure Undisturbed (s s' : WorkerState σ) : Prop where
  refused : s'.refused = s.refused
  stale : ∀ lost ∈ s'.lost.drop s.lost.length, lost.2 ≠ .stale

/-- **A run stops because the write of an event returned an error, exactly when no terminal
handoff was refused in it and no event was `Stale`** (proved).  Neither happens to a worker
whose prepared dispatchers cannot refuse and whose lifecycle cannot answer `Stale`.  A run that
drained its channel has reported every task it received. -/
theorem run_stops_iff (w : Worker σ) (fuel : Nat) (s : WorkerState σ) :
    ((∀ e, (w.run fuel s).1 = .error e → WriteFailed s (w.run fuel s).2 e) ↔
      Undisturbed s (w.run fuel s).2) ∧
    (¬ w.RefusesHandoff → ¬ w.AnswersStale → Undisturbed s (w.run fuel s).2) ∧
    ((w.run fuel s).1 = .ok .drained →
      ∀ task ∈ (w.run fuel s).2.received.drop s.received.length,
        Reported task (w.run fuel s).2.emitted) := by
  have hidle : Idle s [] s := ⟨rfl, rfl, [], by simp, nofun⟩
  have h := runLoop_triple (w := w) fuel [] 0 false s hidle
  cases hrun : w.run fuel s with
  | mk result s' =>
    have hloop : w.runLoop fuel [] 0 false s = (result, s') := hrun
    rw [hloop] at h
    cases result with
    | ok ending =>
      obtain ⟨queue, hi, hdrained⟩ := h
      have hund : Undisturbed s s' := by
        refine ⟨hi.refused, ?_⟩
        rw [hi.lost, List.drop_length]
        exact fun _ hlost => absurd hlost List.not_mem_nil
      refine ⟨⟨fun _ => hund, fun _ => nofun⟩, fun _ _ => hund, ?_⟩
      intro hend task htask
      obtain ⟨tasks, hreceived, hall⟩ := hi.received
      rw [hreceived, List.drop_left] at htask
      cases hend
      rw [hdrained rfl] at hall
      rcases hall task htask with ⟨q, hq, -⟩ | hr
      · exact nomatch hq
      · exact hr
    | error e =>
      cases h with
      | unwritten event cause lost refused place blame =>
        have hstale : Undisturbed s s' ↔ cause ≠ .stale := by
          constructor
          · intro hund
            exact hund.stale (event, cause) (by rw [lost, List.drop_left]; simp)
          · intro hne
            refine ⟨refused, ?_⟩
            rw [lost, List.drop_left]
            intro x hx
            rw [List.mem_singleton.mp hx]
            exact hne
        refine ⟨?_, fun _ hno => hstale.mpr fun hc => hno (blame hc), nofun⟩
        rw [hstale]
        constructor
        · intro hfail
          obtain ⟨event', cause', hlost, hne, -⟩ := hfail e rfl
          rw [lost] at hlost
          have heq := List.append_cancel_left hlost
          cases heq
          exact hne
        · intro hne e' he
          cases he
          exact ⟨event, cause, lost, hne, place⟩
      | handoff lost refused blame =>
        have hno : ¬ Undisturbed s s' := by
          intro hund
          have hlen := congrArg List.length (refused.symm.trans hund.refused)
          simp at hlen
        refine ⟨⟨?_, fun hund => absurd hund hno⟩, fun hd => absurd blame hd, nofun⟩
        intro hfail
        obtain ⟨event, cause, hlost, -⟩ := hfail e rfl
        have hlen := congrArg List.length (lost.symm.trans hlost)
        simp at hlen

end

end Worker

end GuiguBridge
