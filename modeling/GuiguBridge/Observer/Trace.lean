import GuiguBridge.Storage.Cycle
import Mathlib.Data.Finset.Insert
import Mathlib.Data.List.Chain

/-!
# The trace of a task

`task_trace` of the observer climbs the `parent_task_id` chain of a stored task and reports the ids
that it met with the reason why it stopped.  The table may hold anything: parents that form a
cycle, that name no row, or that lead to another root.

* `traceLoop`, `taskTrace` — the walk, with the reads that it makes;
* `member` — **the tasks on the walk, as the table has them**;
* `Stop` — how the walk ends, one constructor for each of its conditions;
* `loop_stops`, `Stop.unique` — the loop ends in such a way, and there is one only;
* `task_trace_exact` — the ids, the reads, the state and the boundary, for every table.
-/

namespace GuiguBridge

open Relational

namespace Observer

/-- The texts of `TaskTrace::state`. -/
inductive TraceState where
  | complete | cycle | truncated | missingParent | rootMismatch
  deriving DecidableEq

structure TaskTrace where
  ids : List TaskId
  state : TraceState
  boundary : Option TaskId
  deriving DecidableEq

/-- `ConsumerError::Failed`. -/
structure ConsumerError where
  reason : String
  deriving DecidableEq

variable {ε : Type}

/-- The loop of `task_trace`, with its reads. -/
def traceLoop (repository : Repository ε) (max_chain : Nat) (cur : AgentTask)
    (seen : Finset TaskId) (ids : List TaskId) (reads : List TaskId) :
    Except ConsumerError TaskTrace × List TaskId :=
  if cur.task_id ∈ seen then (.ok ⟨ids, .cycle, some cur.task_id⟩, reads)
  else if _hfull : max_chain ≤ (ids ++ [cur.task_id]).length then
    match cur.parent_task_id with
    | some parent => (.ok ⟨ids ++ [cur.task_id], .truncated, some parent⟩, reads)
    | none => (.ok ⟨ids ++ [cur.task_id], .complete, none⟩, reads)
  else
    match cur.parent_task_id with
    | none => (.ok ⟨ids ++ [cur.task_id], .complete, none⟩, reads)
    | some parent =>
      match repository.getTask parent with
      | .ok (some next) =>
        traceLoop repository max_chain next (insert cur.task_id seen) (ids ++ [cur.task_id])
          (reads ++ [parent])
      | .ok none => (.ok ⟨ids ++ [cur.task_id], .missingParent, some parent⟩, reads ++ [parent])
      | .error _ => (.error ⟨"observer parent lookup failed"⟩, reads ++ [parent])
termination_by max_chain - ids.length
decreasing_by
  rw [List.length_append, List.length_singleton] at _hfull ⊢
  omega

/-- What `task_trace` does to the outcome of its loop. -/
def finish (task : AgentTask) (t : TaskTrace) : TaskTrace :=
  let ids := t.ids.reverse
  if t.state = .complete ∧ ids.head? ≠ some task.root_task_id then
    ⟨ids, .rootMismatch, some task.root_task_id⟩
  else { t with ids }

/-- `task_trace`, past its assertion. -/
def taskTrace (repository : Repository ε) (task : AgentTask) (max_chain : Nat) :
    Except ConsumerError TaskTrace × List TaskId :=
  let (found, reads) := traceLoop repository max_chain task ∅ [] []
  (found.map (finish task), reads)

/-! ### The walk up a table -/

/-- Task `n` on the walk: the task itself, and then the stored parents. -/
def member (t : TaskTable) (task : AgentTask) : Nat → Option AgentTask
  | 0 => some task
  | n + 1 => ((member t task n).bind AgentTask.parent_task_id).bind t.get

/-- Task `n` on the walk has the id of an earlier one. -/
def Repeats (t : TaskTable) (task : AgentTask) (n : Nat) : Prop :=
  ∃ k < n, ∃ m m', member t task n = some m ∧ member t task k = some m' ∧ m.task_id = m'.task_id

/-- The first `n` tasks on the walk have different ids. -/
def Distinct (t : TaskTable) (task : AgentTask) (n : Nat) : Prop := ∀ k < n, ¬ Repeats t task k

/-- The ids of the first `n` tasks on the walk. -/
def collected (t : TaskTable) (task : AgentTask) (n : Nat) : List TaskId :=
  (List.range n).filterMap fun k => (member t task k).map AgentTask.task_id

/-- The loop stops with `n` ids collected. -/
inductive Stop (t : TaskTable) (task : AgentTask) (max_chain : Nat) :
    Nat → TraceState → Option TaskId → Prop where
  | cycle {n : Nat} {m : AgentTask} (hn : n < max_chain) (hm : member t task n = some m)
      (hrepeats : Repeats t task n) : Stop t task max_chain n .cycle (some m.task_id)
  | missing {n : Nat} {m : AgentTask} {p : TaskId} (hn : n + 1 < max_chain)
      (hm : member t task n = some m) (hp : m.parent_task_id = some p) (hnone : t.get p = none) :
      Stop t task max_chain (n + 1) .missingParent (some p)
  | truncated {n : Nat} {m : AgentTask} {p : TaskId} (hn : n + 1 = max_chain)
      (hm : member t task n = some m) (hp : m.parent_task_id = some p) :
      Stop t task max_chain (n + 1) .truncated (some p)
  | ended {n : Nat} {m : AgentTask} (hn : n < max_chain) (hm : member t task n = some m)
      (hp : m.parent_task_id = none) : Stop t task max_chain (n + 1) .complete none

variable {t : TaskTable} {task : AgentTask} {max_chain : Nat}

theorem member_succ {n : Nat} {m : AgentTask} {p : TaskId} (hm : member t task n = some m)
    (hp : m.parent_task_id = some p) : member t task (n + 1) = t.get p := by
  show ((member t task n).bind _).bind _ = _
  rw [hm]
  show m.parent_task_id.bind _ = _
  rw [hp]
  rfl

theorem member_ended {n : Nat} {m : AgentTask} (hm : member t task n = some m)
    (hp : m.parent_task_id = none) : member t task (n + 1) = none := by
  show ((member t task n).bind _).bind _ = _
  rw [hm]
  show m.parent_task_id.bind _ = _
  rw [hp]
  rfl

/-- What is on the walk was climbed to. -/
theorem member_of_succ {n : Nat} {m : AgentTask} (h : member t task (n + 1) = some m) :
    ∃ m', member t task n = some m' ∧ m'.parent_task_id = some m.task_id ∧
      t.get m.task_id = some m := by
  obtain ⟨p, hp, hget⟩ := Option.bind_eq_some_iff.mp h
  obtain ⟨m', hm', hparent⟩ := Option.bind_eq_some_iff.mp hp
  have hkey : m.task_id = p := Table.key_of_get hget
  rw [hkey]
  exact ⟨m', hm', hparent, hget⟩

/-- The walk has no gaps. -/
theorem member_le {n k : Nat} (hk : k ≤ n) (h : (member t task n).isSome) :
    (member t task k).isSome := by
  induction hk with
  | refl => exact h
  | step _ ih =>
    obtain ⟨m, hm⟩ := Option.isSome_iff_exists.mp h
    obtain ⟨m', hm', -⟩ := member_of_succ hm
    exact ih (Option.isSome_iff_exists.mpr ⟨m', hm'⟩)

theorem collected_succ {n : Nat} {m : AgentTask} (hm : member t task n = some m) :
    collected t task (n + 1) = collected t task n ++ [m.task_id] := by
  unfold collected
  rw [List.range_succ, List.filterMap_append]
  simp [hm]

theorem mem_collected {n : Nat} {id : TaskId} :
    id ∈ collected t task n ↔ ∃ k < n, ∃ m, member t task k = some m ∧ m.task_id = id := by
  unfold collected
  simp [List.mem_filterMap]

theorem collected_length {n : Nat} (h : ∀ k < n, (member t task k).isSome) :
    (collected t task n).length = n := by
  induction n with
  | zero => rfl
  | succ n ih =>
    obtain ⟨m, hm⟩ := Option.isSome_iff_exists.mp (h n (Nat.lt_succ_self n))
    rw [collected_succ hm, List.length_append, ih fun k hk => h k (Nat.lt_succ_of_lt hk)]
    rfl

/-! ### The loop -/

theorem repeats_iff {n : Nat} {m : AgentTask} (hm : member t task n = some m) :
    Repeats t task n ↔ m.task_id ∈ collected t task n := by
  rw [mem_collected]
  constructor
  · rintro ⟨k, hk, m₁, m', hm₁, hm', heq⟩
    have hsame : m₁ = m := Option.some.inj (hm₁.symm.trans hm)
    exact ⟨k, hk, m', hm', by rw [← heq, hsame]⟩
  · rintro ⟨k, hk, m', hm', heq⟩
    exact ⟨k, hk, m, m', hm, hm', heq.symm⟩

theorem distinct_succ {n : Nat} (h : Distinct t task n) (hn : ¬ Repeats t task n) :
    Distinct t task (n + 1) := by
  intro k hk
  rcases Nat.lt_succ_iff_lt_or_eq.mp hk with hk | rfl
  · exact h k hk
  · exact hn

/-- **The loop ends in one of its ways**, whatever the table.  `reads` has one entry for each step
up. -/
theorem loop_stops (n : Nat) (cur : AgentTask) (seen : Finset TaskId) (reads : List TaskId)
    (hn : n < max_chain) (hcur : member t task n = some cur) (hdistinct : Distinct t task n)
    (hseen : ∀ id, id ∈ seen ↔ id ∈ collected t task n) (hreads : reads.length = n) :
    ∃ k state boundary reads',
      traceLoop (.ofTasks t : Repository ε) max_chain cur seen (collected t task n) reads =
        (.ok ⟨collected t task k, state, boundary⟩, reads') ∧
      Stop t task max_chain k state boundary ∧ Distinct t task k ∧
      reads'.length ≤ max_chain - 1 := by
  induction hleft : max_chain - n generalizing n cur seen reads with
  | zero => omega
  | succ left ih =>
    have hlength : (collected t task n).length = n := collected_length fun k hk =>
      member_le (Nat.le_of_lt hk) (by rw [hcur]; rfl)
    unfold traceLoop
    by_cases hrepeats : Repeats t task n
    · rw [if_pos ((hseen _).mpr ((repeats_iff hcur).mp hrepeats))]
      exact ⟨n, .cycle, _, reads, rfl, .cycle hn hcur hrepeats, hdistinct, by omega⟩
    · rw [if_neg fun h => hrepeats ((repeats_iff hcur).mpr ((hseen _).mp h))]
      simp only [← collected_succ hcur]
      have hdistinct' := distinct_succ hdistinct hrepeats
      have hlength' : (collected t task (n + 1)).length = n + 1 := by
        rw [collected_succ hcur, List.length_append, hlength]
        rfl
      by_cases hfull : max_chain ≤ n + 1
      · rw [dif_pos (hlength'.symm ▸ hfull)]
        cases hp : cur.parent_task_id with
        | some parent =>
          exact ⟨n + 1, .truncated, _, reads, rfl, .truncated (by omega) hcur hp, hdistinct',
            by omega⟩
        | none =>
          exact ⟨n + 1, .complete, _, reads, rfl, .ended hn hcur hp, hdistinct', by omega⟩
      · rw [dif_neg (hlength'.symm ▸ hfull)]
        cases hp : cur.parent_task_id with
        | none =>
          exact ⟨n + 1, .complete, _, reads, rfl, .ended hn hcur hp, hdistinct', by omega⟩
        | some parent =>
          have hlength'' : (reads ++ [parent]).length = n + 1 := by
            rw [List.length_append, hreads]
            rfl
          cases hget : t.get parent with
          | none =>
            refine ⟨n + 1, .missingParent, _, reads ++ [parent], ?_,
              .missing (by omega) hcur hp hget, hdistinct', by omega⟩
            simp only [Repository.ofTasks, hget]
          | some next =>
            have hnext : member t task (n + 1) = some next := (member_succ hcur hp).trans hget
            obtain ⟨k, state, boundary, reads', hloop, hstop⟩ :=
              ih (n + 1) next (insert cur.task_id seen) (reads ++ [parent]) (by omega) hnext
                hdistinct' (by
                  intro id
                  rw [Finset.mem_insert, hseen, collected_succ hcur, List.mem_append,
                    List.mem_singleton]
                  exact or_comm) hlength'' (by omega)
            refine ⟨k, state, boundary, reads', ?_, hstop⟩
            simp only [Repository.ofTasks, hget]
            exact hloop

/-! ### One end only -/

namespace Stop

variable {n n' : Nat} {state state' : TraceState} {boundary boundary' : Option TaskId}

/-- What was collected is on the walk. -/
theorem members (h : Stop t task max_chain n state boundary) :
    ∀ k < n, (member t task k).isSome := by
  intro k hk
  cases h with
  | cycle _ hm _ => exact member_le (Nat.le_of_lt hk) (by rw [hm]; rfl)
  | missing _ hm _ _ => exact member_le (Nat.le_of_lt_succ hk) (by rw [hm]; rfl)
  | truncated _ hm _ => exact member_le (Nat.le_of_lt_succ hk) (by rw [hm]; rfl)
  | ended _ hm _ => exact member_le (Nat.le_of_lt_succ hk) (by rw [hm]; rfl)

theorem le_max (h : Stop t task max_chain n state boundary) : n ≤ max_chain := by
  cases h with
  | cycle hn _ _ => exact Nat.le_of_lt hn
  | missing hn _ _ _ => exact Nat.le_of_lt hn
  | truncated hn _ _ => exact Nat.le_of_eq hn
  | ended hn _ _ => exact hn

/-- Past the end nothing is collected. -/
theorem not_lt (h : Stop t task max_chain n state boundary)
    (h' : Stop t task max_chain n' state' boundary') (hdistinct : Distinct t task n') :
    ¬ n < n' := by
  intro hlt
  have hsome := h'.members n hlt
  have hle := h'.le_max
  cases h with
  | cycle _ _ hrepeats => exact hdistinct n hlt hrepeats
  | missing _ hm hp hnone =>
    rw [member_succ hm hp, hnone] at hsome
    cases hsome
  | truncated hn _ _ => omega
  | ended _ hm hp =>
    rw [member_ended hm hp] at hsome
    cases hsome

/-- **The walk ends in one way.** -/
theorem unique (h : Stop t task max_chain n state boundary) (hdistinct : Distinct t task n)
    (h' : Stop t task max_chain n' state' boundary') (hdistinct' : Distinct t task n') :
    state = state' ∧ boundary = boundary' := by
  have heq : n = n' := Nat.le_antisymm (Nat.le_of_not_lt (h'.not_lt h hdistinct))
    (Nat.le_of_not_lt (h.not_lt h' hdistinct'))
  subst heq
  cases h with
  | cycle hn hm _ =>
    cases h' with
    | cycle _ hm' _ =>
      rw [Option.some.inj (hm.symm.trans hm')]
      exact ⟨rfl, rfl⟩
    | missing _ hm' hp' hnone' =>
      rw [member_succ hm' hp', hnone'] at hm
      cases hm
    | truncated hn' _ _ => omega
    | ended _ hm' hp' =>
      rw [member_ended hm' hp'] at hm
      cases hm
  | missing hn hm hp hnone =>
    cases h' with
    | cycle _ hm' _ =>
      rw [member_succ hm hp, hnone] at hm'
      cases hm'
    | missing _ hm' hp' _ =>
      rw [Option.some.inj (hm.symm.trans hm'), hp'] at hp
      exact ⟨rfl, hp.symm⟩
    | truncated hn' _ _ => omega
    | ended _ hm' hp' =>
      rw [Option.some.inj (hm.symm.trans hm'), hp'] at hp
      cases hp
  | truncated hn hm hp =>
    cases h' with
    | cycle hn' _ _ => omega
    | missing hn' _ _ _ => omega
    | truncated _ hm' hp' =>
      rw [Option.some.inj (hm.symm.trans hm'), hp'] at hp
      exact ⟨rfl, hp.symm⟩
    | ended _ hm' hp' =>
      rw [Option.some.inj (hm.symm.trans hm'), hp'] at hp
      cases hp
  | ended _ hm hp =>
    cases h' with
    | cycle _ hm' _ =>
      rw [member_ended hm hp] at hm'
      cases hm'
    | missing _ hm' hp' _ =>
      rw [Option.some.inj (hm.symm.trans hm'), hp'] at hp
      cases hp
    | truncated _ hm' hp' =>
      rw [Option.some.inj (hm.symm.trans hm'), hp'] at hp
      cases hp
    | ended _ _ _ => exact ⟨rfl, rfl⟩

end Stop

/-! ### The ids -/

/-- The parent of a task on the walk. -/
def parentOf (t : TaskTable) (task : AgentTask) (id : TaskId) : Option TaskId :=
  if id = task.task_id then task.parent_task_id else (t.get id).bind AgentTask.parent_task_id

/-- Under distinct ids, what the table has under the id of a member is the member. -/
theorem parentOf_member {n k : Nat} {m : AgentTask} (hdistinct : Distinct t task n) (hk : k < n)
    (hm : member t task k = some m) : parentOf t task m.task_id = m.parent_task_id := by
  unfold parentOf
  cases k with
  | zero =>
    have hself : task = m := Option.some.inj hm
    rw [hself, if_pos rfl]
  | succ k =>
    obtain ⟨-, -, -, hget⟩ := member_of_succ hm
    have hne : m.task_id ≠ task.task_id := fun heq =>
      hdistinct (k + 1) hk ⟨0, Nat.succ_pos k, m, task, hm, rfl, heq⟩
    rw [if_neg hne, hget]
    rfl

theorem collected_nodup {n : Nat} (hmembers : ∀ k < n, (member t task k).isSome)
    (hdistinct : Distinct t task n) : (collected t task n).Nodup := by
  induction n with
  | zero => exact List.nodup_nil
  | succ n ih =>
    obtain ⟨m, hm⟩ := Option.isSome_iff_exists.mp (hmembers n (Nat.lt_succ_self n))
    rw [collected_succ hm, List.nodup_append]
    refine ⟨ih (fun k hk => hmembers k (Nat.lt_succ_of_lt hk))
      (fun k hk => hdistinct k (Nat.lt_succ_of_lt hk)), List.nodup_singleton _, ?_⟩
    intro a ha b hb heq
    rw [List.mem_singleton.mp hb] at heq
    rw [heq] at ha
    exact hdistinct n (Nat.lt_succ_self n) ((repeats_iff hm).mpr ha)

theorem collected_head {n : Nat} (hn : 0 < n) (hmembers : ∀ k < n, (member t task k).isSome) :
    (collected t task n).head? = some task.task_id := by
  induction n with
  | zero => omega
  | succ n ih =>
    obtain ⟨m, hm⟩ := Option.isSome_iff_exists.mp (hmembers n (Nat.lt_succ_self n))
    rw [collected_succ hm]
    cases n with
    | zero =>
      have hself : task = m := Option.some.inj hm
      rw [hself]
      rfl
    | succ n =>
      rw [List.head?_append, ih (Nat.succ_pos n) fun k hk => hmembers k (Nat.lt_succ_of_lt hk)]
      rfl

/-- Each id is followed by its parent. -/
theorem collected_chain {n : Nat} (hmembers : ∀ k < n, (member t task k).isSome)
    (hdistinct : Distinct t task n) :
    (collected t task n).IsChain fun a b => parentOf t task a = some b := by
  induction n with
  | zero => exact .nil
  | succ n ih =>
    obtain ⟨m, hm⟩ := Option.isSome_iff_exists.mp (hmembers n (Nat.lt_succ_self n))
    have hrest := ih (fun k hk => hmembers k (Nat.lt_succ_of_lt hk))
      (fun k hk => hdistinct k (Nat.lt_succ_of_lt hk))
    rw [collected_succ hm, List.isChain_append]
    refine ⟨hrest, List.IsChain.singleton _, ?_⟩
    intro a ha b hb
    have hb : m.task_id = b := Option.some.inj hb
    cases n with
    | zero => cases ha
    | succ n =>
      obtain ⟨m', hm', hparent, -⟩ := member_of_succ hm
      rw [collected_succ hm', List.getLast?_append] at ha
      have ha : m'.task_id = a := Option.some.inj ha
      rw [← ha, ← hb, parentOf_member hdistinct (by omega : n < n + 1 + 1) hm', hparent]

/-! ### What the trace says -/

/-- The walk meets `b` again before `max_chain` ids are collected. -/
def MeetsAgain (t : TaskTable) (task : AgentTask) (max_chain : Nat) (b : TaskId) : Prop :=
  ∃ n < max_chain, Distinct t task n ∧ Repeats t task n ∧
    (member t task n).map AgentTask.task_id = some b

/-- Before that, a parent `b` is not stored. -/
def Dangles (t : TaskTable) (task : AgentTask) (max_chain : Nat) (b : TaskId) : Prop :=
  ∃ n, n + 1 < max_chain ∧ Distinct t task (n + 1) ∧
    ∃ m, member t task n = some m ∧ m.parent_task_id = some b ∧ t.get b = none

/-- `max_chain` ids are collected, and the oldest has the parent `b`. -/
def Overlong (t : TaskTable) (task : AgentTask) (max_chain : Nat) (b : TaskId) : Prop :=
  ∃ n, n + 1 = max_chain ∧ Distinct t task (n + 1) ∧
    ∃ m, member t task n = some m ∧ m.parent_task_id = some b

/-- The walk reaches a task without a parent that is not the root. -/
def EndsElsewhere (t : TaskTable) (task : AgentTask) (max_chain : Nat) : Prop :=
  ∃ n < max_chain, Distinct t task (n + 1) ∧
    ∃ m, member t task n = some m ∧ m.parent_task_id = none ∧ m.task_id ≠ task.root_task_id

variable {k : Nat} {state : TraceState} {boundary : Option TaskId}

theorem MeetsAgain.stop {b : TaskId} (h : MeetsAgain t task max_chain b)
    (hstop : Stop t task max_chain k state boundary) (hdistinct : Distinct t task k) :
    state = .cycle ∧ boundary = some b := by
  obtain ⟨n, hn, hdistinct', hrepeats, hb⟩ := h
  obtain ⟨m, hm, rfl⟩ := Option.map_eq_some_iff.mp hb
  exact hstop.unique hdistinct (.cycle hn hm hrepeats) hdistinct'

theorem Dangles.stop {b : TaskId} (h : Dangles t task max_chain b)
    (hstop : Stop t task max_chain k state boundary) (hdistinct : Distinct t task k) :
    state = .missingParent ∧ boundary = some b := by
  obtain ⟨n, hn, hdistinct', m, hm, hp, hnone⟩ := h
  exact hstop.unique hdistinct (.missing hn hm hp hnone) hdistinct'

theorem Overlong.stop {b : TaskId} (h : Overlong t task max_chain b)
    (hstop : Stop t task max_chain k state boundary) (hdistinct : Distinct t task k) :
    state = .truncated ∧ boundary = some b := by
  obtain ⟨n, hn, hdistinct', m, hm, hp⟩ := h
  exact hstop.unique hdistinct (.truncated hn hm hp) hdistinct'

theorem EndsElsewhere.stop (h : EndsElsewhere t task max_chain)
    (hstop : Stop t task max_chain k state boundary) (hdistinct : Distinct t task k) :
    state = .complete ∧ (collected t task k).reverse.head? ≠ some task.root_task_id := by
  obtain ⟨n, hn, hdistinct', m, hm, hp, hroot⟩ := h
  have hended : Stop t task max_chain (n + 1) .complete none := .ended hn hm hp
  have hk : k = n + 1 := Nat.le_antisymm (Nat.le_of_not_lt (hended.not_lt hstop hdistinct))
    (Nat.le_of_not_lt (hstop.not_lt hended hdistinct'))
  refine ⟨(hstop.unique hdistinct hended hdistinct').1, ?_⟩
  rw [hk, collected_succ hm, List.reverse_append]
  exact fun heq => hroot (Option.some.inj heq)

/-- The state and the boundary of a trace name how the walk ended. -/
structure Tells (t : TaskTable) (task : AgentTask) (max_chain : Nat) (trace : TaskTrace) :
    Prop where
  cycle : trace.state = .cycle ↔ ∃ b, MeetsAgain t task max_chain b
  cycle_boundary : ∀ b, MeetsAgain t task max_chain b → trace.boundary = some b
  missing : trace.state = .missingParent ↔ ∃ b, Dangles t task max_chain b
  missing_boundary : ∀ b, Dangles t task max_chain b → trace.boundary = some b
  truncated : trace.state = .truncated ↔ ∃ b, Overlong t task max_chain b
  truncated_boundary : ∀ b, Overlong t task max_chain b → trace.boundary = some b
  mismatch : trace.state = .rootMismatch ↔ EndsElsewhere t task max_chain
  mismatch_boundary : trace.state = .rootMismatch → trace.boundary = some task.root_task_id
  complete_boundary : trace.state = .complete → trace.boundary = none

theorem finish_tells (hstop : Stop t task max_chain k state boundary)
    (hdistinct : Distinct t task k) :
    Tells t task max_chain (finish task ⟨collected t task k, state, boundary⟩) := by
  -- what each of the conditions says of this stop
  have hcycle := fun b (h : MeetsAgain t task max_chain b) => h.stop hstop hdistinct
  have hdangles := fun b (h : Dangles t task max_chain b) => h.stop hstop hdistinct
  have hoverlong := fun b (h : Overlong t task max_chain b) => h.stop hstop hdistinct
  have helse := fun (h : EndsElsewhere t task max_chain) => h.stop hstop hdistinct
  unfold finish
  dsimp only
  split
  · rename_i hroot
    obtain ⟨hstate, hroot⟩ := hroot
    cases hstop with
    | ended hn hm hp =>
      rw [collected_succ hm, List.reverse_append] at hroot
      refine ⟨?_, ?_, ?_, ?_, ?_, ?_, ?_, fun _ => rfl, nofun⟩
      · exact ⟨nofun, fun ⟨b, h⟩ => nomatch (hcycle b h).1⟩
      · exact fun b h => nomatch (hcycle b h).1
      · exact ⟨nofun, fun ⟨b, h⟩ => nomatch (hdangles b h).1⟩
      · exact fun b h => nomatch (hdangles b h).1
      · exact ⟨nofun, fun ⟨b, h⟩ => nomatch (hoverlong b h).1⟩
      · exact fun b h => nomatch (hoverlong b h).1
      · exact ⟨fun _ => ⟨_, hn, hdistinct, _, hm, hp, fun heq => hroot (congrArg some heq)⟩,
          fun _ => rfl⟩
    | _ => cases hstate
  · rename_i hroot
    refine ⟨?_, fun b h => (hcycle b h).2, ?_, fun b h => (hdangles b h).2, ?_,
      fun b h => (hoverlong b h).2, ?_, ?_, ?_⟩
    · refine ⟨fun h => ?_, fun ⟨b, h⟩ => (hcycle b h).1⟩
      cases hstop with
      | cycle hn hm hrepeats => exact ⟨_, _, hn, hdistinct, hrepeats, by rw [hm]; rfl⟩
      | _ => cases h
    · refine ⟨fun h => ?_, fun ⟨b, h⟩ => (hdangles b h).1⟩
      cases hstop with
      | missing hn hm hp hnone => exact ⟨_, _, hn, hdistinct, _, hm, hp, hnone⟩
      | _ => cases h
    · refine ⟨fun h => ?_, fun ⟨b, h⟩ => (hoverlong b h).1⟩
      cases hstop with
      | truncated hn hm hp => exact ⟨_, _, hn, hdistinct, _, hm, hp⟩
      | _ => cases h
    · refine ⟨fun h => ?_, fun h => absurd (helse h) hroot⟩
      dsimp only at h
      rw [h] at hstop
      cases hstop
    · intro h
      dsimp only at h
      rw [h] at hstop
      cases hstop
    · intro h
      dsimp only at h
      rw [h] at hstop
      cases hstop
      rfl

/-- **The trace is exact.**  For every table, whatever its parents name, and every ceiling, the
walk makes at most `max_chain - 1` reads; the ids are distinct, end with the task itself, and each
is the parent of the next; the state and the boundary name how the walk ended, and the state is
`complete` otherwise. -/
theorem task_trace_exact (t : TaskTable) (task : AgentTask) (max_chain : Nat)
    (h : 0 < max_chain) :
    ∃ trace reads,
      taskTrace (.ofTasks t : Repository ε) task max_chain = (.ok trace, reads) ∧
      reads.length ≤ max_chain - 1 ∧ trace.ids.Nodup ∧
      trace.ids.getLast? = some task.task_id ∧
      trace.ids.IsChain (fun a b => parentOf t task b = some a) ∧
      Tells t task max_chain trace ∧
      (trace.state = .complete ↔
        (∀ b, ¬ MeetsAgain t task max_chain b) ∧ (∀ b, ¬ Dangles t task max_chain b) ∧
        (∀ b, ¬ Overlong t task max_chain b) ∧ ¬ EndsElsewhere t task max_chain) := by
  obtain ⟨k, state, boundary, reads, hloop, hstop, hdistinct, hreads⟩ :=
    loop_stops (ε := ε) (t := t) 0 task ∅ [] h rfl (fun k hk => nomatch hk)
      (fun id => by simp [collected]) rfl
  have hmembers := hstop.members
  have hpos : 0 < k := by
    cases hstop with
    | cycle _ _ hrepeats =>
      obtain ⟨j, hj, -⟩ := hrepeats
      omega
    | _ => exact Nat.succ_pos _
  have hids : (finish task ⟨collected t task k, state, boundary⟩).ids =
      (collected t task k).reverse := by
    unfold finish
    dsimp only
    split <;> rfl
  have htells := finish_tells hstop hdistinct
  refine ⟨finish task ⟨collected t task k, state, boundary⟩, reads, ?_, hreads, ?_, ?_, ?_,
    htells, ?_⟩
  · show (match traceLoop (.ofTasks t : Repository ε) max_chain task ∅ (collected t task 0) [] with
      | (found, reads) => (found.map (finish task), reads)) = _
    rw [hloop]
    rfl
  · rw [hids, List.nodup_reverse]
    exact collected_nodup hmembers hdistinct
  · rw [hids, List.getLast?_reverse]
    exact collected_head hpos hmembers
  · rw [hids, List.isChain_reverse]
    exact collected_chain hmembers hdistinct
  · constructor
    · intro hcomplete
      refine ⟨fun b hb => ?_, fun b hb => ?_, fun b hb => ?_, fun hb => ?_⟩
      · exact nomatch hcomplete.symm.trans (htells.cycle.mpr ⟨b, hb⟩)
      · exact nomatch hcomplete.symm.trans (htells.missing.mpr ⟨b, hb⟩)
      · exact nomatch hcomplete.symm.trans (htells.truncated.mpr ⟨b, hb⟩)
      · exact nomatch hcomplete.symm.trans (htells.mismatch.mpr hb)
    · rintro ⟨hcycle, hdangles, hoverlong, helse⟩
      cases hfinal : (finish task ⟨collected t task k, state, boundary⟩).state with
      | complete => rfl
      | cycle =>
        obtain ⟨b, hb⟩ := htells.cycle.mp hfinal
        exact absurd hb (hcycle b)
      | missingParent =>
        obtain ⟨b, hb⟩ := htells.missing.mp hfinal
        exact absurd hb (hdangles b)
      | truncated =>
        obtain ⟨b, hb⟩ := htells.truncated.mp hfinal
        exact absurd hb (hoverlong b)
      | rootMismatch => exact absurd (htells.mismatch.mp hfinal) helse

/-- A parent that is its own parent, with room for three ids. -/
theorem task_trace_exact_looped :
    0 < 3 ∧ ∃ trace reads,
      taskTrace (.ofTasks loopedTable : Repository Unit) (loopedTask 2 1 8) 3 =
        (.ok trace, reads) ∧ reads.length ≤ 2 ∧ trace.state = .cycle := by
  obtain ⟨trace, reads, hrun, hreads, -, -, -, htells, -⟩ :=
    task_trace_exact (ε := Unit) loopedTable (loopedTask 2 1 8) 3 (by decide)
  refine ⟨by decide, trace, reads, hrun, hreads, htells.cycle.mpr ⟨⟨1⟩, 2, by decide, ?_, ?_, rfl⟩⟩
  · rintro k hk ⟨j, hj, m, m', hm, hm', heq⟩
    obtain ⟨rfl, rfl⟩ : k = 1 ∧ j = 0 := by omega
    cases hm
    cases hm'
    revert heq
    decide
  · exact ⟨1, by decide, _, _, rfl, rfl, rfl⟩

end Observer

end GuiguBridge
