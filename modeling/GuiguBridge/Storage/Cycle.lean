import GuiguBridge.Storage.RowCodec

/-!
# The cycle gate of the task tree

`detect` climbs the `parent_task_id` chain of a task that is about to be submitted and reports the
first structural loop it finds (`src/src/storage/cycle.rs`).  It keeps no set of what it has seen:
the counter alone bounds it, also on a table whose parents form a cycle.

* `Repository` — the two reads of the gate, and the tables that answer them; `sqlite_reads`, the
  store is such a table;
* `walk`, `detect` — the gate, with the ancestors that it read; `detect_failedEvent`, its hits are
  about the task;
* `ancestorId` — **the chain of a table as the claims about it see it**: link `n + 1` of a task, a
  last one that names no stored row included;
* `walk_climbs` — one iteration of the loop moves one link up the chain;
* `detect_exact` — the verdict, for every table.
-/

namespace GuiguBridge

open Relational

/-! ### Limits and hits -/

structure CycleLimits where
  max_chain : UInt32
  max_subtasks : UInt32
  deriving DecidableEq

/-- `DEFAULT_MAX_SUBTASKS`. -/
def defaultMaxSubtasks : UInt32 := 32

/-- `CycleLimits::from_bridge`, of `max_task_depth`. -/
def CycleLimits.fromBridge (max_task_depth : UInt32) : CycleLimits :=
  ⟨max_task_depth, defaultMaxSubtasks⟩

inductive CycleKind where
  | visitedAgent | chainTooLong | tooManySubtasks
  deriving DecidableEq

structure CycleHit where
  kind : CycleKind
  task_id : TaskId
  root_task_id : TaskId
  parent_task_id : Option TaskId
  from_agent : EndpointId
  to_agent : EndpointId
  observed : UInt32
  limit : UInt32
  revisited : Option EndpointId
  deriving DecidableEq

/-- `hit`. -/
def cycleHit (task : AgentTask) (parent : TaskId) (kind : CycleKind) (observed limit : UInt32)
    (revisited : Option EndpointId) : CycleHit :=
  { kind := kind, task_id := task.task_id, root_task_id := task.root_task_id,
    parent_task_id := some parent, from_agent := task.from_agent, to_agent := task.to_agent,
    observed := observed, limit := limit, revisited := revisited }

def CycleKind.name : CycleKind → String
  | .visitedAgent => "visited-agent"
  | .chainTooLong => "chain-too-long"
  | .tooManySubtasks => "too-many-subtasks"

section

variable [Externals]

/-- `CycleHit::reason`. -/
def CycleHit.reason (h : CycleHit) : String :=
  "visit cycle detected (hit: " ++ h.kind.name ++ "): task_id=" ++
    Externals.uuidText h.task_id.uuid ++ " root_task_id=" ++
    Externals.uuidText h.root_task_id.uuid ++ " parent_task_id=" ++
    (match h.parent_task_id with
      | none => "none"
      | some parent => Externals.uuidText parent.uuid) ++
    " from_agent=" ++ Externals.uuidText h.from_agent.uuid ++
    " to_agent=" ++ Externals.uuidText h.to_agent.uuid ++
    (match h.kind with
      | .visitedAgent =>
        " chain=" ++ toString h.observed ++ " (max " ++ toString h.limit ++ ") revisited=" ++
          (match h.revisited with
            | none => "unknown"
            | some agent => Externals.uuidText agent.uuid)
      | .chainTooLong => " chain=" ++ toString h.observed ++ " (max " ++ toString h.limit ++ ")"
      | .tooManySubtasks =>
        " parent_children=" ++ toString h.observed ++ " (max " ++ toString h.limit ++ ")")

/-- `CYCLE_FAILED_SEQ`. -/
def cycleFailedSeq : Nat := 2

/-- `CycleHit::failed_event`; `id` is the fresh identity of the event. -/
def CycleHit.failedEvent (h : CycleHit) (id : EventId) (now : DateTime) : TaskEvent :=
  { id := id, task_id := h.task_id, seq := cycleFailedSeq, status := .failed, timestamp := now,
    payload := .failed h.reason }

end

/-! ### The reads of the gate -/

/-- The two reads of `Repository` that the gate makes. -/
structure Repository (ε : Type) where
  getTask : TaskId → Except ε (Option AgentTask)
  childTasks : TaskId → Except ε (List TaskId)

/-- A finite table of tasks. -/
abbrev TaskTable := Table AgentTask.task_id

/-- `SELECT task_id FROM tasks WHERE parent_task_id = ? ORDER BY task_id ASC`. -/
def TaskTable.children (t : TaskTable) (parent : TaskId) : List TaskId :=
  ((t.rows.filter fun task => decide (task.parent_task_id = some parent)).map
    AgentTask.task_id).mergeSort fun a b => decide (a.uuid.toNat ≤ b.uuid.toNat)

/-- The repository over a table of tasks. -/
def Repository.ofTasks {ε : Type} (t : TaskTable) : Repository ε where
  getTask task_id := .ok (t.get task_id)
  childTasks parent := .ok (t.children parent)

section

variable [Externals]

/-- The repository over the store; a row that does not decode is `malformed`. -/
def Repository.sqlite {ε : Type} (malformed : ε) (db : Db) : Repository ε where
  getTask task_id :=
    match GuiguBridge.getTask db task_id with
    | none => .error malformed
    | some task => .ok task
  childTasks parent :=
    .ok (((db.tasks.rows.filter fun row => decide (row.parent_task_id = some parent)).map
      TaskRow.task_id).mergeSort fun a b => decide (a.uuid.toNat ≤ b.uuid.toNat))

theorem taskFromRow_ids {row : TaskRow} {task : AgentTask} (h : taskFromRow row = some task) :
    task.task_id = row.task_id ∧ task.parent_task_id = row.parent_task_id := by
  simp only [taskFromRow, Option.bind_eq_bind, Option.bind_eq_some_iff, Option.some.injEq] at h
  obtain ⟨priority, -, depth, -, hops, -, deadline, -, rfl⟩ := h
  exact ⟨rfl, rfl⟩

/-- The tasks that the store holds. -/
def Db.taskTable (db : Db) : TaskTable where
  rows := db.tasks.rows.filterMap taskFromRow
  nodup := by
    have hkeys : ((db.tasks.rows.filterMap taskFromRow).map AgentTask.task_id).Sublist
        (db.tasks.rows.map TaskRow.task_id) := by
      induction db.tasks.rows with
      | nil => exact .slnil
      | cons row rows ih =>
        cases h : taskFromRow row with
        | none =>
          rw [List.filterMap_cons_none h]
          exact ih.cons _
        | some task =>
          rw [List.filterMap_cons_some h, List.map_cons, List.map_cons, (taskFromRow_ids h).1]
          exact ih.cons_cons _
    exact db.tasks.nodup.sublist hkeys

/-- **Where every row decodes, the store answers as the table of its tasks does.** -/
theorem sqlite_reads {ε : Type} (malformed : ε) {db : Db}
    (h : ∀ row ∈ db.tasks.rows, (taskFromRow row).isSome) :
    Repository.sqlite malformed db = Repository.ofTasks db.taskTable := by
  have htask : ∀ task_id, (Repository.sqlite malformed db).getTask task_id =
      (Repository.ofTasks db.taskTable : Repository ε).getTask task_id := by
    intro task_id
    show (match GuiguBridge.getTask db task_id with
      | none => .error malformed
      | some task => .ok task) = Except.ok (db.taskTable.get task_id)
    unfold GuiguBridge.getTask
    cases hget : db.tasks.get task_id with
    | none =>
      have hnone : db.taskTable.get task_id = none := by
        rw [Table.get_eq_none_iff] at hget ⊢
        intro task htask
        obtain ⟨row, hrow, hread⟩ := List.mem_filterMap.mp htask
        rw [(taskFromRow_ids hread).1]
        exact hget row hrow
      rw [hnone]
    | some row =>
      obtain ⟨hrow, hkey⟩ := (Table.get_eq_some_iff _ _ _).mp hget
      obtain ⟨task, hread⟩ := Option.isSome_iff_exists.mp (h row hrow)
      have hsome : db.taskTable.get task_id = some task :=
        (Table.get_eq_some_iff _ _ _).mpr
          ⟨List.mem_filterMap.mpr ⟨row, hrow, hread⟩, (taskFromRow_ids hread).1.trans hkey⟩
      rw [hsome]
      simp only [hread, Option.map_some]
  have hchildren : ∀ parent, (db.taskTable.rows.filter fun task =>
        decide (task.parent_task_id = some parent)).map AgentTask.task_id =
      (db.tasks.rows.filter fun row => decide (row.parent_task_id = some parent)).map
        TaskRow.task_id := by
    intro parent
    show ((db.tasks.rows.filterMap taskFromRow).filter _).map _ = _
    generalize db.tasks.rows = rows at h
    induction rows with
    | nil => rfl
    | cons row rows ih =>
      obtain ⟨task, hread⟩ := Option.isSome_iff_exists.mp (h row List.mem_cons_self)
      obtain ⟨hid, hparent⟩ := taskFromRow_ids hread
      have ih := ih fun r hr => h r (List.mem_cons_of_mem _ hr)
      rw [List.filterMap_cons_some hread, List.filter_cons, List.filter_cons, hparent]
      split
      · rw [List.map_cons, List.map_cons, ih, hid]
      · exact ih
  have hchild : (Repository.sqlite malformed db).childTasks =
      (Repository.ofTasks db.taskTable : Repository ε).childTasks := by
    funext parent
    show Except.ok _ = Except.ok (TaskTable.children db.taskTable parent)
    unfold TaskTable.children
    rw [hchildren parent]
  exact congr (congrArg Repository.mk (funext htask)) hchild

end

/-! ### The gate -/

variable {ε : Type}

/-- The loop of `detect`: `none` where it has had its `fuel`, `.ok none` where it ends without a
hit.  The list grows by the ancestors that it reads. -/
def walk (repository : Repository ε) (task : AgentTask) (parent : TaskId) (limits : CycleLimits) :
    Nat → Option TaskId → UInt32 → List TaskId →
      Option (Except ε (Option CycleHit)) × List TaskId
  | _, none, _, reads => (some (.ok none), reads)
  | 0, some _, _, reads => (none, reads)
  | fuel + 1, some ancestor_id, steps, reads =>
    let steps := steps + 1
    let reads := reads ++ [ancestor_id]
    match repository.getTask ancestor_id with
    | .error e => (some (.error e), reads)
    | .ok ancestor =>
      if ancestor.map AgentTask.to_agent = some task.to_agent then
        (some (.ok (some (cycleHit task parent .visitedAgent steps limits.max_chain
          (some task.to_agent)))), reads)
      -- the ceiling is decided after the read: a revisit outranks it
      else if limits.max_chain < steps then
        (some (.ok (some (cycleHit task parent .chainTooLong steps limits.max_chain none))), reads)
      else
        match ancestor with
        | none => (some (.ok none), reads)
        | some ancestor => walk repository task parent limits fuel ancestor.parent_task_id steps reads

/-- `u32::try_from(n).unwrap_or(u32::MAX)`. -/
def u32Saturating (n : Nat) : UInt32 := UInt32.ofNat (min n (2 ^ 32 - 1))

/-- The check of `detect` after its loop. -/
def countSubtasks (repository : Repository ε) (task : AgentTask) (parent : TaskId)
    (limits : CycleLimits) : Except ε (Option CycleHit) :=
  match repository.childTasks parent with
  | .error e => .error e
  | .ok children =>
    let count := u32Saturating children.length
    if limits.max_subtasks ≤ count then
      .ok (some (cycleHit task parent .tooManySubtasks count limits.max_subtasks none))
    else .ok none

/-- `detect`, for at most `fuel` iterations of its loop, with the ancestors that it read. -/
def detect (repository : Repository ε) (fuel : Nat) (task : AgentTask) (limits : CycleLimits) :
    Option (Except ε (Option CycleHit)) × List TaskId :=
  match task.parent_task_id with
  | none => (some (.ok none), [])
  | some parent =>
    match walk repository task parent limits fuel (some parent) 0 [] with
    | (some (.ok none), reads) => (some (countSubtasks repository task parent limits), reads)
    | found => found

/-- A hit of the loop is about the task that was asked for. -/
theorem walk_names (repository : Repository ε) {task : AgentTask} {parent : TaskId}
    {limits : CycleLimits} {found : CycleHit} (fuel : Nat) :
    ∀ (cursor : Option TaskId) (steps : UInt32) (reads : List TaskId),
      (walk repository task parent limits fuel cursor steps reads).1 = some (.ok (some found)) →
      ∃ kind observed limit revisited, found = cycleHit task parent kind observed limit revisited := by
  induction fuel with
  | zero =>
    intro cursor steps reads h
    cases cursor <;> cases h
  | succ fuel ih =>
    intro cursor steps reads h
    cases cursor with
    | none => cases h
    | some ancestor_id =>
      rw [walk] at h
      split at h
      · cases h
      · split at h
        · cases h
          exact ⟨_, _, _, _, rfl⟩
        · split at h
          · cases h
            exact ⟨_, _, _, _, rfl⟩
          · split at h
            · cases h
            · exact ih _ _ _ h

/-- **The event that blocks a task is that task's**, whatever the repository answers. -/
theorem detect_failedEvent [Externals] (repository : Repository ε) {fuel : Nat} {task : AgentTask}
    {limits : CycleLimits} {found : CycleHit}
    (h : (detect repository fuel task limits).1 = some (.ok (some found))) (id : EventId)
    (now : DateTime) :
    found.parent_task_id = task.parent_task_id ∧
      (found.failedEvent id now).task_id = task.task_id := by
  cases hparent : task.parent_task_id with
  | none =>
    rw [detect, hparent] at h
    cases h
  | some parent =>
    rw [detect, hparent] at h
    dsimp only at h
    split at h
    · unfold countSubtasks at h
      split at h
      · cases h
      · dsimp only at h
        split at h
        · cases h
          exact ⟨rfl, rfl⟩
        · cases h
    · obtain ⟨_, _, _, _, rfl⟩ := walk_names repository fuel _ _ _ h
      exact ⟨rfl, rfl⟩

/-! ### The chain of a table -/

/-- What link `n + 1` of the chain names. -/
def ancestorId (t : TaskTable) (parent : TaskId) : Nat → Option TaskId
  | 0 => some parent
  | n + 1 => ((ancestorId t parent n).bind t.get).bind AgentTask.parent_task_id

/-- Ancestor `n + 1` is stored and was given to the agent of the task. -/
def Revisits (t : TaskTable) (task : AgentTask) (parent : TaskId) (n : Nat) : Prop :=
  ((ancestorId t parent n).bind t.get).map AgentTask.to_agent = some task.to_agent

instance (t : TaskTable) (task : AgentTask) (parent : TaskId) (n : Nat) :
    Decidable (Revisits t task parent n) :=
  inferInstanceAs (Decidable (_ = _))

/-- A chain that has ended has no later link. -/
theorem ancestorId_none {t : TaskTable} {parent : TaskId} {n m : Nat} (hnm : n ≤ m)
    (h : ancestorId t parent n = none) : ancestorId t parent m = none := by
  induction hnm with
  | refl => exact h
  | step _ ih =>
    show ((ancestorId t parent _).bind t.get).bind _ = none
    rw [ih]
    rfl

theorem not_revisits_none {t : TaskTable} {task : AgentTask} {parent : TaskId} {n : Nat}
    (h : (ancestorId t parent n).bind t.get = none) : ¬ Revisits t task parent n := by
  unfold Revisits
  rw [h]
  nofun

/-! ### What the gate decides -/

/-- The hit of a revisit at ancestor `n + 1`. -/
def visitedHit (task : AgentTask) (parent : TaskId) (limits : CycleLimits) (n : Nat) : CycleHit :=
  cycleHit task parent .visitedAgent (UInt32.ofNat (n + 1)) limits.max_chain (some task.to_agent)

/-- The hit of a chain that has more links than the ceiling. -/
def tooLongHit (task : AgentTask) (parent : TaskId) (limits : CycleLimits) : CycleHit :=
  cycleHit task parent .chainTooLong (UInt32.ofNat (limits.max_chain.toNat + 1)) limits.max_chain
    none

/-- How the loop ends. -/
inductive Climbed (t : TaskTable) (task : AgentTask) (parent : TaskId) (limits : CycleLimits) :
    Option (Except ε (Option CycleHit)) → Prop where
  | visited (n : Nat) (hn : n ≤ limits.max_chain.toNat) (hvisit : Revisits t task parent n)
      (hnearest : ∀ k < n, ¬ Revisits t task parent k) :
      Climbed t task parent limits (some (.ok (some (visitedHit task parent limits n))))
  | tooLong (hnone : ∀ k ≤ limits.max_chain.toNat, ¬ Revisits t task parent k)
      (hlink : (ancestorId t parent limits.max_chain.toNat).isSome) :
      Climbed t task parent limits (some (.ok (some (tooLongHit task parent limits))))
  | passed (hnone : ∀ k ≤ limits.max_chain.toNat, ¬ Revisits t task parent k)
      (hlink : ancestorId t parent limits.max_chain.toNat = none) :
      Climbed t task parent limits (some (.ok none))

/-- **One iteration moves one link up the chain**, so the loop ends as the chain does, within the
iterations that the ceiling leaves it. -/
theorem walk_climbs {t : TaskTable} {task : AgentTask} {parent : TaskId} {limits : CycleLimits}
    (hlimit : limits.max_chain.toNat < 2 ^ 32 - 1) (fuel : Nat) :
    ∀ (n : Nat) (reads : List TaskId), n ≤ limits.max_chain.toNat →
      limits.max_chain.toNat < n + fuel → (∀ k < n, ¬ Revisits t task parent k) →
      Climbed (ε := ε) t task parent limits
          (walk (.ofTasks t) task parent limits fuel (ancestorId t parent n) (UInt32.ofNat n)
            reads).1 ∧
        (walk (.ofTasks t : Repository ε) task parent limits fuel (ancestorId t parent n)
          (UInt32.ofNat n) reads).2.length ≤ reads.length + (limits.max_chain.toNat + 1 - n) := by
  induction fuel with
  | zero =>
    intro n reads hn hfuel _
    omega
  | succ fuel ih =>
    intro n reads hn hfuel hbefore
    cases hlink : ancestorId t parent n with
    | none =>
      rw [walk]
      refine ⟨.passed ?_ (ancestorId_none hn hlink), Nat.le_add_right _ _⟩
      intro k hk
      by_cases hkn : k < n
      · exact hbefore k hkn
      · refine not_revisits_none ?_
        rw [ancestorId_none (Nat.le_of_not_lt hkn) hlink]
        rfl
    | some ancestor_id =>
      have hsteps : UInt32.ofNat n + 1 = UInt32.ofNat (n + 1) := (UInt32.ofNat_add n 1).symm
      have hover : limits.max_chain < UInt32.ofNat (n + 1) ↔ limits.max_chain.toNat ≤ n := by
        have hlt : n + 1 < UInt32.size := by
          show n + 1 < 4294967296
          omega
        rw [UInt32.lt_iff_toNat_lt, UInt32.toNat_ofNat_of_lt' hlt, Nat.lt_succ_iff]
      have hread : (ancestorId t parent n).bind t.get = t.get ancestor_id := by
        rw [hlink]
        rfl
      have hlength : (reads ++ [ancestor_id]).length = reads.length + 1 := by simp
      rw [walk, hsteps]
      show Climbed t task parent limits (Prod.fst (if (t.get ancestor_id).map _ = _ then _ else _)) ∧
        List.length (Prod.snd (if (t.get ancestor_id).map _ = _ then _ else _)) ≤ _
      by_cases hvisit : Revisits t task parent n
      · have hagent : (t.get ancestor_id).map AgentTask.to_agent = some task.to_agent := by
          rw [← hread]
          exact hvisit
        rw [if_pos hagent]
        refine ⟨.visited n hn hvisit hbefore, ?_⟩
        show (reads ++ [ancestor_id]).length ≤ _
        omega
      · have hagent : ¬ (t.get ancestor_id).map AgentTask.to_agent = some task.to_agent := by
          rw [← hread]
          exact hvisit
        have hnone : ∀ k < n + 1, ¬ Revisits t task parent k := by
          intro k hk
          rcases Nat.lt_succ_iff_lt_or_eq.mp hk with hk | rfl
          · exact hbefore k hk
          · exact hvisit
        rw [if_neg hagent]
        by_cases hend : limits.max_chain.toNat ≤ n
        · obtain rfl : n = limits.max_chain.toNat := Nat.le_antisymm hn hend
          rw [if_pos (hover.mpr hend)]
          refine ⟨.tooLong (fun k hk => hnone k (Nat.lt_succ_of_le hk)) ?_, ?_⟩
          · rw [hlink]
            rfl
          · show (reads ++ [ancestor_id]).length ≤ _
            omega
        · rw [if_neg fun h => hend (hover.mp h)]
          cases hstored : t.get ancestor_id with
          | none =>
            have hnext : ancestorId t parent (n + 1) = none := by
              show ((ancestorId t parent n).bind t.get).bind _ = none
              rw [hread, hstored]
              rfl
            refine ⟨.passed ?_ (ancestorId_none (by omega) hnext), ?_⟩
            · intro k hk
              by_cases hkn : k < n + 1
              · exact hnone k hkn
              · refine not_revisits_none ?_
                rw [ancestorId_none (Nat.le_of_not_lt hkn) hnext]
                rfl
            · show (reads ++ [ancestor_id]).length ≤ _
              omega
          | some ancestor =>
            have hnext : ancestorId t parent (n + 1) = ancestor.parent_task_id := by
              show ((ancestorId t parent n).bind t.get).bind _ = _
              rw [hread, hstored]
              rfl
            obtain ⟨hclimbed, hreads⟩ :=
              ih (n + 1) (reads ++ [ancestor_id]) (by omega) (by omega) hnone
            rw [hnext] at hclimbed hreads
            refine ⟨hclimbed, hreads.trans ?_⟩
            omega

theorem u32Saturating_le (limit : UInt32) (n : Nat) :
    limit ≤ u32Saturating n ↔ limit.toNat ≤ n := by
  have hlimit := limit.toNat_lt
  have hlt : min n (2 ^ 32 - 1) < UInt32.size := by
    show min n (2 ^ 32 - 1) < 4294967296
    omega
  rw [UInt32.le_iff_toNat_le, u32Saturating, UInt32.toNat_ofNat_of_lt' hlt]
  omega

/-- The stored children of a parent. -/
def TaskTable.childCount (t : TaskTable) (parent : TaskId) : Nat :=
  t.rows.countP fun task => decide (task.parent_task_id = some parent)

theorem children_length (t : TaskTable) (parent : TaskId) :
    (t.children parent).length = t.childCount parent := by
  rw [TaskTable.children, List.length_mergeSort, List.length_map, TaskTable.childCount,
    List.countP_eq_length_filter]

/-- **The gate is exact.**  For every table, one with a cycle of parents or with a parent that is
not stored included, and every ceiling below the last `u32`, the gate returns, and reads at most
`max_chain + 1` ancestors.  Where one of these was given to the agent of the task, it reports the
nearest with its distance.  Where none was, it reports a chain of more than `max_chain` links;
else a parent that has `max_subtasks` children or more; else nothing. -/
theorem detect_exact (t : TaskTable) (task : AgentTask) (parent : TaskId) (limits : CycleLimits)
    (hparent : task.parent_task_id = some parent)
    (hlimit : limits.max_chain.toNat < 2 ^ 32 - 1) (fuel : Nat)
    (hfuel : limits.max_chain.toNat < fuel) :
    (detect (.ofTasks t : Repository ε) fuel task limits).2.length ≤
        limits.max_chain.toNat + 1 ∧
      ∃ found, (detect (.ofTasks t : Repository ε) fuel task limits).1 = some (.ok found) ∧
        (∀ n ≤ limits.max_chain.toNat, Revisits t task parent n →
          (∀ k < n, ¬ Revisits t task parent k) →
          found = some (visitedHit task parent limits n)) ∧
        ((∀ n ≤ limits.max_chain.toNat, ¬ Revisits t task parent n) →
          ((ancestorId t parent limits.max_chain.toNat).isSome →
            found = some (tooLongHit task parent limits)) ∧
          (ancestorId t parent limits.max_chain.toNat = none →
            (limits.max_subtasks.toNat ≤ t.childCount parent →
              found = some (cycleHit task parent .tooManySubtasks
                (u32Saturating (t.childCount parent)) limits.max_subtasks none)) ∧
            (t.childCount parent < limits.max_subtasks.toNat → found = none))) := by
  obtain ⟨hclimbed, hreads⟩ := walk_climbs (ε := ε) hlimit fuel 0 [] (Nat.zero_le _)
    (by omega) (nofun : ∀ k < 0, ¬ Revisits t task parent k)
  have hdetect : detect (.ofTasks t : Repository ε) fuel task limits =
      match walk (.ofTasks t : Repository ε) task parent limits fuel (some parent) 0 [] with
      | (some (.ok none), reads) =>
        (some (countSubtasks (.ofTasks t) task parent limits), reads)
      | found => found := by
    unfold detect
    rw [hparent]
  change Climbed t task parent limits
    (walk (.ofTasks t : Repository ε) task parent limits fuel (some parent) 0 []).1 at hclimbed
  change (walk (.ofTasks t : Repository ε) task parent limits fuel (some parent) 0 []).2.length ≤ _
    at hreads
  rw [hdetect]
  generalize walk (.ofTasks t : Repository ε) task parent limits fuel (some parent) 0 [] = found
    at hclimbed hreads
  obtain ⟨answer, reads⟩ := found
  have hlength : reads.length ≤ limits.max_chain.toNat + 1 := by simpa using hreads
  cases hclimbed with
  | visited n hn hvisit hnearest =>
    refine ⟨hlength, _, rfl, ?_, fun hnone => absurd hvisit (hnone n hn)⟩
    intro m _ hm hfirst
    have hmn : m = n := by
      rcases Nat.lt_trichotomy m n with hlt | rfl | hlt
      · exact absurd hm (hnearest m hlt)
      · rfl
      · exact absurd hvisit (hfirst n hlt)
    rw [hmn]
  | tooLong hnone hlink =>
    refine ⟨hlength, _, rfl, fun n hn hvisit => absurd hvisit (hnone n hn), fun _ => ⟨fun _ => rfl, ?_⟩⟩
    intro hno
    rw [hno] at hlink
    cases hlink
  | passed hnone hlink =>
    refine ⟨hlength, ?_⟩
    have hcount := u32Saturating_le limits.max_subtasks (t.childCount parent)
    have hchildren : countSubtasks (.ofTasks t : Repository ε) task parent limits =
        if limits.max_subtasks ≤ u32Saturating (t.childCount parent) then
          .ok (some (cycleHit task parent .tooManySubtasks
            (u32Saturating (t.childCount parent)) limits.max_subtasks none))
        else .ok none := by
      rw [← children_length]
      rfl
    have hsome : ¬ (ancestorId t parent limits.max_chain.toNat).isSome := by
      rw [hlink]
      decide
    show ∃ found, some (countSubtasks (.ofTasks t) task parent limits) = some (.ok found) ∧ _
    rw [hchildren]
    by_cases hfull : limits.max_subtasks.toNat ≤ t.childCount parent
    · rw [if_pos (hcount.mpr hfull)]
      refine ⟨_, rfl, fun n hn hvisit => absurd hvisit (hnone n hn),
        fun _ => ⟨fun h => absurd h hsome, fun _ => ⟨fun _ => rfl, fun h => ?_⟩⟩⟩
      exact absurd hfull (Nat.not_le_of_lt h)
    · rw [if_neg fun h => hfull (hcount.mp h)]
      exact ⟨_, rfl, fun n hn hvisit => absurd hvisit (hnone n hn),
        fun _ => ⟨fun h => absurd h hsome, fun _ => ⟨fun h => absurd h hfull, fun _ => rfl⟩⟩⟩

/-- A task whose parent is its own parent; each was given to another agent. -/
def loopedTask (id parent : Uuid) (agent : Uuid) : AgentTask :=
  { task_id := ⟨id⟩, root_task_id := ⟨id⟩, parent_task_id := some ⟨parent⟩, from_agent := ⟨0⟩,
    to_agent := ⟨agent⟩, conversation_id := ⟨0⟩, reply_to := none, text := "t",
    priority := .default, depth := 0, hops := 0, deadline := none, version := 0 }

/-- A parent that is its own parent. -/
def loopedTable : TaskTable where
  rows := [loopedTask 1 1 7]
  nodup := by decide

/-- The gate on a parent that is its own parent: a child of the same agent revisits it at once,
and the chain of any other child is too long. -/
theorem detect_exact_looped :
    (detect (.ofTasks loopedTable : Repository Unit) 9 (loopedTask 2 1 8)
        (CycleLimits.fromBridge 8)).1 =
      some (.ok (some (tooLongHit (loopedTask 2 1 8) ⟨1⟩ (CycleLimits.fromBridge 8)))) ∧
    (detect (.ofTasks loopedTable : Repository Unit) 9 (loopedTask 2 1 7)
        (CycleLimits.fromBridge 8)).1 =
      some (.ok (some (visitedHit (loopedTask 2 1 7) ⟨1⟩ (CycleLimits.fromBridge 8) 0))) := by
  constructor
  · obtain ⟨-, found, hfound, -, hlong⟩ := detect_exact (ε := Unit) loopedTable (loopedTask 2 1 8)
      ⟨1⟩ (CycleLimits.fromBridge 8) rfl (by decide) 9 (by decide)
    have hnone : ∀ n ≤ (CycleLimits.fromBridge 8).max_chain.toNat,
        ¬ Revisits loopedTable (loopedTask 2 1 8) ⟨1⟩ n := by decide
    rw [hfound, (hlong hnone).1 (by decide)]
  · obtain ⟨-, found, hfound, hvisited, -⟩ := detect_exact (ε := Unit) loopedTable
      (loopedTask 2 1 7) ⟨1⟩ (CycleLimits.fromBridge 8) rfl (by decide) 9 (by decide)
    rw [hfound, hvisited 0 (by decide) (by decide) nofun]

end GuiguBridge
