import GuiguBridge.Models
import GuiguBridge.Lib.Eviction

/-!
# The reply contexts of running tasks

`ReplyRegistry` remembers, for each task admitted from a room, where its terminal reply goes.  It
is a map with a ceiling, and a queue of its keys says which entry makes room.  `insert` moves map
and queue, `take` moves the map alone.

* `evict`, `insert`, `take` — the operations; `none` is the `while` that finds the queue empty
  and never ends;
* `run_bounded` — **whatever the calls, the loop ends and the map stays under its ceiling**;
* `Observed` — the registry beside the number of the call that made each entry live;
* `in_order_iff` — **map and queue stay in step, and the oldest entry makes room, in exactly the
  runs whose `take` calls find nothing**;
* `rounds_leave` — a queue of any length over an empty map.
-/

namespace GuiguBridge

open Relational

/-- Where a terminal reply goes. -/
structure ReplyContext where
  room_id : String
  thread_root : Option String
  event_id : String
  deriving DecidableEq

/-- An entry of the map. -/
structure ReplyEntry where
  task : TaskId
  context : ReplyContext
  deriving DecidableEq

structure ReplyRegistry where
  capacity : Nat
  capacity_pos : 0 < capacity
  map : Table ReplyEntry.task
  order : List TaskId

namespace ReplyRegistry

/-- `ReplyRegistry::new`, past its assertion. -/
def new (capacity : Nat) (h : 0 < capacity) : ReplyRegistry := ⟨capacity, h, Table.empty, []⟩

/-- The `while` of `insert`.  With entries to spare and nothing queued it spins. -/
def evict (capacity : Nat) :
    Table ReplyEntry.task → List TaskId → Option (Table ReplyEntry.task × List TaskId)
  | map, [] => if capacity < map.rows.length then none else some (map, [])
  | map, old :: order =>
    if capacity < map.rows.length then evict capacity (map.remove old) order
    else some (map, old :: order)

/-- A task without an entry is queued. -/
def enqueue (task : TaskId) (s : ReplyRegistry) : List TaskId :=
  if (s.map.get task).isSome then s.order else s.order ++ [task]

def insert (task : TaskId) (context : ReplyContext) (s : ReplyRegistry) : Option ReplyRegistry :=
  (evict s.capacity (s.map.put ⟨task, context⟩) (s.enqueue task)).map fun (map, order) =>
    { s with map, order }

/-- The queue is not told. -/
def take (task : TaskId) (s : ReplyRegistry) : Option ReplyContext × ReplyRegistry :=
  ((s.map.get task).map ReplyEntry.context, { s with map := s.map.remove task })

def get (task : TaskId) (s : ReplyRegistry) : Option ReplyContext :=
  (s.map.get task).map ReplyEntry.context

/-- The map has an entry for the task. -/
def Live (s : ReplyRegistry) (task : TaskId) : Prop := ∃ r ∈ s.map.rows, r.task = task

theorem live_iff_get {s : ReplyRegistry} {task : TaskId} :
    s.Live task ↔ (s.map.get task).isSome = true := by
  rw [Option.isSome_iff_exists]
  constructor
  · rintro ⟨r, hr, hkey⟩
    exact ⟨r, (Table.get_eq_some_iff _ _ _).mpr ⟨hr, hkey⟩⟩
  · rintro ⟨r, hr⟩
    exact ⟨r, (Table.get_eq_some_iff _ _ _).mp hr⟩

instance (s : ReplyRegistry) (task : TaskId) : Decidable (s.Live task) :=
  decidable_of_iff _ live_iff_get.symm

theorem get_none_of_not_live {s : ReplyRegistry} {task : TaskId} (h : ¬ s.Live task) :
    s.map.get task = none :=
  (Table.get_eq_none_iff _ _).mpr fun r hr hkey => h ⟨r, hr, hkey⟩

theorem live_put {m : Table ReplyEntry.task} {x : ReplyEntry} {t : TaskId} :
    (∃ r ∈ (m.put x).rows, r.task = t) ↔ t = x.task ∨ ∃ r ∈ m.rows, r.task = t := by
  constructor
  · rintro ⟨r, hr, rfl⟩
    rcases Table.mem_put.1 hr with rfl | ⟨hr, -⟩
    · exact Or.inl rfl
    · exact Or.inr ⟨r, hr, rfl⟩
  · rintro (rfl | ⟨r, hr, rfl⟩)
    · exact ⟨x, Table.mem_put.2 (Or.inl rfl), rfl⟩
    · by_cases hkey : r.task = x.task
      · exact ⟨x, Table.mem_put.2 (Or.inl rfl), hkey.symm⟩
      · exact ⟨r, Table.mem_put.2 (Or.inr ⟨hr, hkey⟩), rfl⟩

theorem live_remove {m : Table ReplyEntry.task} {k t : TaskId} :
    (∃ r ∈ (m.remove k).rows, r.task = t) ↔ t ≠ k ∧ ∃ r ∈ m.rows, r.task = t := by
  constructor
  · rintro ⟨r, hr, rfl⟩
    obtain ⟨hr, hne⟩ := Table.mem_remove.1 hr
    exact ⟨hne, r, hr, rfl⟩
  · rintro ⟨hne, r, hr, rfl⟩
    exact ⟨r, Table.mem_remove.2 ⟨hr, hne⟩, rfl⟩

/-! ### The loop of `insert` -/

theorem evict_of_le {capacity : Nat} {map : Table ReplyEntry.task} (order : List TaskId)
    (h : map.rows.length ≤ capacity) : evict capacity map order = some (map, order) := by
  cases order with
  | nil => rw [evict, if_neg (Nat.not_lt.2 h)]
  | cons old order => rw [evict, if_neg (Nat.not_lt.2 h)]

theorem evict_of_lt {capacity : Nat} {map : Table ReplyEntry.task} {old : TaskId} (order : List TaskId)
    (h : capacity < map.rows.length) :
    evict capacity map (old :: order) = evict capacity (map.remove old) order := by
  rw [evict, if_pos h]

/-- The loop ends as long as every entry is queued, and leaves every entry queued. -/
theorem evict_bounded (capacity : Nat) (order : List TaskId) (map : Table ReplyEntry.task)
    (h : ∀ r ∈ map.rows, r.task ∈ order) :
    ∃ map' order', evict capacity map order = some (map', order') ∧
      map'.rows.length ≤ capacity ∧ ∀ r ∈ map'.rows, r.task ∈ order' := by
  induction order generalizing map with
  | nil =>
    have hnil : map.rows = [] := List.eq_nil_iff_forall_not_mem.mpr fun r hr => nomatch h r hr
    have hle : map.rows.length ≤ capacity := by
      rw [hnil]
      exact Nat.zero_le _
    exact ⟨map, [], evict_of_le [] hle, hle, h⟩
  | cons old order ih =>
    by_cases hle : map.rows.length ≤ capacity
    · exact ⟨map, old :: order, evict_of_le _ hle, hle, h⟩
    · rw [evict_of_lt order (Nat.not_le.mp hle)]
      refine ih (map.remove old) ?_
      intro r hr
      obtain ⟨hr, hne⟩ := Table.mem_remove.1 hr
      exact (List.mem_cons.mp (h r hr)).resolve_left hne

theorem enqueue_of_live {s : ReplyRegistry} {task : TaskId} (h : s.Live task) :
    s.enqueue task = s.order :=
  if_pos (live_iff_get.1 h)

theorem enqueue_of_not_live {s : ReplyRegistry} {task : TaskId} (h : ¬ s.Live task) :
    s.enqueue task = s.order ++ [task] :=
  if_neg fun hsome => h (live_iff_get.2 hsome)

theorem insert_of_evict {s : ReplyRegistry} {task : TaskId} {context : ReplyContext}
    {map : Table ReplyEntry.task} {order : List TaskId}
    (h : evict s.capacity (s.map.put ⟨task, context⟩) (s.enqueue task) = some (map, order)) :
    s.insert task context = some { s with map, order } := by
  unfold insert
  rw [h]
  rfl

/-- What the map holds before the loop: the new entry and the others. -/
theorem put_queued {s : ReplyRegistry} {task : TaskId} {context : ReplyContext}
    (h : ∀ r ∈ s.map.rows, r.task ∈ s.order) :
    ∀ r ∈ (s.map.put ⟨task, context⟩).rows, r.task ∈ s.enqueue task := by
  intro r hr
  by_cases hlive : s.Live task
  · rw [enqueue_of_live hlive]
    rcases Table.mem_put.1 hr with rfl | ⟨hr, -⟩
    · obtain ⟨old, hold, heq⟩ := hlive
      have hmem := h old hold
      rw [heq] at hmem
      exact hmem
    · exact h r hr
  · rw [enqueue_of_not_live hlive, List.mem_append, List.mem_singleton]
    rcases Table.mem_put.1 hr with rfl | ⟨hr, -⟩
    · exact Or.inr rfl
    · exact Or.inl (h r hr)

/-! ### Runs -/

inductive Call where
  | insert (task : TaskId) (context : ReplyContext)
  | take (task : TaskId)
  deriving DecidableEq

def step (s : ReplyRegistry) : Call → Option ReplyRegistry
  | .insert task context => s.insert task context
  | .take task => some (s.take task).2

def run (s : ReplyRegistry) (calls : List Call) : Option ReplyRegistry := calls.foldlM step s

/-- Under the ceiling, and every entry is queued. -/
structure Bounded (s : ReplyRegistry) : Prop where
  len : s.map.rows.length ≤ s.capacity
  queued : ∀ r ∈ s.map.rows, r.task ∈ s.order

theorem step_bounded {s : ReplyRegistry} (h : s.Bounded) (call : Call) :
    ∃ s', s.step call = some s' ∧ s'.capacity = s.capacity ∧ s'.Bounded := by
  cases call with
  | insert task context =>
    obtain ⟨map, order, hevict, hlen, hqueued⟩ :=
      evict_bounded s.capacity (s.enqueue task) _ (put_queued h.queued)
    exact ⟨{ s with map, order }, insert_of_evict hevict, rfl, hlen, hqueued⟩
  | take task =>
    refine ⟨(s.take task).2, rfl, rfl, ?_, ?_⟩
    · exact (Table.length_remove_le _ _).trans h.len
    · intro r hr
      exact h.queued r (Table.mem_remove.1 hr).1

/-- **Whatever the calls, the loop ends and the map stays under its ceiling.** -/
theorem run_bounded {s : ReplyRegistry} (h : s.Bounded) (calls : List Call) :
    ∃ s', s.run calls = some s' ∧ s'.capacity = s.capacity ∧ s'.Bounded := by
  induction calls generalizing s with
  | nil => exact ⟨s, rfl, rfl, h⟩
  | cons call calls ih =>
    obtain ⟨s₁, hstep, hcap₁, h₁⟩ := step_bounded h call
    obtain ⟨s', hrun, hcap, h'⟩ := ih h₁
    refine ⟨s', ?_, hcap.trans hcap₁, h'⟩
    unfold run
    rw [List.foldlM_cons, hstep]
    exact hrun

/-! ### The age of an entry -/

/-- The registry, the calls so far, and for each task the number of the call that last made it
live. -/
structure Observed where
  registry : ReplyRegistry
  calls : Nat
  since : TaskId → Nat

namespace Observed

def start (capacity : Nat) (h : 0 < capacity) : Observed := ⟨new capacity h, 0, fun _ => 0⟩

/-- An insert dates the tasks that have no entry. -/
def date (o : Observed) : Call → TaskId → Nat
  | .insert task _ =>
    if o.registry.Live task then o.since else Function.update o.since task o.calls
  | .take _ => o.since

def step (o : Observed) (call : Call) : Option Observed := do
  let registry ← o.registry.step call
  return { registry, calls := o.calls + 1, since := o.date call }

/-- The map is under its ceiling, and the queue has exactly the live tasks, once each and the
oldest first. -/
structure InStep (o : Observed) : Prop where
  len : o.registry.map.rows.length ≤ o.registry.capacity
  queue : ∀ task, task ∈ o.registry.order ↔ o.registry.Live task
  sorted : o.registry.order.Pairwise fun a b => o.since a < o.since b

/-- What the call loses is older than all else that was live, and it is not what the call
inserted. -/
def OldestGoes (o : Observed) (call : Call) (o' : Observed) : Prop :=
  match call with
  | .insert task context =>
    o'.registry.get task = some context ∧
      ∀ old, o.registry.Live old → ¬ o'.registry.Live old →
        ∀ other, o.registry.Live other → other ≠ old → o.since old < o.since other
  | .take _ => True

/-- Every state of the run is in step, and every call that loses an entry loses the oldest. -/
def InOrder (o : Observed) : List Call → Prop
  | [] => o.InStep
  | call :: calls =>
    o.InStep ∧ ∃ o', o.step call = some o' ∧ o.OldestGoes call o' ∧ o'.InOrder calls

/-- No `take` of the run finds an entry. -/
def TakesMiss (o : Observed) : List Call → Prop
  | [] => True
  | call :: calls =>
    (∀ task, call = .take task → ¬ o.registry.Live task) ∧
      ∀ o', o.step call = some o' → o'.TakesMiss calls

/-- The dates lie before the next call. -/
def Dated (o : Observed) : Prop := ∀ task, o.registry.Live task → o.since task < o.calls

/-! ### One call -/

variable {o o' : Observed}

/-- What `insert` does to a registry in step: a live task keeps its place, a new one is queued
last, and with it the oldest goes from a full map. -/
theorem insert_cases (h : o.InStep) (task : TaskId) (context : ReplyContext) :
    (o.registry.Live task ∧
      o.registry.insert task context =
        some { o.registry with map := o.registry.map.put ⟨task, context⟩ }) ∨
    (¬ o.registry.Live task ∧ o.registry.map.rows.length < o.registry.capacity ∧
      o.registry.insert task context =
        some { o.registry with
          map := o.registry.map.put ⟨task, context⟩
          order := o.registry.order ++ [task] }) ∨
    (¬ o.registry.Live task ∧ ∃ old rest, o.registry.order = old :: rest ∧
      o.registry.insert task context =
        some { o.registry with
          map := (o.registry.map.put ⟨task, context⟩).remove old
          order := rest ++ [task] }) := by
  have hlen := h.len
  by_cases hlive : o.registry.Live task
  · refine Or.inl ⟨hlive, insert_of_evict ?_⟩
    rw [enqueue_of_live hlive]
    refine evict_of_le _ ?_
    obtain ⟨r, hr, rfl⟩ := hlive
    have hlt := Table.length_remove_lt hr
    show (_ :: (o.registry.map.remove r.task).rows).length ≤ _
    rw [List.length_cons]
    omega
  · have hput : (o.registry.map.put ⟨task, context⟩).rows.length =
        o.registry.map.rows.length + 1 :=
      Table.length_put_of_get_none (get_none_of_not_live hlive)
    by_cases hroom : o.registry.map.rows.length < o.registry.capacity
    · refine Or.inr (Or.inl ⟨hlive, hroom, insert_of_evict ?_⟩)
      rw [enqueue_of_not_live hlive]
      exact evict_of_le _ (by omega)
    · cases horder : o.registry.order with
      | nil =>
        -- a full map has an entry, and it is queued
        have hpos := o.registry.capacity_pos
        obtain ⟨r, hr⟩ := List.exists_mem_of_length_pos
          (show 0 < o.registry.map.rows.length by omega)
        have hmem := (h.queue r.task).mpr ⟨r, hr, rfl⟩
        rw [horder] at hmem
        cases hmem
      | cons old rest =>
        refine Or.inr (Or.inr ⟨hlive, old, rest, rfl, insert_of_evict ?_⟩)
        rw [enqueue_of_not_live hlive, horder, List.cons_append, evict_of_lt _ (by omega)]
        refine evict_of_le _ ?_
        obtain ⟨r, hr, heq⟩ := (h.queue old).mp (by rw [horder]; exact List.mem_cons_self)
        have hne : r.task ≠ task := fun heq => hlive ⟨r, hr, heq⟩
        have hlt := Table.length_remove_lt
          (Table.mem_put.2 (Or.inr ⟨hr, hne⟩) :
            r ∈ (o.registry.map.put ⟨task, context⟩).rows)
        rw [heq] at hlt
        omega

theorem step_of_insert {task : TaskId} {context : ReplyContext} {s : ReplyRegistry}
    (h : o.registry.insert task context = some s) :
    o.step (.insert task context) =
      some ⟨s, o.calls + 1, o.date (.insert task context)⟩ := by
  show (o.registry.insert task context >>= fun registry => _) = _
  rw [h]
  rfl

theorem date_of_live {task : TaskId} {context : ReplyContext} (h : o.registry.Live task) :
    o.date (.insert task context) = o.since := if_pos h

theorem date_of_not_live {task : TaskId} {context : ReplyContext} (h : ¬ o.registry.Live task) :
    o.date (.insert task context) = Function.update o.since task o.calls := if_neg h

/-- A new task is younger than all that was live. -/
theorem sorted_append {task : TaskId} {order : List TaskId} (hdated : o.Dated)
    (hlive : ¬ o.registry.Live task) (hsub : ∀ t ∈ order, o.registry.Live t)
    (hsorted : order.Pairwise fun a b => o.since a < o.since b) :
    (order ++ [task]).Pairwise fun a b =>
      Function.update o.since task o.calls a < Function.update o.since task o.calls b := by
  have hold : ∀ t ∈ order, Function.update o.since task o.calls t = o.since t := fun t ht =>
    Function.update_of_ne (fun heq : t = task => hlive (heq ▸ hsub t ht)) _ _
  rw [List.pairwise_append]
  refine ⟨?_, List.pairwise_singleton _ _, ?_⟩
  · refine hsorted.imp_of_mem ?_
    intro a b ha hb hlt
    rw [hold a ha, hold b hb]
    exact hlt
  · intro a ha b hb
    rw [List.mem_singleton.mp hb, Function.update_self, hold a ha]
    exact hdated a (hsub a ha)

theorem dated_insert {task : TaskId} {context : ReplyContext} {s : ReplyRegistry}
    (hdated : o.Dated) (hlive : ¬ o.registry.Live task)
    (hsub : ∀ t, s.Live t → t = task ∨ o.registry.Live t) :
    Dated ⟨s, o.calls + 1, o.date (.insert task context)⟩ := by
  intro t ht
  show o.date (.insert task context) t < o.calls + 1
  rw [date_of_not_live hlive]
  by_cases heq : t = task
  · rw [heq, Function.update_self]
    omega
  · rw [Function.update_of_ne heq]
    have hlt := hdated t ((hsub t ht).resolve_left heq)
    omega

theorem InStep.bounded (h : o.InStep) : o.registry.Bounded :=
  ⟨h.len, fun r hr => (h.queue r.task).mpr ⟨r, hr, rfl⟩⟩

/-- The ceiling holds after every insert. -/
theorem insert_len (h : o.InStep) {task : TaskId} {context : ReplyContext} {s : ReplyRegistry}
    (hins : o.registry.insert task context = some s) : s.map.rows.length ≤ s.capacity := by
  obtain ⟨s', hs', -, hbound⟩ := step_bounded h.bounded (.insert task context)
  have heq : s = s' := Option.some.inj (hins.symm.trans hs')
  rw [heq]
  exact hbound.len

theorem insert_step_live (h : o.InStep) (hdated : o.Dated) {task : TaskId}
    {context : ReplyContext} {s : ReplyRegistry} (hlive : o.registry.Live task)
    (hins : o.registry.insert task context = some s)
    (hs : s = { o.registry with map := o.registry.map.put ⟨task, context⟩ }) :
    ∃ o', o.step (.insert task context) = some o' ∧ o.OldestGoes (.insert task context) o' ∧
      o'.InStep ∧ o'.Dated := by
  have hlen := insert_len h hins
  subst hs
  have hsame : ∀ t, (∃ r ∈ (o.registry.map.put ⟨task, context⟩).rows, r.task = t) ↔
      o.registry.Live t := by
    intro t
    rw [live_put]
    refine ⟨?_, Or.inr⟩
    rintro (rfl | ht)
    · exact hlive
    · exact ht
  refine ⟨_, step_of_insert hins, ⟨?_, ?_⟩, ⟨hlen, ?_, ?_⟩, ?_⟩
  · show ((o.registry.map.put ⟨task, context⟩).get task).map ReplyEntry.context = some context
    rw [Table.get_put_self o.registry.map ⟨task, context⟩]
    rfl
  · intro old hold hgone
    exact absurd ((hsame old).mpr hold) hgone
  · intro t
    exact (h.queue t).trans (hsame t).symm
  · rw [date_of_live hlive]
    exact h.sorted
  · intro t ht
    show o.date (.insert task context) t < o.calls + 1
    rw [date_of_live hlive]
    have hlt := hdated t ((hsame t).mp ht)
    omega

theorem insert_step_room (h : o.InStep) (hdated : o.Dated) {task : TaskId}
    {context : ReplyContext} {s : ReplyRegistry} (hlive : ¬ o.registry.Live task)
    (hins : o.registry.insert task context = some s)
    (hs : s = { o.registry with
      map := o.registry.map.put ⟨task, context⟩
      order := o.registry.order ++ [task] }) :
    ∃ o', o.step (.insert task context) = some o' ∧ o.OldestGoes (.insert task context) o' ∧
      o'.InStep ∧ o'.Dated := by
  have hlen := insert_len h hins
  subst hs
  refine ⟨_, step_of_insert hins, ⟨?_, ?_⟩, ⟨hlen, ?_, ?_⟩, ?_⟩
  · show ((o.registry.map.put ⟨task, context⟩).get task).map ReplyEntry.context = some context
    rw [Table.get_put_self o.registry.map ⟨task, context⟩]
    rfl
  · intro old hold hgone
    exact absurd (live_put.2 (Or.inr hold)) hgone
  · intro t
    show t ∈ o.registry.order ++ [task] ↔ _
    rw [List.mem_append, List.mem_singleton, h.queue, or_comm]
    exact (live_put (x := ⟨task, context⟩)).symm
  · rw [date_of_not_live hlive]
    exact sorted_append hdated hlive (fun t ht => (h.queue t).mp ht) h.sorted
  · exact dated_insert hdated hlive fun t ht => live_put.1 ht

theorem insert_step_full (h : o.InStep) (hdated : o.Dated) {task old : TaskId}
    {context : ReplyContext} {rest : List TaskId} {s : ReplyRegistry}
    (hlive : ¬ o.registry.Live task) (horder : o.registry.order = old :: rest)
    (hins : o.registry.insert task context = some s)
    (hs : s = { o.registry with
      map := (o.registry.map.put ⟨task, context⟩).remove old
      order := rest ++ [task] }) :
    ∃ o', o.step (.insert task context) = some o' ∧ o.OldestGoes (.insert task context) o' ∧
      o'.InStep ∧ o'.Dated := by
  have hlen := insert_len h hins
  subst hs
  have hsorted := h.sorted
  rw [horder, List.pairwise_cons] at hsorted
  obtain ⟨hfirst, hrest⟩ := hsorted
  have hmem : ∀ t, o.registry.Live t ↔ t = old ∨ t ∈ rest := by
    intro t
    rw [← h.queue t, horder, List.mem_cons]
  have hout : old ∉ rest := fun hin => Nat.lt_irrefl _ (hfirst old hin)
  have hne : task ≠ old := fun heq => hlive ((hmem task).mpr (Or.inl heq))
  have hnow : ∀ t, (∃ r ∈ ((o.registry.map.put ⟨task, context⟩).remove old).rows, r.task = t) ↔
      t ∈ rest ∨ t = task := by
    intro t
    rw [live_remove, live_put]
    constructor
    · rintro ⟨hold, rfl | ht⟩
      · exact Or.inr rfl
      · exact Or.inl (((hmem t).mp ht).resolve_left hold)
    · rintro (hin | rfl)
      · exact ⟨fun heq => hout (heq ▸ hin), Or.inr ((hmem t).mpr (Or.inr hin))⟩
      · exact ⟨hne, Or.inl rfl⟩
  refine ⟨_, step_of_insert hins, ⟨?_, ?_⟩, ⟨hlen, ?_, ?_⟩, ?_⟩
  · show (((o.registry.map.put ⟨task, context⟩).remove old).get task).map ReplyEntry.context = _
    rw [Table.get_remove_of_ne _ hne, Table.get_put_self o.registry.map ⟨task, context⟩]
    rfl
  · intro gone hgone hlost other hother hdiff
    -- what is lost is the head of the queue
    have heq : gone = old := by
      by_contra hold
      exact hlost ((hnow gone).mpr (Or.inl (((hmem gone).mp hgone).resolve_left hold)))
    rw [heq] at hdiff ⊢
    exact hfirst other (((hmem other).mp hother).resolve_left hdiff)
  · intro t
    show t ∈ rest ++ [task] ↔ _
    rw [List.mem_append, List.mem_singleton]
    exact (hnow t).symm
  · rw [date_of_not_live hlive]
    exact sorted_append hdated hlive (fun t ht => (hmem t).mpr (Or.inr ht)) hrest
  · refine dated_insert hdated hlive ?_
    intro t ht
    exact ((hnow t).mp ht).symm.imp_right fun hin => (hmem t).mpr (Or.inr hin)

/-- One `insert`. -/
theorem insert_step (h : o.InStep) (hdated : o.Dated) (task : TaskId) (context : ReplyContext) :
    ∃ o', o.step (.insert task context) = some o' ∧ o.OldestGoes (.insert task context) o' ∧
      o'.InStep ∧ o'.Dated := by
  rcases insert_cases h task context with ⟨hlive, hins⟩ | ⟨hlive, -, hins⟩ |
    ⟨hlive, old, rest, horder, hins⟩
  · exact insert_step_live h hdated hlive hins rfl
  · exact insert_step_room h hdated hlive hins rfl
  · exact insert_step_full h hdated hlive horder hins rfl

/-- A `take` that finds nothing changes nothing. -/
theorem take_step_miss (h : o.InStep) (hdated : o.Dated) {task : TaskId}
    (hmiss : ¬ o.registry.Live task) :
    ∃ o', o.step (.take task) = some o' ∧ o'.InStep ∧ o'.Dated := by
  have hsame : (o.registry.take task).2 = o.registry := by
    show { o.registry with map := o.registry.map.remove task } = o.registry
    rw [Table.remove_of_get_none (get_none_of_not_live hmiss)]
  refine ⟨⟨(o.registry.take task).2, o.calls + 1, o.since⟩, rfl, ?_, ?_⟩
  · rw [hsame]
    exact ⟨h.len, h.queue, h.sorted⟩
  · rw [hsame]
    exact fun t ht => Nat.lt_succ_of_lt (hdated t ht)

/-- A `take` that finds an entry leaves its task queued. -/
theorem take_step_hit (h : o.InStep) {task : TaskId} (hhit : o.registry.Live task)
    (hstep : o.step (.take task) = some o') : ¬ o'.InStep := by
  intro h'
  have heq : o' = ⟨(o.registry.take task).2, o.calls + 1, o.since⟩ :=
    Option.some.inj (hstep.symm.trans rfl)
  rw [heq] at h'
  have hlive := (h'.queue task).mp ((h.queue task).mpr hhit)
  exact (live_remove.1 hlive).1 rfl

/-! ### Whole runs -/

theorem InOrder.inStep {calls : List Call} (h : o.InOrder calls) : o.InStep := by
  cases calls with
  | nil => exact h
  | cons call calls => exact h.1

theorem inOrder_of_takesMiss {calls : List Call} (h : o.InStep) (hdated : o.Dated)
    (hmiss : o.TakesMiss calls) : o.InOrder calls := by
  induction calls generalizing o with
  | nil => exact h
  | cons call calls ih =>
    refine ⟨h, ?_⟩
    cases call with
    | insert task context =>
      obtain ⟨o', hstep, hgoes, h', hdated'⟩ := insert_step h hdated task context
      exact ⟨o', hstep, hgoes, ih h' hdated' (hmiss.2 o' hstep)⟩
    | take task =>
      obtain ⟨o', hstep, h', hdated'⟩ := take_step_miss h hdated (hmiss.1 task rfl)
      exact ⟨o', hstep, trivial, ih h' hdated' (hmiss.2 o' hstep)⟩

theorem takesMiss_of_inOrder {calls : List Call} (h : o.InOrder calls) : o.TakesMiss calls := by
  induction calls generalizing o with
  | nil => exact trivial
  | cons call calls ih =>
    obtain ⟨hin, o', hstep, -, hrest⟩ := h
    constructor
    · rintro task rfl hlive
      exact take_step_hit hin hlive hstep hrest.inStep
    · intro o₁ hstep₁
      rw [Option.some.inj (hstep₁.symm.trans hstep)]
      exact ih hrest

theorem start_inStep (capacity : Nat) (h : 0 < capacity) :
    (start capacity h).InStep ∧ (start capacity h).Dated := by
  refine ⟨⟨Nat.zero_le _, ?_, List.Pairwise.nil⟩, ?_⟩
  · exact fun task => ⟨fun hin => (nomatch hin), fun ⟨_, hr, _⟩ => (nomatch hr)⟩
  · exact fun task ⟨_, hr, _⟩ => (nomatch hr)

/-- **Map and queue stay in step, and the oldest entry makes room, in exactly the runs whose
`take` calls find nothing.** -/
theorem in_order_iff (capacity : Nat) (h : 0 < capacity) (calls : List Call) :
    (start capacity h).InOrder calls ↔ (start capacity h).TakesMiss calls :=
  ⟨takesMiss_of_inOrder,
    inOrder_of_takesMiss (start_inStep capacity h).1 (start_inStep capacity h).2⟩

/-- A message outside any thread. -/
def toRoom : ReplyContext := ⟨"!room", none, "$event"⟩

theorem in_order_two_tasks :
    0 < 2 ∧ ((start 2 (by decide)).InOrder
        [.insert ⟨1⟩ toRoom, .take ⟨2⟩, .insert ⟨2⟩ toRoom, .insert ⟨3⟩ toRoom] ↔
      (start 2 (by decide)).TakesMiss
        [.insert ⟨1⟩ toRoom, .take ⟨2⟩, .insert ⟨2⟩ toRoom, .insert ⟨3⟩ toRoom]) :=
  ⟨by decide, in_order_iff 2 (by decide) _⟩

/-- A task is taken and comes back, and a second one makes it go. -/
def comeback : List Call :=
  [.insert ⟨1⟩ toRoom, .take ⟨1⟩, .insert ⟨1⟩ toRoom, .insert ⟨2⟩ toRoom, .insert ⟨1⟩ toRoom]

/-- The place of the taken entry is still queued: the last call loses what it has just inserted,
and the older entry stays. -/
theorem just_inserted_goes :
    ((new 1 (by decide)).run comeback).map (fun s => (s.map.rows.map ReplyEntry.task, s.order)) =
        some ([⟨2⟩], [⟨2⟩, ⟨1⟩]) ∧
      ¬ (start 1 (by decide)).InOrder comeback := by
  refine ⟨by decide, ?_⟩
  intro h
  have hmiss := takesMiss_of_inOrder h
  exact (hmiss.2 _ rfl).1 ⟨1⟩ rfl (by decide)

end Observed

/-! ### The queue -/

/-- Tasks that are answered one after the other. -/
def rounds (context : ReplyContext) (tasks : List TaskId) : List Call :=
  tasks.flatMap fun task => [.insert task context, .take task]

theorem round_run {s : ReplyRegistry} (hempty : s.map = Table.empty) (context : ReplyContext)
    (task : TaskId) : s.run [.insert task context, .take task] =
      some { s with order := s.order ++ [task] } := by
  have hdead : ¬ s.Live task := by
    rintro ⟨r, hr, -⟩
    rw [hempty] at hr
    cases hr
  have hins : s.insert task context =
      some { s with map := s.map.put ⟨task, context⟩, order := s.order ++ [task] } := by
    refine insert_of_evict ?_
    rw [enqueue_of_not_live hdead]
    refine evict_of_le _ ?_
    rw [hempty]
    exact s.capacity_pos
  have htake : (s.map.put ⟨task, context⟩).remove task = s.map := by
    rw [hempty]
    refine Table.ext_rows ?_
    rw [Table.rows_empty, List.eq_nil_iff_forall_not_mem]
    intro r hr
    obtain ⟨hput, hne⟩ := Table.mem_remove.1 hr
    rcases Table.mem_put.1 hput with rfl | ⟨hr, -⟩
    · exact hne rfl
    · cases hr
  show (s.insert task context >>= fun s' => some (s'.take task).2 >>= some) = _
  rw [hins]
  show some { s with
    map := (s.map.put ⟨task, context⟩).remove task, order := s.order ++ [task] } = _
  rw [htake]

/-- Every answered task stays queued: a queue of any length over an empty map. -/
theorem rounds_leave {s : ReplyRegistry} (hempty : s.map = Table.empty) (context : ReplyContext)
    (tasks : List TaskId) :
    s.run (rounds context tasks) = some { s with order := s.order ++ tasks } := by
  induction tasks generalizing s with
  | nil => simp [rounds, run]
  | cons task tasks ih =>
    have hfirst := round_run hempty context task
    have hrest := ih (s := { s with order := s.order ++ [task] }) hempty
    unfold run at hfirst hrest ⊢
    rw [rounds, List.flatMap_cons, List.foldlM_append, hfirst]
    refine hrest.trans ?_
    simp

end ReplyRegistry

end GuiguBridge
