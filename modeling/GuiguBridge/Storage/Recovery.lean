import GuiguBridge.Storage.RowCodec
import GuiguBridge.Storage.Retry

/-!
# The recovery plan

What a restart has to look at (`src/src/storage/recovery.rs`): tasks that have not ended,
deliveries that were not acknowledged, and acknowledged deliveries of tasks that have not ended.

* `Db.taskEnded` — the last event of a task is a terminal one;
* `deliveryFromRow` — a delivery as it is read;
* `planRecovery` — the three reads; `none` is a row that does not decode;
* `mem_unacknowledged` — **what the second set holds, row by row**;
* `planRecovery_eq_some` — the plan, set by set.
-/

namespace GuiguBridge

open Relational

/-- The last event of the task is a terminal one. -/
def Db.taskEnded (db : Db) (task_id : TaskId) : Bool := (db.lastStatus task_id).any (·.isTerminal)

/-- `Delivery`. -/
structure Delivery where
  delivery_id : DeliveryId
  task_id : TaskId
  attempt : UInt32
  target : EndpointId
  dispatched_at : DateTime
  acknowledged_at : Option DateTime
  deriving DecidableEq

structure RecoveryPlan where
  unfinished : List TaskId
  unacknowledged : List Delivery
  awaiting_outcome : List Delivery
  deriving DecidableEq

variable [Externals]

/-- `delivery_from_row`. -/
def deliveryFromRow (row : DeliveryRow) : Option Delivery := do
  let attempt ← decodeU32 row.attempt
  let dispatched_at ← decodeTimestamp row.dispatched_at
  let acknowledged_at ← decodeOptionalTimestamp row.acknowledged_at
  some
    { delivery_id := row.delivery_id, task_id := row.task_id, attempt := attempt,
      target := row.target_endpoint_id, dispatched_at := dispatched_at,
      acknowledged_at := acknowledged_at }

/-- `ORDER BY dispatched_at ASC, delivery_id ASC`. -/
def dispatchedFirst (a b : DeliveryRow) : Bool :=
  decide (a.dispatched_at < b.dispatched_at ∨
    (a.dispatched_at = b.dispatched_at ∧
      a.delivery_id.uuid.toNat ≤ b.delivery_id.uuid.toNat))

/-- `unfinished_tasks`. -/
def unfinishedTasks (db : Db) : List TaskId :=
  ((db.tasks.rows.filter fun t => !db.taskEnded t.task_id).map TaskRow.task_id).mergeSort
    fun a b => decide (a.uuid.toNat ≤ b.uuid.toNat)

/-- `unacknowledged_deliveries`. -/
def unacknowledgedDeliveries (db : Db) : Option (List Delivery) :=
  ((db.deliveries.rows.filter fun d => d.acknowledged_at.isNone).mergeSort
    dispatchedFirst).mapM deliveryFromRow

/-- `deliveries_awaiting_outcome`. -/
def deliveriesAwaitingOutcome (db : Db) : Option (List Delivery) :=
  ((db.deliveries.rows.filter fun d =>
    d.acknowledged_at.isSome && !db.taskEnded d.task_id).mergeSort
      dispatchedFirst).mapM deliveryFromRow

/-- `plan_recovery`. -/
def planRecovery (db : Db) : Option RecoveryPlan := do
  let unacknowledged ← unacknowledgedDeliveries db
  let awaiting_outcome ← deliveriesAwaitingOutcome db
  some ⟨unfinishedTasks db, unacknowledged, awaiting_outcome⟩

/-! ### What the sets hold -/

omit [Externals] in
/-- A list of rows decodes when each of them does. -/
theorem mapM_isSome_iff {α β : Type} {f : α → Option β} {rows : List α} :
    (rows.mapM f).isSome = true ↔ ∀ row ∈ rows, (f row).isSome = true := by
  induction rows with
  | nil => simp
  | cons row rows ih =>
    rw [List.mapM_cons, List.forall_mem_cons]
    cases hrow : f row with
    | none => simp
    | some b =>
      cases hrows : rows.mapM f with
      | none =>
        rw [hrows] at ih
        simpa using ih
      | some bs =>
        rw [hrows] at ih
        simpa using ih

omit [Externals] in
theorem mem_mapM {α β : Type} {f : α → Option β} {rows : List α} {bs : List β}
    (h : rows.mapM f = some bs) {b : β} : b ∈ bs ↔ ∃ row ∈ rows, f row = some b := by
  induction rows generalizing bs with
  | nil =>
    rw [List.mapM_nil] at h
    cases h
    simp
  | cons row rows ih =>
    rw [List.mapM_cons] at h
    obtain ⟨b', hb', h⟩ := Option.bind_eq_some_iff.mp h
    obtain ⟨bs', hbs', h⟩ := Option.bind_eq_some_iff.mp h
    cases h
    rw [List.mem_cons, ih hbs']
    constructor
    · rintro (rfl | ⟨r, hr, hb⟩)
      · exact ⟨row, List.mem_cons_self, hb'⟩
      · exact ⟨r, List.mem_cons_of_mem _ hr, hb⟩
    · rintro ⟨r, hr, hb⟩
      rcases List.mem_cons.mp hr with rfl | hr
      · exact Or.inl (Option.some.inj (hb.symm.trans hb'))
      · exact Or.inr ⟨r, hr, hb⟩

theorem mem_unacknowledged {db : Db} {ds : List Delivery}
    (h : unacknowledgedDeliveries db = some ds) {d : Delivery} :
    d ∈ ds ↔ ∃ row ∈ db.deliveries.rows, row.acknowledged_at = none ∧
      deliveryFromRow row = some d := by
  rw [mem_mapM h]
  simp only [List.mem_mergeSort, List.mem_filter, Option.isNone_iff_eq_none, and_assoc]

/-- The unacknowledged deliveries of a store decode when each of their rows does. -/
theorem unacknowledged_isSome {db : Db} :
    (unacknowledgedDeliveries db).isSome = true ↔
      ∀ row ∈ db.deliveries.rows, row.acknowledged_at = none →
        (deliveryFromRow row).isSome = true := by
  unfold unacknowledgedDeliveries
  rw [mapM_isSome_iff]
  simp only [List.mem_mergeSort, List.mem_filter, Option.isNone_iff_eq_none, and_imp]

theorem planRecovery_eq_some {db : Db} {plan : RecoveryPlan} :
    planRecovery db = some plan ↔ plan.unfinished = unfinishedTasks db ∧
      unacknowledgedDeliveries db = some plan.unacknowledged ∧
      deliveriesAwaitingOutcome db = some plan.awaiting_outcome := by
  unfold planRecovery
  constructor
  · intro h
    obtain ⟨u, hu, h⟩ := Option.bind_eq_some_iff.mp h
    obtain ⟨a, ha, h⟩ := Option.bind_eq_some_iff.mp h
    cases h
    exact ⟨rfl, hu, ha⟩
  · rintro ⟨hunfinished, hu, ha⟩
    rw [hu, ha]
    exact congrArg some (by rw [← hunfinished])

end GuiguBridge
