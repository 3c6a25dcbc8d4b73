import GuiguBridge.Lib.Batch
import GuiguBridge.ReferenceLaws
import GuiguBridge.Storage.Recovery

/-!
# Deliveries reconciled offline

An operator names deliveries of tasks that have ended, and the bridge acknowledges them while no
runtime is up (`src/src/offline_delivery.rs`).  One loop checks all tuples, a second one writes
them, and the planner's counts are compared before and after; all of it in one transaction.

* `validateDelivery`, `acknowledgeDelivery` — one round of each loop;
* `reconcile` — the call, once the transaction has begun;
* `Settleable` — what the checks ask of a tuple, and `Timely`, what the table asks of the time;
* `reconciled` — the store that the loops leave, as one update a table;
* `reconcile_cases` — **the call is decided by `Settleable` and `Timely`, and writes
  `reconciled`**;
* `reconcile_exact` — the same with what a successful call has done, again and in any order.

A delivery cannot be acknowledged before it was dispatched: the table checks that, by the texts
of the two times.
-/

namespace GuiguBridge

open Relational

structure DeliveryTuple where
  delivery_id : String
  task_id : String
  attempt : Int
  deriving DecidableEq

/-- `ReconcileError`, less the one for a store that another process has locked. -/
inductive ReconcileError where
  | invalidArguments | database | workPresent | fenced
  deriving DecidableEq

/-- What `planner_counts` returns. -/
structure PlannerCounts where
  unfinished : Nat
  unacknowledged : Nat
  awaiting_outcome : Nat
  deriving DecidableEq

section

variable [Externals]

namespace DeliveryTuple

/-- `delivery_id=? AND task_id=? AND attempt=?` of the deliveries. -/
def names (t : DeliveryTuple) (d : DeliveryRow) : Bool :=
  decide (Externals.uuidText d.delivery_id.uuid = t.delivery_id ∧
    Externals.uuidText d.task_id.uuid = t.task_id ∧ (d.attempt : Int) = t.attempt)

/-- The same of the dispositions. -/
def namesDisposition (t : DeliveryTuple) (p : DispositionRow) : Bool :=
  decide (Externals.uuidText p.delivery_id.uuid = t.delivery_id ∧
    Externals.uuidText p.task_id.uuid = t.task_id ∧ (p.attempt : Int) = t.attempt)

end DeliveryTuple

/-- `planner_counts`. -/
def plannerCounts (db : Db) : PlannerCounts :=
  { unfinished := db.tasks.affected fun t => !db.taskEnded t.task_id
    unacknowledged := db.deliveries.affected fun d => d.acknowledged_at.isNone
    awaiting_outcome := db.deliveries.affected fun d =>
      d.acknowledged_at.isSome && !db.taskEnded d.task_id }

/-- `state NOT IN ('completed','expired','superseded')`. -/
def QueueState.isOpen (state : QueueState) : Bool :=
  decide (state ≠ .completed ∧ state ≠ .expired ∧ state ≠ .superseded)

/-! ### The loops -/

/-- The checks of one tuple. -/
def validateDelivery (t : DeliveryTuple) : Tx Db ReconcileError Unit := do
  let db ← Tx.read fun db => db
  let row ← Tx.orElse (db.deliveries.rows.find? fun d =>
    decide (Externals.uuidText d.delivery_id.uuid = t.delivery_id)) .workPresent
  Tx.require (Externals.uuidText row.task_id.uuid = t.task_id ∧ (row.attempt : Int) = t.attempt)
    .workPresent
  Tx.require (db.taskEnded row.task_id) .workPresent
  Tx.require ((db.taskAdmissions.get row.task_id).map (·.state) = some .terminal) .workPresent
  Tx.require (db.agentWorkQueue.affected (fun q =>
    decide (q.task_id = row.task_id) && q.state.isOpen) = 0) .workPresent
  Tx.require (db.executionLeases.affected (fun l =>
    decide (l.task_id = row.task_id ∧ (l.state = .active ∨ l.state = .recoveryNeeded))) = 0)
    .workPresent
  Tx.require (db.taskContinuations.affected (fun c =>
    decide (c.task_id = row.task_id ∧ c.state ≠ .terminal)) = 0) .workPresent
  Tx.require (db.deliveryDispositions.rows.any fun p => t.namesDisposition p) .workPresent

def validateDeliveries : List DeliveryTuple → Tx Db ReconcileError Unit
  | [] => pure ()
  | t :: tuples => do
    validateDelivery t
    validateDeliveries tuples

/-- `UPDATE deliveries SET acknowledged_at=? … AND acknowledged_at IS NULL`, when the row that
was read has none; returns how many were newly acknowledged. -/
def acknowledgeRow (now : String) (t : DeliveryTuple) (row : DeliveryRow) :
    Tx Db ReconcileError Nat :=
  if row.acknowledged_at = none then do
    let n ← Tx.updateChecked Db.deliveriesL (fun d => t.names d && d.acknowledged_at.isNone)
      (fun d => { d with acknowledged_at := some now })
      (fun d => decide (d.dispatched_at ≤ now)) .database (DeliveryRow.acknowledged_key now)
    Tx.require (n = 1) .fenced
    pure n
  else
    pure 0

/-- The disposition becomes terminal; one that is terminal already is left as it is. -/
def settleDisposition (t : DeliveryTuple) : Tx Db ReconcileError Unit := do
  let changed ← Tx.update Db.deliveryDispositionsL
    (fun p => t.namesDisposition p && decide (p.state ≠ .terminal))
    (fun p => { p with state := .terminal, reason_code := some "offline_reconciled" })
  let db ← Tx.read fun db => db
  Tx.require (changed ≠ 0 ∨ (db.deliveryDispositions.rows.find? fun p =>
    t.namesDisposition p).map (·.state) = some .terminal) .fenced

/-- The writes of one tuple. -/
def acknowledgeDelivery (now : String) (t : DeliveryTuple) : Tx Db ReconcileError Nat := do
  let db ← Tx.read fun db => db
  let row ← Tx.orElse (db.deliveries.rows.find? fun d => t.names d) .database
  let n ← acknowledgeRow now t row
  settleDisposition t
  pure n

/-- The number of deliveries newly acknowledged. -/
def acknowledgeDeliveries (now : String) : List DeliveryTuple → Tx Db ReconcileError Nat
  | [] => pure 0
  | t :: tuples => do
    let n ← acknowledgeDelivery now t
    let rest ← acknowledgeDeliveries now tuples
    pure (n + rest)

/-- `reconcile_tx`. -/
def reconcileTx (tuples : List DeliveryTuple) (now : String) :
    Tx Db ReconcileError (Except ReconcileError Nat) := do
  let before ← Tx.read plannerCounts
  validateDeliveries tuples
  let newly_acknowledged ← acknowledgeDeliveries now tuples
  let after ← Tx.read plannerCounts
  Tx.require (after.unfinished = before.unfinished ∧
    after.awaiting_outcome = before.awaiting_outcome ∧
    (after.unacknowledged : Int) = before.unacknowledged - newly_acknowledged) .fenced
  pure (.ok tuples.length)

/-- `reconcile`, in a store that nobody else has locked. -/
def reconcile (tuples : List DeliveryTuple) (now : String) (db : Db) :
    Except ReconcileError Nat × Db :=
  if tuples = [] ∨ now = "" then (.error .invalidArguments, db)
  else Tx.commit Except.error (reconcileTx tuples now) db

/-! ### What the checks ask -/

/-- The tuple `t` names the delivery `d`, and nothing of its task is open. -/
structure Settleable (db : Db) (t : DeliveryTuple) (d : DeliveryRow) : Prop where
  stored : d ∈ db.deliveries.rows
  named : t.names d = true
  ended : db.taskEnded d.task_id = true
  admission : ∃ a ∈ db.taskAdmissions.rows, a.task_id = d.task_id ∧ a.state = .terminal
  queue : ∀ q ∈ db.agentWorkQueue.rows, q.task_id = d.task_id → q.state.isOpen = false
  lease : ∀ l ∈ db.executionLeases.rows, l.task_id = d.task_id → l.state = .released
  continuation : ∀ c ∈ db.taskContinuations.rows, c.task_id = d.task_id → c.state = .terminal
  disposition : ∃ p ∈ db.deliveryDispositions.rows, t.namesDisposition p = true

/-- The time is not before the dispatch of the delivery that `t` has acknowledged at it. -/
def Timely (now : String) (db : Db) (t : DeliveryTuple) : Prop :=
  ∀ d ∈ db.deliveries.rows, t.names d = true → d.acknowledged_at = none → d.dispatched_at ≤ now

theorem uuidText_injective (laws : LawfulCrates) :
    Function.Injective (Externals.uuidText : Uuid → String) := by
  intro u v h
  have hu := laws.uuidText u
  rw [h, laws.uuidText] at hu
  exact (Option.some.inj hu).symm

omit [Externals] in
theorem DeliveryId.ext_uuid {a b : DeliveryId} (h : a.uuid = b.uuid) : a = b := by
  cases a
  cases b
  cases h
  rfl

/-- The delivery a tuple names is the one row with that identity. -/
theorem DeliveryTuple.key_of_text (laws : LawfulCrates) {t : DeliveryTuple} {d d' : DeliveryRow}
    (h : t.names d = true) (h' : Externals.uuidText d'.delivery_id.uuid = t.delivery_id) :
    d'.delivery_id = d.delivery_id := by
  have hd := (of_decide_eq_true h).1
  exact DeliveryId.ext_uuid (uuidText_injective laws (h'.trans hd.symm))

theorem validateDelivery_ok (laws : LawfulCrates) {t : DeliveryTuple} {s s' : Db} {u : Unit} :
    validateDelivery t s = .ok (u, s') ↔ (∃ d, Settleable s t d) ∧ s = s' := by
  simp only [validateDelivery, Tx.bind_ok, Tx.read_ok, Tx.orElse_ok, Tx.require_ok]
  constructor
  · intro hmore
    obtain ⟨_, _, ⟨rfl, rfl⟩, d, _, ⟨hfind, rfl⟩, _, _, ⟨hrest, rfl⟩, hmore⟩ := hmore
    obtain ⟨_, _, ⟨hended, rfl⟩, _, _, ⟨hadmission, rfl⟩, _, _, ⟨hqueue, rfl⟩, hmore⟩ := hmore
    obtain ⟨_, _, ⟨hlease, rfl⟩, _, _, ⟨hcont, rfl⟩, hdisp, rfl⟩ := hmore
    refine ⟨⟨d, ?_⟩, rfl⟩
    have htext : Externals.uuidText d.delivery_id.uuid = t.delivery_id := by
      simpa using List.find?_some hfind
    have hqueue := (Table.affected_eq_zero_iff _ _).mp (of_decide_eq_true hqueue)
    have hlease := (Table.affected_eq_zero_iff _ _).mp (of_decide_eq_true hlease)
    have hcont := (Table.affected_eq_zero_iff _ _).mp (of_decide_eq_true hcont)
    obtain ⟨a, ha, hstate⟩ := Option.map_eq_some_iff.mp (of_decide_eq_true hadmission)
    exact
      { stored := List.mem_of_find?_eq_some hfind
        named := decide_eq_true ⟨htext, of_decide_eq_true hrest⟩
        ended := hended
        admission := ⟨a, Table.mem_of_get ha, Table.key_of_get ha, hstate⟩
        queue := by
          intro q hq htask
          simpa [htask] using hqueue q hq
        lease := by
          intro l hl htask
          have hclosed := hlease l hl
          cases hstate : l.state with
          | released => rfl
          | active => simp [htask, hstate] at hclosed
          | recoveryNeeded => simp [htask, hstate] at hclosed
        continuation := by
          intro c hc htask
          simpa [htask] using hcont c hc
        disposition := List.any_eq_true.mp hdisp }
  · rintro ⟨⟨d, h⟩, rfl⟩
    obtain ⟨htext, hrest⟩ := of_decide_eq_true h.named
    have hfind : (s.deliveries.rows.find? fun d' =>
        decide (Externals.uuidText d'.delivery_id.uuid = t.delivery_id)) = some d :=
      Table.find?_of_key h.stored (decide_eq_true htext)
        fun d' _ hd' => t.key_of_text laws h.named (of_decide_eq_true hd')
    obtain ⟨a, ha, htask, hstate⟩ := h.admission
    have hget : s.taskAdmissions.get d.task_id = some a := by
      rw [← htask]
      exact Table.get_of_mem ha
    refine ⟨s, s, ⟨rfl, rfl⟩, d, s, ⟨hfind, rfl⟩, (), s, ⟨decide_eq_true hrest, rfl⟩, (), s,
      ⟨h.ended, rfl⟩, (), s, ⟨?_, rfl⟩, (), s, ⟨?_, rfl⟩, (), s, ⟨?_, rfl⟩, (), s, ⟨?_, rfl⟩,
      List.any_eq_true.mpr h.disposition, rfl⟩
    · rw [hget]
      exact decide_eq_true (congrArg some hstate)
    · refine decide_eq_true ((Table.affected_eq_zero_iff _ _).mpr fun q hq => ?_)
      by_cases hq' : q.task_id = d.task_id
      · simp [h.queue q hq hq']
      · simp [hq']
    · refine decide_eq_true ((Table.affected_eq_zero_iff _ _).mpr fun l hl => ?_)
      by_cases hl' : l.task_id = d.task_id
      · simp [h.lease l hl hl']
      · simp [hl']
    · refine decide_eq_true ((Table.affected_eq_zero_iff _ _).mpr fun c hc => ?_)
      by_cases hc' : c.task_id = d.task_id
      · simp [h.continuation c hc hc']
      · simp [hc']

theorem validateDelivery_aborts (t : DeliveryTuple) :
    Tx.Aborts (· = .workPresent) (validateDelivery t) := by
  refine Tx.aborts_bind (Tx.aborts_read _) fun db => ?_
  refine Tx.aborts_bind (Tx.aborts_orElse rfl) fun row => ?_
  refine Tx.aborts_bind (Tx.aborts_require rfl) fun _ => ?_
  refine Tx.aborts_bind (Tx.aborts_require rfl) fun _ => ?_
  refine Tx.aborts_bind (Tx.aborts_require rfl) fun _ => ?_
  refine Tx.aborts_bind (Tx.aborts_require rfl) fun _ => ?_
  refine Tx.aborts_bind (Tx.aborts_require rfl) fun _ => ?_
  refine Tx.aborts_bind (Tx.aborts_require rfl) fun _ => ?_
  exact Tx.aborts_require rfl

/-- The first loop, by induction on the tuples: it reads, and passes when each of them does. -/
theorem validateDeliveries_ok (laws : LawfulCrates) {tuples : List DeliveryTuple} {s s' : Db}
    {u : Unit} :
    validateDeliveries tuples s = .ok (u, s') ↔
      (∀ t ∈ tuples, ∃ d, Settleable s t d) ∧ s = s' := by
  induction tuples generalizing s with
  | nil => simp [validateDeliveries, Tx.pure_ok]
  | cons t tuples ih =>
    rw [validateDeliveries, Tx.bind_ok, List.forall_mem_cons]
    constructor
    · rintro ⟨_, s₁, ht, hrest⟩
      obtain ⟨hd, rfl⟩ := (validateDelivery_ok laws).mp ht
      obtain ⟨hall, rfl⟩ := ih.mp hrest
      exact ⟨⟨hd, hall⟩, rfl⟩
    · rintro ⟨⟨hd, hall⟩, rfl⟩
      exact ⟨(), s, (validateDelivery_ok laws).mpr ⟨hd, rfl⟩, ih.mpr ⟨hall, rfl⟩⟩

theorem validateDeliveries_aborts (tuples : List DeliveryTuple) :
    Tx.Aborts (· = .workPresent) (validateDeliveries tuples) := by
  induction tuples with
  | nil => exact Tx.aborts_pure ()
  | cons t tuples ih => exact Tx.aborts_bind (validateDelivery_aborts t) fun _ => ih

/-! ### What the loops write -/

/-- The deliveries that a list of tuples has acknowledged. -/
def newlyNamed (tuples : List DeliveryTuple) (d : DeliveryRow) : Bool :=
  (tuples.any fun t => t.names d) && d.acknowledged_at.isNone

/-- The dispositions that a list of tuples ends. -/
def openNamed (tuples : List DeliveryTuple) (p : DispositionRow) : Bool :=
  (tuples.any fun t => t.namesDisposition p) && decide (p.state ≠ .terminal)

/-- The listed deliveries acknowledged at `now`, unless they were before, and their dispositions
terminal. -/
def reconciled (tuples : List DeliveryTuple) (now : String) (db : Db) : Db :=
  { db with
    deliveries := db.deliveries.updateWhere (newlyNamed tuples)
      (fun d => { d with acknowledged_at := some now }) (DeliveryRow.acknowledged_key now)
    deliveryDispositions := db.deliveryDispositions.updateWhere (openNamed tuples)
      fun p => { p with state := .terminal, reason_code := some "offline_reconciled" } }

theorem newlyNamed_singleton (t : DeliveryTuple) :
    newlyNamed [t] = fun d => t.names d && d.acknowledged_at.isNone := by
  funext d
  simp [newlyNamed]

theorem openNamed_singleton (t : DeliveryTuple) :
    openNamed [t] = fun p => t.namesDisposition p && decide (p.state ≠ .terminal) := by
  funext p
  simp [openNamed]

/-- One tuple after the other is one update of all. -/
theorem reconciled_cons (t : DeliveryTuple) (tuples : List DeliveryTuple) (now : String)
    (db : Db) :
    reconciled tuples now (reconciled [t] now db) = reconciled (t :: tuples) now db := by
  have hd : (fun d => newlyNamed [t] d || newlyNamed tuples d) = newlyNamed (t :: tuples) := by
    funext d
    simp [newlyNamed, Bool.and_or_distrib_right]
  have hp : (fun p => openNamed [t] p || openNamed tuples p) = openNamed (t :: tuples) := by
    funext p
    simp only [openNamed, List.any_cons, List.any_nil, Bool.or_false, Bool.and_or_distrib_right]
  unfold reconciled
  dsimp only
  rw [Table.updateWhere_updateWhere fun d _ => by simp [newlyNamed],
    Table.updateWhere_updateWhere fun p _ => by simp [openNamed], hd, hp]

/-- Where nothing is selected, nothing is written. -/
theorem reconciled_none {tuples : List DeliveryTuple} {now : String} {db : Db}
    (hd : db.deliveries.affected (newlyNamed tuples) = 0)
    (hp : db.deliveryDispositions.affected (openNamed tuples) = 0) :
    reconciled tuples now db = db := by
  unfold reconciled
  rw [Table.updateWhere_of_affected_zero _ hd, Table.updateWhere_of_affected_zero _ hp]

theorem reconciled_nil (now : String) (db : Db) : reconciled [] now db = db :=
  reconciled_none ((Table.affected_eq_zero_iff _ _).mpr fun _ _ => rfl)
    ((Table.affected_eq_zero_iff _ _).mpr fun _ _ => rfl)

/-- What the writes rely on: the delivery and its disposition are there. -/
structure OnRecord (db : Db) (t : DeliveryTuple) : Prop where
  delivery : ∃ d ∈ db.deliveries.rows, t.names d = true
  disposition : ∃ p ∈ db.deliveryDispositions.rows, t.namesDisposition p = true

theorem Settleable.written {db : Db} {t : DeliveryTuple} {d : DeliveryRow}
    (h : Settleable db t d) : OnRecord db t := ⟨⟨d, h.stored, h.named⟩, h.disposition⟩

theorem mem_reconciled {tuples : List DeliveryTuple} {now : String} {db : Db} {d : DeliveryRow} :
    d ∈ (reconciled tuples now db).deliveries.rows ↔
      (∃ d₀ ∈ db.deliveries.rows, newlyNamed tuples d₀ = true ∧
        { d₀ with acknowledged_at := some now } = d) ∨
      (d ∈ db.deliveries.rows ∧ newlyNamed tuples d = false) := by
  simp only [reconciled, Table.mem_updateWhere]

theorem mem_reconciled_disposition {tuples : List DeliveryTuple} {now : String} {db : Db}
    {p : DispositionRow} :
    p ∈ (reconciled tuples now db).deliveryDispositions.rows ↔
      (∃ p₀ ∈ db.deliveryDispositions.rows, openNamed tuples p₀ = true ∧
        { p₀ with state := .terminal, reason_code := some "offline_reconciled" } = p) ∨
      (p ∈ db.deliveryDispositions.rows ∧ openNamed tuples p = false) := by
  simp only [reconciled, Table.mem_updateWhere]

theorem OnRecord.reconciled {db : Db} {t : DeliveryTuple} {tuples : List DeliveryTuple}
    {now : String} (h : OnRecord db t) : OnRecord (reconciled tuples now db) t where
  delivery := by
    obtain ⟨d, hd, hnames⟩ := h.delivery
    cases hsel : newlyNamed tuples d with
    | true => exact ⟨_, mem_reconciled.2 (Or.inl ⟨d, hd, hsel, rfl⟩), hnames⟩
    | false => exact ⟨d, mem_reconciled.2 (Or.inr ⟨hd, hsel⟩), hnames⟩
  disposition := by
    obtain ⟨p, hp, hnames⟩ := h.disposition
    cases hsel : openNamed tuples p with
    | true => exact ⟨_, mem_reconciled_disposition.2 (Or.inl ⟨p, hp, hsel, rfl⟩), hnames⟩
    | false => exact ⟨p, mem_reconciled_disposition.2 (Or.inr ⟨hp, hsel⟩), hnames⟩

/-- Acknowledging other deliveries in time changes nothing about the time of this one. -/
theorem timely_reconciled {now : String} {db : Db} {t : DeliveryTuple}
    {tuples : List DeliveryTuple} (h : ∀ t' ∈ tuples, Timely now db t') :
    Timely now (reconciled tuples now db) t ↔ Timely now db t := by
  constructor
  · intro ht d hd hnames hnone
    cases hsel : newlyNamed tuples d with
    | true =>
      obtain ⟨t', ht', hnames'⟩ := List.any_eq_true.mp (Bool.and_eq_true_iff.mp hsel).1
      exact h t' ht' d hd hnames' hnone
    | false =>
      exact ht d (mem_reconciled.2 (Or.inr ⟨hd, hsel⟩)) hnames hnone
  · intro ht d hd hnames hnone
    rcases mem_reconciled.1 hd with ⟨d₀, -, -, rfl⟩ | ⟨hd, -⟩
    · cases hnone
    · exact ht d hd hnames hnone

/-! ### The second loop -/

theorem acknowledgeRow_ok (laws : LawfulCrates) {now : String} {t : DeliveryTuple}
    {d : DeliveryRow} {s : Db} (hd : d ∈ s.deliveries.rows) (hnames : t.names d = true)
    (htimely : Timely now s t) :
    acknowledgeRow now t d s = .ok (s.deliveries.affected (newlyNamed [t]),
      { s with
        deliveries := s.deliveries.updateWhere (newlyNamed [t])
          fun d => { d with acknowledged_at := some now } }) := by
  have hkey : ∀ r, newlyNamed [t] r = true → r.delivery_id = d.delivery_id := by
    intro r hr
    rw [newlyNamed_singleton] at hr
    exact t.key_of_text laws hnames (of_decide_eq_true (Bool.and_eq_true_iff.mp hr).1).1
  have hget : s.deliveries.get d.delivery_id = some d := Table.get_of_mem hd
  unfold acknowledgeRow
  by_cases hack : d.acknowledged_at = none
  · have hsel : newlyNamed [t] d = true := by
      simp [newlyNamed_singleton, hnames, hack]
    have hone : s.deliveries.affected (newlyNamed [t]) = 1 :=
      (Table.affected_eq_one_iff hkey).mpr ⟨d, hget, hsel⟩
    rw [if_pos hack, hone, ← newlyNamed_singleton]
    refine Tx.bind_ok.2 ⟨1, _, Tx.updateChecked_ok.2 ⟨?_, hone, rfl⟩,
      Tx.bind_ok.2 ⟨(), _, Tx.require_ok.2 ⟨rfl, rfl⟩, rfl⟩⟩
    refine List.all_eq_true.mpr fun r hr => ?_
    cases hsel : newlyNamed [t] r with
    | false => rfl
    | true =>
      rw [newlyNamed_singleton] at hsel
      obtain ⟨hr', hnone⟩ := Bool.and_eq_true_iff.mp hsel
      simpa using htimely r hr hr' (by simpa using hnone)
  · have hzero : s.deliveries.affected (newlyNamed [t]) = 0 := by
      refine (Table.affected_eq_zero_iff _ _).mpr fun r hr => ?_
      cases hsel : newlyNamed [t] r with
      | false => rfl
      | true =>
        have hsame := s.deliveries.eq_of_key_eq hr hd (hkey r hsel)
        rw [hsame, newlyNamed_singleton] at hsel
        have hnone := (Bool.and_eq_true_iff.mp hsel).2
        exact absurd (by simpa using hnone) hack
    rw [if_neg hack, hzero, Table.updateWhere_of_affected_zero _ hzero]
    rfl

/-- A delivery that was dispatched after the time is not acknowledged: the table refuses. -/
theorem acknowledgeRow_late {now : String} {t : DeliveryTuple} {d : DeliveryRow} {s : Db}
    (hd : d ∈ s.deliveries.rows) (hnames : t.names d = true) (hnone : d.acknowledged_at = none)
    (hlate : ¬ d.dispatched_at ≤ now) : acknowledgeRow now t d s = .error .database := by
  unfold acknowledgeRow
  rw [if_pos hnone]
  apply Tx.bind_of_error
  unfold Tx.updateChecked
  rw [if_neg]
  intro hall
  have hcheck := List.all_eq_true.mp hall d hd
  simp [hnames, hnone, hlate] at hcheck

theorem settleDisposition_ok {t : DeliveryTuple} {s : Db}
    (h : ∃ p ∈ s.deliveryDispositions.rows, t.namesDisposition p = true) :
    settleDisposition t s = .ok ((),
      { s with
        deliveryDispositions := s.deliveryDispositions.updateWhere (openNamed [t])
          fun p => { p with state := .terminal, reason_code := some "offline_reconciled" } }) := by
  rw [openNamed_singleton]
  refine Tx.bind_ok.2 ⟨_, _, Tx.update_ok.2 ⟨rfl, rfl⟩,
    Tx.bind_ok.2 ⟨_, _, Tx.read_ok.2 ⟨rfl, rfl⟩, Tx.require_ok.2 ⟨?_, rfl⟩⟩⟩
  refine decide_eq_true ?_
  by_cases hzero : s.deliveryDispositions.affected
      (fun p => t.namesDisposition p && decide (p.state ≠ .terminal)) = 0
  · -- nothing was open, so what the search finds is terminal already
    right
    have hclosed := (Table.affected_eq_zero_iff _ _).mp hzero
    dsimp only [Db.deliveryDispositionsL]
    rw [Table.updateWhere_of_affected_zero _ hzero]
    obtain ⟨p, hp, hnames⟩ := h
    cases hfind : s.deliveryDispositions.rows.find? fun p => t.namesDisposition p with
    | none => exact absurd hnames (List.find?_eq_none.mp hfind p hp)
    | some p' =>
      have hno := hclosed p' (List.mem_of_find?_eq_some hfind)
      have hnames' : t.namesDisposition p' = true := List.find?_some hfind
      simpa [hnames'] using hno
  · exact Or.inl hzero

/-- One round of the second loop. -/
theorem acknowledgeDelivery_ok (laws : LawfulCrates) {now : String} {t : DeliveryTuple} {s : Db}
    (h : OnRecord s t) (htimely : Timely now s t) :
    acknowledgeDelivery now t s = .ok (s.deliveries.affected (newlyNamed [t]),
      reconciled [t] now s) := by
  obtain ⟨d, hd, hnames⟩ := h.delivery
  have hfind : s.deliveries.rows.find? (fun d => t.names d) = some d :=
    Table.find?_of_key hd hnames
      fun d' _ hd' => t.key_of_text laws hnames (of_decide_eq_true hd').1
  unfold acknowledgeDelivery
  refine Tx.bind_ok.2 ⟨s, s, Tx.read_ok.2 ⟨rfl, rfl⟩,
    Tx.bind_ok.2 ⟨d, s, Tx.orElse_ok.2 ⟨hfind, rfl⟩,
    Tx.bind_ok.2 ⟨_, _, acknowledgeRow_ok laws hd hnames htimely,
    Tx.bind_ok.2 ⟨(), _, settleDisposition_ok h.disposition, rfl⟩⟩⟩⟩

theorem acknowledgeDelivery_late (laws : LawfulCrates) {now : String} {t : DeliveryTuple} {s : Db}
    (hlate : ¬ Timely now s t) : acknowledgeDelivery now t s = .error .database := by
  obtain ⟨d, hd, hnames, hnone, hafter⟩ : ∃ d ∈ s.deliveries.rows, t.names d = true ∧
      d.acknowledged_at = none ∧ ¬ d.dispatched_at ≤ now := by
    by_contra hno
    refine hlate fun d hd hnames hnone => ?_
    by_contra hafter
    exact hno ⟨d, hd, hnames, hnone, hafter⟩
  have hfind : s.deliveries.rows.find? (fun d => t.names d) = some d :=
    Table.find?_of_key hd hnames
      fun d' _ hd' => t.key_of_text laws hnames (of_decide_eq_true hd').1
  unfold acknowledgeDelivery
  rw [Tx.bind_of_ok (Tx.read_ok.2 ⟨rfl, rfl⟩),
    Tx.bind_of_ok (Tx.orElse_ok.2 ⟨hfind, rfl⟩)]
  exact Tx.bind_of_error (acknowledgeRow_late hd hnames hnone hafter)

/-- How many deliveries wait for their acknowledgement. -/
def unacknowledgedCount (db : Db) : Nat := db.deliveries.affected fun d => d.acknowledged_at.isNone

theorem unacknowledgedCount_reconciled (tuples : List DeliveryTuple) (now : String) (db : Db) :
    unacknowledgedCount (reconciled tuples now db) +
      db.deliveries.affected (newlyNamed tuples) = unacknowledgedCount db :=
  Table.countP_updateWhere (t := db.deliveries) (p := newlyNamed tuples)
    (f := fun d => { d with acknowledged_at := some now }) (c := fun d => d.acknowledged_at.isNone)
    (fun _ => rfl) (fun _ h => (Bool.and_eq_true_iff.mp h).2) fun _ _ => rfl

/-- The second loop, by induction on the tuples: every round leaves the rest of them stored and
in time. -/
theorem acknowledgeDeliveries_ok (laws : LawfulCrates) {now : String}
    {tuples : List DeliveryTuple} {s : Db} (h : ∀ t ∈ tuples, OnRecord s t)
    (htimely : ∀ t ∈ tuples, Timely now s t) :
    ∃ n, acknowledgeDeliveries now tuples s = .ok (n, reconciled tuples now s) ∧
      unacknowledgedCount (reconciled tuples now s) + n = unacknowledgedCount s := by
  induction tuples generalizing s with
  | nil =>
    refine ⟨0, ?_, ?_⟩
    · rw [reconciled_nil]
      rfl
    · rw [reconciled_nil]
      rfl
  | cons t tuples ih =>
    rw [List.forall_mem_cons] at h htimely
    have hone : ∀ t' ∈ [t], Timely now s t' := by simpa using htimely.1
    obtain ⟨n, hrun, hcount⟩ := ih (s := reconciled [t] now s)
      (fun t' ht' => (h.2 t' ht').reconciled)
      (fun t' ht' => (timely_reconciled hone).mpr (htimely.2 t' ht'))
    rw [reconciled_cons] at hrun hcount
    have hhead := unacknowledgedCount_reconciled [t] now s
    refine ⟨s.deliveries.affected (newlyNamed [t]) + n, ?_, by omega⟩
    rw [acknowledgeDeliveries, Tx.bind_of_ok (acknowledgeDelivery_ok laws h.1 htimely.1),
      Tx.bind_of_ok hrun]
    rfl

/-- A delivery that is not in time stops the loop, wherever it stands. -/
theorem acknowledgeDeliveries_late (laws : LawfulCrates) {now : String}
    {tuples : List DeliveryTuple} {s : Db} (h : ∀ t ∈ tuples, OnRecord s t)
    (hlate : ∃ t ∈ tuples, ¬ Timely now s t) :
    acknowledgeDeliveries now tuples s = .error .database := by
  induction tuples generalizing s with
  | nil =>
    obtain ⟨t, ht, -⟩ := hlate
    cases ht
  | cons t tuples ih =>
    rw [List.forall_mem_cons] at h
    rw [acknowledgeDeliveries]
    by_cases htimely : Timely now s t
    · have hone : ∀ t' ∈ [t], Timely now s t' := by simpa using htimely
      have hrest : ∃ t' ∈ tuples, ¬ Timely now (reconciled [t] now s) t' := by
        obtain ⟨t', ht', hafter⟩ := hlate
        rcases List.mem_cons.mp ht' with rfl | ht'
        · exact absurd htimely hafter
        · exact ⟨t', ht', fun h' => hafter ((timely_reconciled hone).mp h')⟩
      rw [Tx.bind_of_ok (acknowledgeDelivery_ok laws h.1 htimely)]
      exact Tx.bind_of_error (ih (fun t' ht' => (h.2 t' ht').reconciled) hrest)
    · exact Tx.bind_of_error (acknowledgeDelivery_late laws htimely)

/-! ### The counts and the plan -/

/-- What the loops acknowledge belongs to tasks that have ended. -/
theorem taskEnded_of_newlyNamed (laws : LawfulCrates) {tuples : List DeliveryTuple} {db : Db}
    (h : ∀ t ∈ tuples, ∃ d, Settleable db t d) {d : DeliveryRow} (hd : d ∈ db.deliveries.rows)
    (hsel : newlyNamed tuples d = true) : db.taskEnded d.task_id = true := by
  obtain ⟨t, ht, hnames⟩ := List.any_eq_true.mp (Bool.and_eq_true_iff.mp hsel).1
  obtain ⟨d₀, hd₀⟩ := h t ht
  have hkey := t.key_of_text laws hd₀.named (of_decide_eq_true hnames).1
  rw [db.deliveries.eq_of_key_eq hd hd₀.stored hkey]
  exact hd₀.ended

/-- The deliveries that wait for the end of their task are the same rows as before. -/
theorem awaiting_reconciled (laws : LawfulCrates) (now : String) {tuples : List DeliveryTuple}
    {db : Db} (h : ∀ t ∈ tuples, ∃ d, Settleable db t d) :
    ((reconciled tuples now db).deliveries.rows.filter fun d =>
      d.acknowledged_at.isSome && !db.taskEnded d.task_id) =
    db.deliveries.rows.filter fun d => d.acknowledged_at.isSome && !db.taskEnded d.task_id := by
  refine Table.filter_updateWhere (t := db.deliveries) (p := newlyNamed tuples)
    (f := fun d => { d with acknowledged_at := some now }) (fun _ => rfl) ?_ ?_
  · intro d _ hsel
    have hnone := (Bool.and_eq_true_iff.mp hsel).2
    rw [Option.isNone_iff_eq_none] at hnone
    rw [hnone]
    rfl
  · intro d hd hsel
    have hended := taskEnded_of_newlyNamed laws h hd hsel
    simp [hended]

theorem plannerCounts_reconciled (laws : LawfulCrates) {tuples : List DeliveryTuple}
    {now : String} {db : Db} (h : ∀ t ∈ tuples, ∃ d, Settleable db t d) :
    plannerCounts (reconciled tuples now db) =
      { plannerCounts db with unacknowledged := unacknowledgedCount (reconciled tuples now db) } := by
  have hawaiting := congrArg List.length (awaiting_reconciled laws now h)
  rw [← List.countP_eq_length_filter, ← List.countP_eq_length_filter] at hawaiting
  unfold plannerCounts
  congr 1

/-- The tuple names a delivery of the plan. -/
def DeliveryTuple.namesDelivery (t : DeliveryTuple) (d : Delivery) : Bool :=
  decide (Externals.uuidText d.delivery_id.uuid = t.delivery_id ∧
    Externals.uuidText d.task_id.uuid = t.task_id ∧ (d.attempt.toNat : Int) = t.attempt)

omit [Externals] in
theorem decodeU32_toNat {value : Nat} {attempt : UInt32} (h : decodeU32 value = some attempt) :
    attempt.toNat = value := by
  unfold decodeU32 at h
  split at h
  · rename_i hlt
    cases h
    rw [UInt32.toNat_ofNat']
    omega
  · cases h

theorem names_deliveryFromRow {row : DeliveryRow} {d : Delivery} (h : deliveryFromRow row = some d)
    (t : DeliveryTuple) : t.namesDelivery d = t.names row := by
  unfold deliveryFromRow at h
  obtain ⟨attempt, hattempt, h⟩ := Option.bind_eq_some_iff.mp h
  obtain ⟨dispatched, -, h⟩ := Option.bind_eq_some_iff.mp h
  obtain ⟨acknowledged, -, h⟩ := Option.bind_eq_some_iff.mp h
  cases h
  unfold DeliveryTuple.namesDelivery DeliveryTuple.names
  rw [decodeU32_toNat hattempt]

/-- A delivery still waits for its acknowledgement when it did before and is not listed. -/
theorem unacknowledged_reconciled {tuples : List DeliveryTuple} {now : String} {db : Db}
    {row : DeliveryRow} :
    row ∈ (reconciled tuples now db).deliveries.rows ∧ row.acknowledged_at = none ↔
      row ∈ db.deliveries.rows ∧ row.acknowledged_at = none ∧
        ∀ t ∈ tuples, t.names row = false := by
  rw [mem_reconciled]
  constructor
  · rintro ⟨⟨row₀, -, -, rfl⟩ | ⟨hrow, hsel⟩, hnone⟩
    · cases hnone
    · refine ⟨hrow, hnone, fun t ht => ?_⟩
      rw [newlyNamed, hnone, Option.isNone_none, Bool.and_true, List.any_eq_false] at hsel
      simpa using hsel t ht
  · rintro ⟨hrow, hnone, hnot⟩
    refine ⟨Or.inr ⟨hrow, ?_⟩, hnone⟩
    rw [newlyNamed, hnone, Option.isNone_none, Bool.and_true, List.any_eq_false]
    intro t ht
    simpa using hnot t ht

/-- `plan` less the listed deliveries. -/
structure PlanWithout (tuples : List DeliveryTuple) (plan plan' : RecoveryPlan) : Prop where
  unfinished : plan'.unfinished = plan.unfinished
  awaiting_outcome : plan'.awaiting_outcome = plan.awaiting_outcome
  unacknowledged : ∀ d, d ∈ plan'.unacknowledged ↔
    d ∈ plan.unacknowledged ∧ ∀ t ∈ tuples, t.namesDelivery d = false

theorem planRecovery_reconciled (laws : LawfulCrates) {tuples : List DeliveryTuple}
    {now : String} {db : Db} (h : ∀ t ∈ tuples, ∃ d, Settleable db t d) {plan : RecoveryPlan}
    (hplan : planRecovery db = some plan) :
    ∃ plan', planRecovery (reconciled tuples now db) = some plan' ∧
      PlanWithout tuples plan plan' := by
  obtain ⟨hunfinished, hu, ha⟩ := planRecovery_eq_some.1 hplan
  have hrows := unacknowledged_isSome.1 (Option.isSome_iff_exists.mpr ⟨_, hu⟩)
  have hsome : (unacknowledgedDeliveries (reconciled tuples now db)).isSome = true := by
    refine unacknowledged_isSome.2 fun row hrow hnone => ?_
    have hold := unacknowledged_reconciled.1 ⟨hrow, hnone⟩
    exact hrows row hold.1 hnone
  obtain ⟨ds, hds⟩ := Option.isSome_iff_exists.mp hsome
  have hawaiting : deliveriesAwaitingOutcome (reconciled tuples now db) =
      some plan.awaiting_outcome := by
    rw [← ha]
    unfold deliveriesAwaitingOutcome
    exact congrArg (fun rows => (rows.mergeSort dispatchedFirst).mapM deliveryFromRow)
      (awaiting_reconciled laws now h)
  refine ⟨⟨plan.unfinished, ds, plan.awaiting_outcome⟩,
    planRecovery_eq_some.2 ⟨hunfinished, hds, hawaiting⟩, rfl, rfl, fun d => ?_⟩
  show d ∈ ds ↔ _
  rw [mem_unacknowledged hds, mem_unacknowledged hu]
  constructor
  · rintro ⟨row, hrow, hnone, hd⟩
    obtain ⟨hold, -, hnot⟩ := unacknowledged_reconciled.1 ⟨hrow, hnone⟩
    exact ⟨⟨row, hold, hnone, hd⟩, fun t ht => (names_deliveryFromRow hd t).trans (hnot t ht)⟩
  · rintro ⟨⟨row, hold, hnone, hd⟩, hnot⟩
    have hunlisted : ∀ t ∈ tuples, t.names row = false :=
      fun t ht => (names_deliveryFromRow hd t).symm.trans (hnot t ht)
    obtain ⟨hnew, -⟩ := unacknowledged_reconciled.2 ⟨hold, hnone, hunlisted⟩
    exact ⟨row, hnew, hnone, hd⟩

/-! ### The call -/

theorem reconcile_ok (laws : LawfulCrates) {tuples : List DeliveryTuple} {now : String} {db : Db}
    (hne : tuples ≠ []) (hnow : now ≠ "") (h : ∀ t ∈ tuples, ∃ d, Settleable db t d)
    (htimely : ∀ t ∈ tuples, Timely now db t) :
    reconcile tuples now db = (.ok tuples.length, reconciled tuples now db) := by
  have hstored : ∀ t ∈ tuples, OnRecord db t := by
    intro t ht
    obtain ⟨d, hd⟩ := h t ht
    exact hd.written
  obtain ⟨n, hrun, hcount⟩ := acknowledgeDeliveries_ok laws hstored htimely
  have hguard : (unacknowledgedCount (reconciled tuples now db) : Int) =
      unacknowledgedCount db - n := by omega
  unfold reconcile
  rw [if_neg (not_or.mpr ⟨hne, hnow⟩)]
  apply Tx.commit_of_ok
  unfold reconcileTx
  rw [Tx.bind_of_ok (Tx.read_ok.2 ⟨rfl, rfl⟩),
    Tx.bind_of_ok ((validateDeliveries_ok laws (u := ())).mpr ⟨h, rfl⟩), Tx.bind_of_ok hrun,
    Tx.bind_of_ok (Tx.read_ok.2 ⟨rfl, rfl⟩)]
  refine Tx.bind_ok.2 ⟨(), _, Tx.require_ok.2 ⟨decide_eq_true ?_, rfl⟩, rfl⟩
  rw [plannerCounts_reconciled laws h]
  exact ⟨rfl, rfl, hguard⟩

theorem reconcile_late (laws : LawfulCrates) {tuples : List DeliveryTuple} {now : String} {db : Db}
    (hnow : now ≠ "") (h : ∀ t ∈ tuples, ∃ d, Settleable db t d)
    (hlate : ∃ t ∈ tuples, ¬ Timely now db t) :
    reconcile tuples now db = (.error .database, db) := by
  have hne : tuples ≠ [] := by
    obtain ⟨t, ht, -⟩ := hlate
    exact List.ne_nil_of_mem ht
  have hstored : ∀ t ∈ tuples, OnRecord db t := by
    intro t ht
    obtain ⟨d, hd⟩ := h t ht
    exact hd.written
  unfold reconcile
  rw [if_neg (not_or.mpr ⟨hne, hnow⟩)]
  apply Tx.commit_of_error
  unfold reconcileTx
  rw [Tx.bind_of_ok (Tx.read_ok.2 ⟨rfl, rfl⟩),
    Tx.bind_of_ok ((validateDeliveries_ok laws (u := ())).mpr ⟨h, rfl⟩)]
  exact Tx.bind_of_error (acknowledgeDeliveries_late laws hstored hlate)

theorem reconcile_open (laws : LawfulCrates) {tuples : List DeliveryTuple} {now : String} {db : Db}
    (hne : tuples ≠ []) (hnow : now ≠ "") (h : ¬ ∀ t ∈ tuples, ∃ d, Settleable db t d) :
    reconcile tuples now db = (.error .workPresent, db) := by
  unfold reconcile
  rw [if_neg (not_or.mpr ⟨hne, hnow⟩)]
  apply Tx.commit_of_error
  unfold reconcileTx
  rw [Tx.bind_of_ok (Tx.read_ok.2 ⟨rfl, rfl⟩)]
  apply Tx.bind_of_error
  cases hrun : validateDeliveries tuples db with
  | ok result =>
    obtain ⟨u, s⟩ := result
    exact absurd ((validateDeliveries_ok laws).mp hrun).1 h
  | error e => rw [(validateDeliveries_aborts tuples).of_error hrun]

/-- **What the call returns**: the checks decide first, then the times. -/
theorem reconcile_cases (laws : LawfulCrates) {tuples : List DeliveryTuple} (hne : tuples ≠ [])
    (now : String) (db : Db) :
    ((now ≠ "" ∧ (∀ t ∈ tuples, ∃ d, Settleable db t d) ∧ ∀ t ∈ tuples, Timely now db t) ∧
      reconcile tuples now db = (.ok tuples.length, reconciled tuples now db)) ∨
    (¬ (now ≠ "" ∧ (∀ t ∈ tuples, ∃ d, Settleable db t d) ∧ ∀ t ∈ tuples, Timely now db t) ∧
      ∃ e, reconcile tuples now db = (.error e, db)) := by
  by_cases hnow : now = ""
  · exact Or.inr ⟨fun h => h.1 hnow, .invalidArguments, if_pos (Or.inr hnow)⟩
  by_cases h : ∀ t ∈ tuples, ∃ d, Settleable db t d
  · by_cases htimely : ∀ t ∈ tuples, Timely now db t
    · exact Or.inl ⟨⟨hnow, h, htimely⟩, reconcile_ok laws hne hnow h htimely⟩
    · have hlate : ∃ t ∈ tuples, ¬ Timely now db t := by
        by_contra hno
        exact htimely fun t ht => by_contra fun hafter => hno ⟨t, ht, hafter⟩
      exact Or.inr ⟨fun h' => htimely h'.2.2, .database, reconcile_late laws hnow h hlate⟩
  · exact Or.inr ⟨fun h' => h h'.2.1, .workPresent, reconcile_open laws hne hnow h⟩

theorem Settleable.reconciled {db : Db} {t : DeliveryTuple} {d : DeliveryRow}
    {tuples : List DeliveryTuple} {now : String} (h : Settleable db t d) :
    ∃ d', Settleable (reconciled tuples now db) t d' := by
  obtain ⟨p, hp⟩ := h.written.reconciled.disposition
  have hrest : ∀ d' ∈ (GuiguBridge.reconciled tuples now db).deliveries.rows,
      t.names d' = true → d'.task_id = d.task_id → ∃ d', Settleable _ t d' := fun d' hd' hn htask =>
    ⟨d',
      { stored := hd'
        named := hn
        ended := by
          rw [htask]
          exact h.ended
        admission := by
          rw [htask]
          exact h.admission
        queue := by
          rw [htask]
          exact h.queue
        lease := by
          rw [htask]
          exact h.lease
        continuation := by
          rw [htask]
          exact h.continuation
        disposition := ⟨p, hp⟩ }⟩
  cases hsel : newlyNamed tuples d with
  | true => exact hrest _ (mem_reconciled.2 (Or.inl ⟨d, h.stored, hsel, rfl⟩)) h.named rfl
  | false => exact hrest d (mem_reconciled.2 (Or.inr ⟨h.stored, hsel⟩)) h.named rfl

/-- A listed delivery is acknowledged afterwards, so a second run selects nothing. -/
theorem reconciled_reconciled (tuples : List DeliveryTuple) (now now' : String) (db : Db) :
    reconciled tuples now' (reconciled tuples now db) = reconciled tuples now db := by
  refine reconciled_none ((Table.affected_eq_zero_iff _ _).mpr fun d hd => ?_)
    ((Table.affected_eq_zero_iff _ _).mpr fun p hp => ?_)
  · rcases mem_reconciled.1 hd with ⟨d₀, -, -, rfl⟩ | ⟨-, hno⟩
    · exact Bool.and_false _
    · exact hno
  · rcases mem_reconciled_disposition.1 hp with ⟨p₀, -, -, rfl⟩ | ⟨-, hno⟩
    · exact Bool.and_false _
    · exact hno

/-- Everything a successful call has done. -/
structure Reconciliation (tuples : List DeliveryTuple) (now : String) (db db' : Db) : Prop where
  wrote : db' = reconciled tuples now db
  acknowledged : ∀ d ∈ db'.deliveries.rows, (∃ t ∈ tuples, t.names d = true) →
    d.acknowledged_at ≠ none
  settled : ∀ p ∈ db'.deliveryDispositions.rows,
    (∃ t ∈ tuples, t.namesDisposition p = true) → p.state = .terminal
  planned : ∀ plan, planRecovery db = some plan → ∃ plan', planRecovery db' = some plan' ∧
    PlanWithout tuples plan plan'

theorem Reconciliation.of_settleable (laws : LawfulCrates) {tuples : List DeliveryTuple}
    {now : String} {db : Db} (h : ∀ t ∈ tuples, ∃ d, Settleable db t d) :
    Reconciliation tuples now db (GuiguBridge.reconciled tuples now db) where
  wrote := rfl
  acknowledged := by
    rintro d hd ⟨t, ht, hnames⟩ hnone
    have hnot := (unacknowledged_reconciled.1 ⟨hd, hnone⟩).2.2 t ht
    rw [hnames] at hnot
    cases hnot
  settled := by
    rintro p hp ⟨t, ht, hnames⟩
    rcases mem_reconciled_disposition.1 hp with ⟨p₀, -, -, rfl⟩ | ⟨-, hno⟩
    · rfl
    · have hany : (tuples.any fun t => t.namesDisposition p) = true :=
        List.any_eq_true.mpr ⟨t, ht, hnames⟩
      rw [openNamed, hany, Bool.true_and] at hno
      simpa using hno
  planned := fun _ hplan => planRecovery_reconciled laws h hplan

theorem reconciled_perm {tuples tuples' : List DeliveryTuple} (hperm : tuples'.Perm tuples)
    (now : String) (db : Db) : reconciled tuples' now db = reconciled tuples now db := by
  have hd : newlyNamed tuples' = newlyNamed tuples := by
    funext d
    rw [newlyNamed, newlyNamed, hperm.any_eq]
  have hp : openNamed tuples' = openNamed tuples := by
    funext p
    rw [openNamed, openNamed, hperm.any_eq]
  unfold reconciled
  rw [hd, hp]

/-- The outcome is decided by which tuples are listed, not by where they stand. -/
theorem reconcile_perm (laws : LawfulCrates) {tuples tuples' : List DeliveryTuple}
    (hperm : tuples'.Perm tuples) (now : String) (db : Db) :
    reconcile tuples' now db = reconcile tuples now db := by
  by_cases hne : tuples = []
  · subst hne
    rw [hperm.eq_nil]
  have hne' : tuples' ≠ [] := fun hnil => hne (hperm.symm.trans (by rw [hnil])).eq_nil
  by_cases hnow : now = ""
  · unfold reconcile
    rw [if_pos (Or.inr hnow), if_pos (Or.inr hnow)]
  by_cases h : ∀ t ∈ tuples, ∃ d, Settleable db t d
  · have h' : ∀ t ∈ tuples', ∃ d, Settleable db t d := fun t ht => h t (hperm.mem_iff.1 ht)
    by_cases htimely : ∀ t ∈ tuples, Timely now db t
    · have htimely' : ∀ t ∈ tuples', Timely now db t :=
        fun t ht => htimely t (hperm.mem_iff.1 ht)
      rw [reconcile_ok laws hne hnow h htimely, reconcile_ok laws hne' hnow h' htimely',
        hperm.length_eq, reconciled_perm hperm]
    · have hlate : ∃ t ∈ tuples, ¬ Timely now db t := by
        by_contra hno
        exact htimely fun t ht => by_contra fun hafter => hno ⟨t, ht, hafter⟩
      obtain ⟨t, ht, hafter⟩ := hlate
      rw [reconcile_late laws hnow h ⟨t, ht, hafter⟩,
        reconcile_late laws hnow h' ⟨t, hperm.mem_iff.2 ht, hafter⟩]
  · have h' : ¬ ∀ t ∈ tuples', ∃ d, Settleable db t d :=
      fun hall => h fun t ht => hall t (hperm.mem_iff.2 ht)
    rw [reconcile_open laws hne hnow h, reconcile_open laws hne' hnow h']

/-- The call succeeds when the time is given, every tuple names a settled delivery, and no listed
delivery that still waits was dispatched after the time; then it has written exactly the listed
rows, a second call writes nothing, and the order of the tuples plays no part. -/
theorem reconcile_exact (laws : LawfulCrates) {tuples : List DeliveryTuple} (hne : tuples ≠ [])
    (now : String) (db : Db) :
    ((∃ n, (reconcile tuples now db).1 = .ok n) ↔
      now ≠ "" ∧ (∀ t ∈ tuples, ∃ d, Settleable db t d) ∧ ∀ t ∈ tuples, Timely now db t) ∧
    (∀ n, (reconcile tuples now db).1 = .ok n → n = tuples.length ∧
      Reconciliation tuples now db (reconcile tuples now db).2 ∧
      ∀ now', (reconcile tuples now' (reconcile tuples now db).2).2 = (reconcile tuples now db).2 ∧
        (now' ≠ "" → (reconcile tuples now' (reconcile tuples now db).2).1 = .ok n)) ∧
    (∀ e, (reconcile tuples now db).1 = .error e → (reconcile tuples now db).2 = db) ∧
    ∀ tuples', tuples'.Perm tuples → reconcile tuples' now db = reconcile tuples now db := by
  rcases reconcile_cases laws hne now db with ⟨hwhen, hrun⟩ | ⟨hnot, e, hrun⟩
  · obtain ⟨hnow, h, htimely⟩ := hwhen
    have hagain : ∀ t ∈ tuples, ∃ d, Settleable (reconciled tuples now db) t d := by
      intro t ht
      obtain ⟨d, hd⟩ := h t ht
      exact hd.reconciled
    have htimely' : ∀ now', ∀ t ∈ tuples, Timely now' (reconciled tuples now db) t := by
      intro now' t ht d hd hnames hnone
      have hnot := (unacknowledged_reconciled.1 ⟨hd, hnone⟩).2.2 t ht
      rw [hnames] at hnot
      cases hnot
    rw [hrun]
    refine ⟨⟨fun _ => ⟨hnow, h, htimely⟩, fun _ => ⟨_, rfl⟩⟩, ?_,
      fun e he => (nomatch he), fun tuples' hperm => ?_⟩
    · intro n hn
      cases hn
      refine ⟨rfl, Reconciliation.of_settleable laws h, fun now' => ?_⟩
      by_cases hnow' : now' = ""
      · rw [show reconcile tuples now' (reconciled tuples now db) =
          (.error .invalidArguments, reconciled tuples now db) from if_pos (Or.inr hnow')]
        exact ⟨rfl, fun hne' => absurd hnow' hne'⟩
      · rw [reconcile_ok laws hne hnow' hagain (htimely' now'), reconciled_reconciled]
        exact ⟨rfl, fun _ => rfl⟩
    · rw [reconcile_perm laws hperm, hrun]
  · rw [hrun]
    refine ⟨⟨fun ⟨n, hn⟩ => (nomatch hn), fun hwhen => absurd hwhen hnot⟩, fun n hn => (nomatch hn),
      fun _ _ => rfl, fun tuples' hperm => ?_⟩
    rw [reconcile_perm laws hperm, hrun]

end

/-! ### A delivery dispatched in the future -/

/-- The delivery that waits. -/
def endedDelivery : DeliveryRow := ⟨⟨6⟩, ⟨1⟩, 1, ⟨3⟩, "2025-01-01T00:00:00Z", none⟩

def endedDisposition : DispositionRow := ⟨⟨6⟩, ⟨1⟩, 1, .prepared, none, none, none⟩

def endedAdmission : AdmissionRow :=
  ⟨⟨1⟩, .terminal, 0, none, none, none, none, none, none, none, "2025-01-01T00:00:00Z",
    "2025-01-01T00:00:00Z"⟩

/-- A task that has ended, and a delivery of it that nobody has acknowledged. -/
def endedStore : Db :=
  { Db.empty with
    tasks := ⟨[⟨⟨1⟩, ⟨1⟩, none, ⟨2⟩, ⟨3⟩, ⟨4⟩, none, "t", 5, 0, 0, none, 0⟩], by decide⟩
    taskEvents := ⟨[⟨⟨5⟩, ⟨1⟩, 1, .completed, "2025-01-01T00:00:00Z", "\x7b\x7d"⟩], by decide⟩
    deliveries := ⟨[endedDelivery], by decide⟩
    taskAdmissions := ⟨[endedAdmission], by decide⟩
    deliveryDispositions := ⟨[endedDisposition], by decide⟩ }

def endedTuple : DeliveryTuple := ⟨Externals.uuidText 6, Externals.uuidText 1, 1⟩

theorem endedStore_ended : endedStore.taskEnded ⟨1⟩ = true := by
  have hevents : endedStore.taskEvents.rows.filter (·.task_id = ⟨1⟩) =
      [⟨⟨5⟩, ⟨1⟩, 1, .completed, "2025-01-01T00:00:00Z", "\x7b\x7d"⟩] := by decide
  unfold Db.taskEnded Db.lastStatus
  rw [hevents, List.mergeSort_singleton]
  rfl

theorem endedTuple_names : endedTuple.names endedDelivery = true := by
  unfold DeliveryTuple.names endedTuple endedDelivery
  simp

theorem endedTuple_namesDisposition : endedTuple.namesDisposition endedDisposition = true := by
  unfold DeliveryTuple.namesDisposition endedTuple endedDisposition
  simp

theorem endedStore_settleable : Settleable endedStore endedTuple endedDelivery where
  stored := List.mem_singleton.mpr rfl
  named := endedTuple_names
  ended := endedStore_ended
  admission := ⟨endedAdmission, List.mem_singleton.mpr rfl, rfl, rfl⟩
  queue := fun _ hq => absurd hq List.not_mem_nil
  lease := fun _ hl => absurd hl List.not_mem_nil
  continuation := fun _ hc => absurd hc List.not_mem_nil
  disposition := ⟨endedDisposition, List.mem_singleton.mpr rfl, endedTuple_namesDisposition⟩

/-- Another delivery of the task, which was acknowledged. -/
def settledDelivery : DeliveryRow :=
  ⟨⟨7⟩, ⟨1⟩, 2, ⟨3⟩, "2025-01-01T00:00:00Z", some "2025-01-01T12:00:00Z"⟩

def settledDisposition : DispositionRow := ⟨⟨7⟩, ⟨1⟩, 2, .terminal, none, none, none⟩

/-- The task with both deliveries. -/
def settledStore : Db :=
  { endedStore with
    deliveries := ⟨[endedDelivery, settledDelivery], by decide⟩
    deliveryDispositions := ⟨[endedDisposition, settledDisposition], by decide⟩ }

def settledTuple : DeliveryTuple := ⟨Externals.uuidText 7, Externals.uuidText 1, 2⟩

theorem settledTuple_names : settledTuple.names settledDelivery = true := by
  unfold DeliveryTuple.names settledTuple settledDelivery
  simp

theorem settledTuple_namesDisposition : settledTuple.namesDisposition settledDisposition = true := by
  unfold DeliveryTuple.namesDisposition settledTuple settledDisposition
  simp

theorem settledStore_settleable {t : DeliveryTuple} {d : DeliveryRow}
    (hd : d ∈ settledStore.deliveries.rows) (htask : d.task_id = ⟨1⟩) (hnames : t.names d = true)
    (hdisposition : ∃ p ∈ settledStore.deliveryDispositions.rows, t.namesDisposition p = true) :
    Settleable settledStore t d where
  stored := hd
  named := hnames
  ended := by
    rw [htask]
    exact endedStore_ended
  admission := ⟨endedAdmission, List.mem_singleton.mpr rfl, htask.symm, rfl⟩
  queue := fun _ hq => absurd hq List.not_mem_nil
  lease := fun _ hl => absurd hl List.not_mem_nil
  continuation := fun _ hc => absurd hc List.not_mem_nil
  disposition := hdisposition

/-- A delivery that nobody has acknowledged, and one that somebody has. -/
theorem reconcile_exact_two :
    (reconcile [endedTuple, settledTuple] "2025-01-02T00:00:00Z" settledStore).1 = .ok 2 ∧
      Reconciliation [endedTuple, settledTuple] "2025-01-02T00:00:00Z" settledStore
        (reconcile [endedTuple, settledTuple] "2025-01-02T00:00:00Z" settledStore).2 := by
  obtain ⟨hwhen, hok, -⟩ := reconcile_exact Reference.lawful
    (List.cons_ne_nil endedTuple [settledTuple]) "2025-01-02T00:00:00Z" settledStore
  obtain ⟨n, hn⟩ := hwhen.mpr (by
    refine ⟨by decide, ?_, ?_⟩
    · intro t ht
      rcases List.mem_pair.mp ht with rfl | rfl
      · exact ⟨_, settledStore_settleable List.mem_cons_self rfl endedTuple_names
          ⟨_, List.mem_cons_self, endedTuple_namesDisposition⟩⟩
      · exact ⟨_, settledStore_settleable (List.mem_cons_of_mem _ List.mem_cons_self) rfl
          settledTuple_names
          ⟨_, List.mem_cons_of_mem _ List.mem_cons_self, settledTuple_namesDisposition⟩⟩
    · intro t _ d hd _ hopen
      rcases List.mem_pair.mp hd with rfl | rfl
      · decide
      · cases hopen)
  obtain ⟨rfl, hreconciled, -⟩ := hok n hn
  exact ⟨hn, hreconciled⟩

/-- A clock behind the dispatch: the tuple matches in everything, and the table refuses. -/
theorem reconcile_before_dispatch :
    (∀ t ∈ [endedTuple], ∃ d, Settleable endedStore t d) ∧
      ¬ ∃ n, (reconcile [endedTuple] "2024-12-31T00:00:00Z" endedStore).1 = .ok n := by
  have h : ∀ t ∈ [endedTuple], ∃ d, Settleable endedStore t d := by
    intro t ht
    rw [List.mem_singleton.mp ht]
    exact ⟨_, endedStore_settleable⟩
  refine ⟨h, ?_⟩
  have hlate : ¬ Timely "2024-12-31T00:00:00Z" endedStore endedTuple := by
    intro htimely
    have hle := htimely _ (List.mem_singleton.mpr rfl) endedStore_settleable.named rfl
    exact absurd hle (by decide)
  rw [reconcile_late Reference.lawful (by decide) h ⟨_, List.mem_singleton.mpr rfl, hlate⟩]
  exact nofun

end GuiguBridge
