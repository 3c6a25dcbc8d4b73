import GuiguBridge.Lib.Table
import Mathlib.Algebra.GroupWithZero.Nat

/-!
# Totals over a table

A counter that is kept beside a table should equal a sum over its rows.  What a statement
does to such a sum is an equation between the rows it selects before and after.

* `Table.total` — the sum of a weight over all rows;
* `Table.sumWhere` — `SELECT SUM(w) WHERE p`;
* `total_insert`, `total_updateWhere`, `total_deleteWhere` — **the balance of each
  statement**: what the selected rows weighed goes, what they weigh afterwards comes.
-/

namespace Relational

namespace Table

variable {κ α : Type} {key : α → κ}

/-- The sum of a weight over all rows. -/
def total (t : Table key) (w : α → Nat) : Nat := (t.rows.map w).sum

/-- The sum of a weight over the rows that `p` selects. -/
def sumWhere (t : Table key) (p : α → Bool) (w : α → Nat) : Nat :=
  t.total fun r => if p r then w r else 0

theorem total_congr {t : Table key} {v w : α → Nat} (h : ∀ r ∈ t.rows, v r = w r) :
    t.total v = t.total w := by
  unfold total
  rw [List.map_congr_left h]

theorem total_add (t : Table key) (v w : α → Nat) :
    t.total (fun r => v r + w r) = t.total v + t.total w := by
  obtain ⟨rows, hnd⟩ := t
  show (rows.map _).sum = (rows.map v).sum + (rows.map w).sum
  clear hnd
  induction rows with
  | nil => rfl
  | cons r rows ih =>
    simp only [List.map_cons, List.sum_cons, ih]
    omega

theorem sumWhere_congr {t : Table key} {p : α → Bool} {v w : α → Nat}
    (h : ∀ r, p r = true → v r = w r) : t.sumWhere p v = t.sumWhere p w := by
  refine total_congr ?_
  intro r _
  cases hp : p r with
  | true => simp [h r hp]
  | false => simp

theorem sumWhere_eq_zero {t : Table key} {p : α → Bool} {w : α → Nat}
    (h : ∀ r, p r = true → w r = 0) : t.sumWhere p w = 0 := by
  rw [sumWhere_congr (w := fun _ => 0) h]
  simp [sumWhere, total]

/-- A predicate that fixes the key sums one row. -/
theorem sumWhere_eq_of_mem {t : Table key} {p : α → Bool} {w : α → Nat} {k : κ} {r : α}
    (hp : ∀ a, p a = true → key a = k) (hr : r ∈ t.rows) (hpr : p r = true) :
    t.sumWhere p w = w r := by
  obtain ⟨rows, hnd⟩ := t
  show (rows.map fun a => if p a then w a else 0).sum = w r
  simp only at hr
  induction rows with
  | nil => cases hr
  | cons a rows ih =>
    rw [List.map_cons, List.nodup_cons] at hnd
    rw [List.map_cons, List.sum_cons]
    have hother : ∀ b ∈ rows, p a = true → p b = false := by
      intro b hb hpa
      cases hpb : p b with
      | false => rfl
      | true =>
        have hkey : key a = key b := (hp a hpa).trans (hp b hpb).symm
        exact absurd (hkey ▸ List.mem_map_of_mem hb) hnd.1
    rcases List.mem_cons.mp hr with rfl | hmem
    · -- every later row is unselected
      have hzero : (rows.map fun b => if p b then w b else 0).sum = 0 := by
        have hmap : (rows.map fun b => if p b then w b else 0) = rows.map fun _ => 0 :=
          List.map_congr_left fun b hb => by simp [hother b hb hpr]
        simp [hmap]
      rw [hzero, if_pos hpr, Nat.add_zero]
    · have hpa : p a = false := by
        cases hpa : p a with
        | false => rfl
        | true =>
          rw [hother r hmem hpa] at hpr
          cases hpr
      rw [ih hnd.2 hmem, hpa]
      simp

theorem total_updateWhere (t : Table key) (p : α → Bool) (f : α → α)
    (hf : ∀ r, key (f r) = key r) (w : α → Nat) :
    (t.updateWhere p f hf).total w + t.sumWhere p w =
      t.total w + t.sumWhere p fun r => w (f r) := by
  have hrows : (t.updateWhere p f hf).total w = t.total fun r => w (if p r then f r else r) := by
    simp [total, updateWhere, Function.comp_def]
  rw [hrows, sumWhere, sumWhere, ← total_add, ← total_add]
  refine total_congr ?_
  intro r _
  cases p r with
  | true =>
    simp only [if_true]
    omega
  | false => simp

/-- An assignment that does not change the weight. -/
theorem total_updateWhere_same {t : Table key} {p : α → Bool} {f : α → α}
    {hf : ∀ r, key (f r) = key r} {w : α → Nat} (h : ∀ r, w (f r) = w r) :
    (t.updateWhere p f hf).total w = t.total w := by
  have hbalance := t.total_updateWhere p f hf w
  rw [sumWhere_congr (v := fun r => w (f r)) fun r _ => h r] at hbalance
  omega

/-- An assignment that takes the weight away. -/
theorem total_updateWhere_gone {t : Table key} {p : α → Bool} {f : α → α}
    {hf : ∀ r, key (f r) = key r} {w : α → Nat} (h : ∀ r, w (f r) = 0) :
    (t.updateWhere p f hf).total w + t.sumWhere p w = t.total w := by
  have hbalance := t.total_updateWhere p f hf w
  have hzero : t.sumWhere p (fun r => w (f r)) = 0 := sumWhere_eq_zero fun r _ => h r
  omega

theorem total_deleteWhere (t : Table key) (p : α → Bool) (w : α → Nat) :
    (t.deleteWhere p).total w + t.sumWhere p w = t.total w := by
  obtain ⟨rows, hnd⟩ := t
  show ((rows.filter fun r => !p r).map w).sum + (rows.map fun r => if p r then w r else 0).sum =
    (rows.map w).sum
  clear hnd
  induction rows with
  | nil => rfl
  | cons r rows ih =>
    cases hp : p r with
    | true =>
      simp only [List.filter_cons, hp, Bool.not_true, Bool.false_eq_true, if_false, List.map_cons,
        List.sum_cons, if_true]
      omega
    | false =>
      simp only [List.filter_cons, hp, Bool.not_false, if_true, List.map_cons, List.sum_cons,
        Bool.false_eq_true, if_false]
      omega

theorem total_insert [DecidableEq κ] {t u : Table key} {r : α} (h : t.insert r = some u)
    (w : α → Nat) : u.total w = t.total w + w r := by
  unfold total
  rw [((insert_eq_some_iff t u r).mp h).2]
  simp

end Table

end Relational
