import GuiguBridge.Lib.Table

/-!
# Updates one after the other

A loop that updates the rows of one item after another, where no row is selected twice, has done
one update of all of them.

* `updateWhere_updateWhere` — **two updates by one assignment are one**, when no row is selected
  again;
* `countP_updateWhere` — the rows that an update takes out of a count;
* `filter_updateWhere` — an update of rows that a view leaves out;
* `find?_of_key` — a search that selects one key.
-/

namespace Relational

namespace Table

variable {κ α : Type} {key : α → κ} {t : Table key} {p q : α → Bool} {f : α → α}
  {hf : ∀ r, key (f r) = key r}

theorem rows_updateWhere (t : Table key) (p : α → Bool) (f : α → α)
    (hf : ∀ r, key (f r) = key r) :
    (t.updateWhere p f hf).rows = t.rows.map fun r => if p r then f r else r := rfl

/-- **Two updates are one**: what the first has assigned, the second does not select. -/
theorem updateWhere_updateWhere (h : ∀ r, p r = true → q (f r) = false) :
    (t.updateWhere p f hf).updateWhere q f hf = t.updateWhere (fun r => p r || q r) f hf := by
  apply ext_rows
  rw [rows_updateWhere, rows_updateWhere, rows_updateWhere, List.map_map]
  apply List.map_congr_left
  intro r _
  show (if q (if p r then f r else r) then f (if p r then f r else r)
    else if p r then f r else r) = if p r || q r then f r else r
  cases hp : p r with
  | true =>
    have hq := h r hp
    simp [hq]
  | false => simp

/-- The rows that an update takes out of a count. -/
theorem countP_updateWhere {c : α → Bool} (hf : ∀ r, key (f r) = key r)
    (hin : ∀ r, p r = true → c r = true) (hout : ∀ r, p r = true → c (f r) = false) :
    (t.updateWhere p f hf).rows.countP c + t.affected p = t.rows.countP c := by
  rw [rows_updateWhere]
  show _ + t.rows.countP p = _
  induction t.rows with
  | nil => rfl
  | cons r rows ih =>
    rw [List.map_cons, List.countP_cons, List.countP_cons, List.countP_cons]
    cases hp : p r with
    | true =>
      have hc := hin r hp
      have hfc := hout r hp
      simp only [if_true, hc, hfc, Bool.false_eq_true, if_false]
      omega
    | false =>
      simp only [Bool.false_eq_true, if_false]
      omega

/-- An update of rows that a view leaves out before and after. -/
theorem filter_updateWhere {c : α → Bool} (hf : ∀ r, key (f r) = key r)
    (hin : ∀ r ∈ t.rows, p r = true → c r = false)
    (hout : ∀ r ∈ t.rows, p r = true → c (f r) = false) :
    (t.updateWhere p f hf).rows.filter c = t.rows.filter c := by
  rw [rows_updateWhere]
  generalize t.rows = rows at hin hout
  induction rows with
  | nil => rfl
  | cons r rows ih =>
    rw [List.forall_mem_cons] at hin hout
    rw [List.map_cons, List.filter_cons, List.filter_cons, ih hin.2 hout.2]
    cases hp : p r with
    | true => simp [hin.1 hp, hout.1 hp]
    | false => simp

/-- A search finds the row whose key all rows share that it selects. -/
theorem find?_of_key {r : α} (hr : r ∈ t.rows) (hp : p r = true)
    (hkey : ∀ r' ∈ t.rows, p r' = true → key r' = key r) : t.rows.find? p = some r := by
  cases hfind : t.rows.find? p with
  | none => exact absurd hp (List.find?_eq_none.mp hfind r hr)
  | some r' =>
    have hmem := List.mem_of_find?_eq_some hfind
    rw [t.eq_of_key_eq hmem hr (hkey r' hmem (List.find?_some hfind))]

end Table

end Relational
