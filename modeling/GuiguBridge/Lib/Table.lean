import Mathlib.Data.List.Nodup
import Mathlib.Tactic.Common

/-!
# Tables with a primary key

A relational table is a list of rows whose primary keys are pairwise distinct.  The
distinctness is a field of the structure, so a table with two rows under one key cannot be
built, and every statement below carries the proof along.

* `Table.get` — the row stored under a key, and `get_eq_some_iff`, its meaning;
* `Table.updateWhere` / `get_updateWhere` — `UPDATE … SET f WHERE p`, read row by row;
* `Table.insert` / `get_insert` — `INSERT`, refused when the key is taken;
* `Table.deleteWhere` / `mem_deleteWhere` — `DELETE … WHERE p`;
* `Table.affected` — the number of rows a predicate selects.  For a predicate that fixes the
  key the count is `0` or `1`, and `affected_eq_one_iff` names the row.

Nothing here is about a particular schema.
-/

namespace Relational

/-- Rows with pairwise distinct primary keys. -/
structure Table {κ α : Type} (key : α → κ) where
  rows : List α
  nodup : (rows.map key).Nodup

namespace Table

variable {κ α : Type} {key : α → κ}

theorem ext_rows {t u : Table key} (h : t.rows = u.rows) : t = u := by
  cases t
  cases u
  simp only at h
  subst h
  rfl

instance [DecidableEq α] : DecidableEq (Table key) := fun t u =>
  decidable_of_iff (t.rows = u.rows) ⟨ext_rows, fun h => h ▸ rfl⟩

/-- The table without rows. -/
def empty : Table key := ⟨[], List.nodup_nil⟩

instance : Inhabited (Table key) := ⟨empty⟩

@[simp] theorem rows_empty : (empty : Table key).rows = [] := rfl

theorem eq_of_key_eq (t : Table key) {r r' : α} (hr : r ∈ t.rows) (hr' : r' ∈ t.rows)
    (h : key r = key r') : r = r' :=
  List.inj_on_of_nodup_map t.nodup hr hr' h

/-! ### Statements -/

/-- How many rows `p` selects. -/
def affected (t : Table key) (p : α → Bool) : Nat := t.rows.countP p

/-- `UPDATE … SET f WHERE p`; the assignment keeps the primary key. -/
def updateWhere (t : Table key) (p : α → Bool) (f : α → α)
    (hf : ∀ r, key (f r) = key r := by intro r; rfl) : Table key where
  rows := t.rows.map fun r => if p r then f r else r
  nodup := by
    have h : (t.rows.map fun r => if p r then f r else r).map key = t.rows.map key := by
      rw [List.map_map]
      apply List.map_congr_left
      intro r _
      show key (if p r then f r else r) = key r
      split
      · exact hf r
      · rfl
    rw [h]
    exact t.nodup

/-- `DELETE … WHERE p`. -/
def deleteWhere (t : Table key) (p : α → Bool) : Table key where
  rows := t.rows.filter fun r => !p r
  nodup := t.nodup.sublist (List.filter_sublist.map key)

variable [DecidableEq κ]

/-- The row stored under `k`. -/
def get (t : Table key) (k : κ) : Option α := t.rows.find? fun r => decide (key r = k)

/-- `INSERT`: refused when the primary key is taken. -/
def insert (t : Table key) (r : α) : Option (Table key) :=
  if h : key r ∈ t.rows.map key then none
  else some
    { rows := t.rows ++ [r]
      nodup := by
        rw [List.map_append, List.nodup_append]
        refine ⟨t.nodup, by simp, ?_⟩
        intro a ha b hb hab
        have hb' : b = key r := by simpa using hb
        exact h (hb' ▸ hab ▸ ha) }

/-! ### Reading by key -/

theorem get_eq_some_iff (t : Table key) (k : κ) (r : α) :
    t.get k = some r ↔ r ∈ t.rows ∧ key r = k := by
  constructor
  · intro h
    exact ⟨List.mem_of_find?_eq_some h, by simpa using List.find?_some h⟩
  · rintro ⟨hr, rfl⟩
    cases hg : t.get (key r) with
    | none =>
      have := List.find?_eq_none.mp hg r hr
      simp at this
    | some r' =>
      have hmem : r' ∈ t.rows := List.mem_of_find?_eq_some hg
      have hkey : key r' = key r := by simpa using List.find?_some hg
      rw [t.eq_of_key_eq hmem hr hkey]

theorem get_eq_none_iff (t : Table key) (k : κ) :
    t.get k = none ↔ ∀ r ∈ t.rows, key r ≠ k := by
  simp [get, List.find?_eq_none]

theorem get_of_mem {t : Table key} {r : α} (h : r ∈ t.rows) : t.get (key r) = some r :=
  (t.get_eq_some_iff _ _).mpr ⟨h, rfl⟩

theorem key_of_get {t : Table key} {k : κ} {r : α} (h : t.get k = some r) : key r = k :=
  ((t.get_eq_some_iff k r).mp h).2

theorem mem_of_get {t : Table key} {k : κ} {r : α} (h : t.get k = some r) : r ∈ t.rows :=
  ((t.get_eq_some_iff k r).mp h).1

@[simp] theorem get_empty (k : κ) : (empty : Table key).get k = none := rfl

/-! ### What the statements do to a key -/

omit [DecidableEq κ] in
theorem mem_updateWhere {t : Table key} {p : α → Bool} {f : α → α}
    {hf : ∀ r, key (f r) = key r} {r : α} :
    r ∈ (t.updateWhere p f hf).rows ↔
      (∃ r₀ ∈ t.rows, p r₀ = true ∧ f r₀ = r) ∨ (r ∈ t.rows ∧ p r = false) := by
  simp only [updateWhere, List.mem_map]
  constructor
  · rintro ⟨r₀, hr₀, rfl⟩
    cases hp : p r₀ with
    | true => exact Or.inl ⟨r₀, hr₀, hp, by simp⟩
    | false => exact Or.inr ⟨by simpa using hr₀, by simpa using hp⟩
  · rintro (⟨r₀, hr₀, hp, rfl⟩ | ⟨hr, hp⟩)
    · exact ⟨r₀, hr₀, by simp [hp]⟩
    · exact ⟨r, hr, by simp [hp]⟩

omit [DecidableEq κ] in
/-- A statement leaves no key without its row. -/
theorem exists_updateWhere {t : Table key} {p : α → Bool} {f : α → α}
    (hf : ∀ r, key (f r) = key r) {r : α} (hr : r ∈ t.rows) :
    ∃ r' ∈ (t.updateWhere p f hf).rows, key r' = key r := by
  by_cases hp : p r = true
  · exact ⟨f r, mem_updateWhere.2 (Or.inl ⟨r, hr, hp, rfl⟩), hf r⟩
  · exact ⟨r, mem_updateWhere.2 (Or.inr ⟨hr, by simpa using hp⟩), rfl⟩

theorem get_updateWhere (t : Table key) (p : α → Bool) (f : α → α)
    (hf : ∀ r, key (f r) = key r) (k : κ) :
    (t.updateWhere p f hf).get k = (t.get k).map fun r => if p r then f r else r := by
  have hkey : ∀ r, key (if p r then f r else r) = key r := by
    intro r
    split
    · exact hf r
    · rfl
  simp only [get, updateWhere, List.find?_map, Function.comp_def, hkey]

/-- An update whose predicate fixes the key leaves every other key alone. -/
theorem get_updateWhere_of_ne {t : Table key} {p : α → Bool} {f : α → α}
    (hf : ∀ r, key (f r) = key r) {k k' : κ} (hp : ∀ r, p r = true → key r = k) (hne : k' ≠ k) :
    (t.updateWhere p f hf).get k' = t.get k' := by
  rw [get_updateWhere]
  cases hget : t.get k' with
  | none => rfl
  | some r =>
    have hkey : key r = k' := key_of_get hget
    have hnot : p r = false := by
      rw [← Bool.not_eq_true]
      exact fun htrue => hne (hkey.symm.trans (hp r htrue))
    simp [hnot]

omit [DecidableEq κ] in
/-- The one row that `p` selects. -/
theorem filter_eq_singleton {t : Table key} {p : α → Bool} {r : α} (hr : r ∈ t.rows)
    (h : ∀ r' ∈ t.rows, p r' = true ↔ r' = r) : t.rows.filter p = [r] := by
  have hall : ∀ r' ∈ t.rows.filter p, r' = r := by
    intro r' hr'
    obtain ⟨hmem, hp⟩ := List.mem_filter.mp hr'
    exact (h r' hmem).mp hp
  have hnodup : (t.rows.filter p).Nodup := (List.Nodup.of_map key t.nodup).filter p
  have hmem : r ∈ t.rows.filter p := List.mem_filter.mpr ⟨hr, (h r hr).mpr rfl⟩
  rw [List.eq_replicate_of_mem hall] at hnodup hmem ⊢
  have hle := List.nodup_replicate.mp hnodup
  have hpos := List.length_pos_of_mem hmem
  rw [List.length_replicate] at hpos
  rw [show (t.rows.filter p).length = 1 by omega]
  rfl

omit [DecidableEq κ] in
theorem affected_eq_zero_iff (t : Table key) (p : α → Bool) :
    t.affected p = 0 ↔ ∀ r ∈ t.rows, p r = false := by
  simp [affected, List.countP_eq_zero]

omit [DecidableEq κ] in
theorem updateWhere_of_affected_zero {t : Table key} {p : α → Bool} {f : α → α}
    (hf : ∀ r, key (f r) = key r) (h : t.affected p = 0) : t.updateWhere p f hf = t := by
  apply ext_rows
  rw [affected_eq_zero_iff] at h
  show t.rows.map (fun r => if p r then f r else r) = t.rows
  conv_rhs => rw [← List.map_id t.rows]
  apply List.map_congr_left
  intro r hr
  simp [h r hr]

omit [DecidableEq κ] in
theorem affected_le_one {t : Table key} {p : α → Bool} {k : κ}
    (hp : ∀ r, p r = true → key r = k) : t.affected p ≤ 1 := by
  obtain ⟨rows, hnd⟩ := t
  show rows.countP p ≤ 1
  induction rows with
  | nil => simp
  | cons r rows ih =>
    rw [List.map_cons, List.nodup_cons] at hnd
    have ih' := ih hnd.2
    cases hr : p r with
    | false => simpa [List.countP_cons, hr] using ih'
    | true =>
      -- the key of `r` is `k`, so no later row can be selected
      have hzero : rows.countP p = 0 := by
        rw [List.countP_eq_zero]
        intro r' hr' hpr'
        apply hnd.1
        rw [hp r hr, ← hp r' hpr']
        exact List.mem_map_of_mem hr'
      simp [hr, hzero]

/-- A predicate that fixes the key selects one row exactly when the row under that key
satisfies it. -/
theorem affected_eq_one_iff {t : Table key} {p : α → Bool} {k : κ}
    (hp : ∀ r, p r = true → key r = k) :
    t.affected p = 1 ↔ ∃ r, t.get k = some r ∧ p r = true := by
  constructor
  · intro h
    have hpos : 0 < t.rows.countP p := by
      show 0 < t.affected p
      omega
    obtain ⟨r, hr, hpr⟩ := List.countP_pos_iff.mp hpos
    exact ⟨r, (t.get_eq_some_iff k r).mpr ⟨hr, hp r hpr⟩, hpr⟩
  · rintro ⟨r, hr, hpr⟩
    have hpos : 0 < t.affected p := List.countP_pos_iff.mpr ⟨r, mem_of_get hr, hpr⟩
    have hle := affected_le_one (t := t) hp
    omega

theorem insert_eq_some_iff (t u : Table key) (r : α) :
    t.insert r = some u ↔ t.get (key r) = none ∧ u.rows = t.rows ++ [r] := by
  rw [get_eq_none_iff]
  unfold insert
  split
  · rename_i h
    obtain ⟨r', hr', hk⟩ := List.mem_map.mp h
    constructor
    · intro hh
      cases hh
    · rintro ⟨hne, _⟩
      exact absurd hk (hne r' hr')
  · rename_i h
    constructor
    · intro hh
      cases hh
      refine ⟨?_, rfl⟩
      intro r' hr' hk
      exact h (hk ▸ List.mem_map_of_mem hr')
    · rintro ⟨_, hrows⟩
      rw [Option.some.injEq]
      exact ext_rows hrows.symm

theorem exists_insert {t : Table key} {r : α} (h : ∀ r' ∈ t.rows, key r' ≠ key r) :
    ∃ u, t.insert r = some u := by
  unfold insert
  split
  · rename_i hmem
    obtain ⟨r', hr', hk⟩ := List.mem_map.mp hmem
    exact absurd hk (h r' hr')
  · exact ⟨_, rfl⟩

theorem insert_eq_none {t : Table key} {r r' : α} (h : t.get (key r) = some r') :
    t.insert r = none := by
  cases hi : t.insert r with
  | none => rfl
  | some u =>
    rw [((insert_eq_some_iff t u r).mp hi).1] at h
    cases h

theorem get_insert {t u : Table key} {r : α} (h : t.insert r = some u) (k : κ) :
    u.get k = if key r = k then some r else t.get k := by
  obtain ⟨hnone, hrows⟩ := (insert_eq_some_iff t u r).mp h
  unfold get
  rw [hrows, List.find?_append]
  by_cases hk : key r = k
  · subst hk
    have : t.rows.find? (fun r' => decide (key r' = key r)) = none := hnone
    simp [this]
  · simp [hk]

theorem mem_insert {t u : Table key} {r r' : α} (h : t.insert r = some u) :
    r' ∈ u.rows ↔ r' ∈ t.rows ∨ r' = r := by
  rw [((insert_eq_some_iff t u r).mp h).2]
  simp

omit [DecidableEq κ] in
theorem affected_congr {t : Table key} {p q : α → Bool} (h : ∀ r ∈ t.rows, p r = q r) :
    t.affected p = t.affected q := by
  show t.rows.countP p = t.rows.countP q
  exact List.countP_congr fun r hr => by rw [h r hr]

omit [DecidableEq κ] in
theorem updateWhere_congr {t : Table key} {p q : α → Bool} {f : α → α}
    {hf : ∀ r, key (f r) = key r} (h : ∀ r ∈ t.rows, p r = q r) :
    t.updateWhere p f hf = t.updateWhere q f hf := by
  apply ext_rows
  show t.rows.map _ = t.rows.map _
  apply List.map_congr_left
  intro r hr
  rw [h r hr]

/-- `u` is `t` with the row `r` under `k`. -/
def Puts (t : Table key) (k : κ) (r : α) (u : Table key) : Prop :=
  ∀ k', u.get k' = if k' = k then some r else t.get k'

theorem Puts.mem {t u : Table key} {k : κ} {r r' : α} (h : t.Puts k r u) (hr' : r' ∈ u.rows) :
    (key r' = k ∧ r' = r) ∨ r' ∈ t.rows := by
  have hget := h (key r')
  rw [get_of_mem hr'] at hget
  by_cases hk : key r' = k
  · rw [if_pos hk] at hget
    exact Or.inl ⟨hk, Option.some.inj hget⟩
  · rw [if_neg hk] at hget
    exact Or.inr (mem_of_get hget.symm)

/-- A row after a key was written: it was the row under that key, or it is still there. -/
theorem Puts.kept {t u : Table key} {k : κ} {row row' r : α} (h : t.Puts k row' u)
    (hrow : t.get k = some row) (hr : r ∈ t.rows) :
    (r = row ∧ row' ∈ u.rows) ∨ (key r ≠ k ∧ r ∈ u.rows) := by
  have hget := h (key r)
  by_cases hk : key r = k
  · rw [if_pos hk] at hget
    have hsame : r = row := by
      rw [← hk, get_of_mem hr] at hrow
      exact Option.some.inj hrow
    exact Or.inl ⟨hsame, mem_of_get hget⟩
  · rw [if_neg hk, get_of_mem hr] at hget
    exact Or.inr ⟨hk, mem_of_get hget⟩

theorem insert_puts {t u : Table key} {r : α} (h : t.insert r = some u) :
    t.get (key r) = none ∧ t.Puts (key r) r u := by
  refine ⟨((insert_eq_some_iff t u r).mp h).1, ?_⟩
  intro k'
  rw [get_insert h]
  by_cases hk : k' = key r
  · simp [hk]
  · have hk' : ¬ key r = k' := fun h => hk h.symm
    simp [hk, hk']

/-- An update whose predicate fixes the key and holds of the row stored there. -/
theorem puts_updateWhere {t : Table key} {p : α → Bool} {f : α → α}
    {hf : ∀ r, key (f r) = key r} {k : κ} {r : α} (hp : ∀ r, p r = true → key r = k)
    (hr : t.get k = some r) (hpr : p r = true) : t.Puts k (f r) (t.updateWhere p f hf) := by
  intro k'
  rw [get_updateWhere]
  by_cases hk : k' = k
  · subst hk
    simp [hr, hpr]
  · rw [if_neg hk]
    cases hg : t.get k' with
    | none => rfl
    | some r' =>
      have hne : p r' = false := by
        cases hpr' : p r' with
        | false => rfl
        | true => exact absurd ((key_of_get hg).symm.trans (hp r' hpr')) hk
      simp [hne]

/-- A compare-and-set that reported one row: the row it saw, and the table it left. -/
theorem update_puts {t : Table key} {p : α → Bool} {f : α → α}
    {hf : ∀ r, key (f r) = key r} {k : κ} (hp : ∀ r, p r = true → key r = k)
    (h : t.affected p = 1) :
    ∃ r, t.get k = some r ∧ p r = true ∧ t.Puts k (f r) (t.updateWhere p f hf) := by
  obtain ⟨r, hr, hpr⟩ := (affected_eq_one_iff hp).mp h
  exact ⟨r, hr, hpr, puts_updateWhere hp hr hpr⟩

omit [DecidableEq κ] in
theorem mem_deleteWhere {t : Table key} {p : α → Bool} {r : α} :
    r ∈ (t.deleteWhere p).rows ↔ r ∈ t.rows ∧ p r = false := by
  simp [deleteWhere]

end Table

end Relational
