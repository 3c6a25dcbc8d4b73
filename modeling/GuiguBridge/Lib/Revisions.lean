import GuiguBridge.Lib.Table

/-!
# Tables of revisions

A table that keeps every revision of what an owner holds, one of them marked as the current one.
A writer takes the mark from the current row and adds the next revision with it.

* `Revisions` — how a row shows its owner, its revision and the mark;
* `Chain` — the revisions of an owner are `1, …, n` and the last is current;
* `Along` — a relation of every revision to every later one;
* `Chain.supersede`, `Along.supersede` — **what one more revision keeps**.
-/

namespace Relational

/-- How a row shows its owner, its revision and the mark, and how the mark is taken. -/
structure Revisions (ω α : Type) where
  owner : α → ω
  revision : α → Nat
  current : α → Bool
  demote : α → α
  owner_demote : ∀ r, owner (demote r) = owner r
  revision_demote : ∀ r, revision (demote r) = revision r
  current_demote : ∀ r, current (demote r) = false
  demote_eq : ∀ r, current r = false → demote r = r

namespace Revisions

variable {κ α ω : Type} {key : α → κ} (S : Revisions ω α)

/-- The revisions of an owner are `1, …, n`, once each, and the last is current. -/
structure Chain (t : Table key) (o : ω) (n : Nat) : Prop where
  revisions : ∀ k, (∃ r ∈ t.rows, S.owner r = o ∧ S.revision r = k) ↔ 1 ≤ k ∧ k ≤ n
  unique : ∀ r ∈ t.rows, ∀ r' ∈ t.rows, S.owner r = o → S.owner r' = o →
    S.revision r' = S.revision r → r' = r
  current : ∀ r ∈ t.rows, S.owner r = o → (S.current r = true ↔ S.revision r = n)

/-- Every revision of an owner stands in `R` to itself and to every later one. -/
def Along (R : α → α → Prop) (t : Table key) (o : ω) : Prop :=
  ∀ r ∈ t.rows, ∀ r' ∈ t.rows, S.owner r = o → S.owner r' = o →
    S.revision r ≤ S.revision r' → R r r'

/-- One more revision of an owner: its rows lose the mark and `new` is added. -/
def Supersedes (t v : Table key) (o : ω) (new : α) : Prop :=
  ∀ r, r ∈ v.rows ↔ r = new ∨ ∃ r' ∈ t.rows,
    (S.owner r' ≠ o ∧ r = r') ∨ (S.owner r' = o ∧ r = S.demote r')

variable {S} {t v : Table key} {o o' : ω} {new : α} {n : Nat} {R : α → α → Prop}

theorem chain_zero (h : ∀ r ∈ t.rows, S.owner r ≠ o) : S.Chain t o 0 where
  revisions k := by
    constructor
    · rintro ⟨r, hr, ho, -⟩
      exact absurd ho (h r hr)
    · omega
  unique r hr _ _ ho := absurd ho (h r hr)
  current r hr ho := absurd ho (h r hr)

theorem along_zero (h : ∀ r ∈ t.rows, S.owner r ≠ o) : S.Along R t o :=
  fun r hr _ _ ho => absurd ho (h r hr)

/-- The statements of a writer: the mark is taken, and the new row is inserted. -/
theorem supersedes_insert [DecidableEq κ] [DecidableEq ω] (hkey : ∀ r, key (S.demote r) = key r)
    (h : (t.updateWhere (fun r => decide (S.owner r = o) && S.current r) S.demote hkey).insert
      new = some v) : S.Supersedes t v o new := by
  intro r
  rw [Table.mem_insert h, Table.mem_updateWhere]
  constructor
  · rintro ((⟨r', hr', hp, rfl⟩ | ⟨hr, hp⟩) | rfl)
    · rw [Bool.and_eq_true, decide_eq_true_eq] at hp
      exact Or.inr ⟨r', hr', Or.inr ⟨hp.1, rfl⟩⟩
    · refine Or.inr ⟨r, hr, ?_⟩
      by_cases ho : S.owner r = o
      · have hcurrent : S.current r = false := by simpa [ho] using hp
        exact Or.inr ⟨ho, (S.demote_eq r hcurrent).symm⟩
      · exact Or.inl ⟨ho, rfl⟩
    · exact Or.inl rfl
  · rintro (rfl | ⟨r', hr', ⟨ho, rfl⟩ | ⟨ho, rfl⟩⟩)
    · exact Or.inr rfl
    · exact Or.inl (Or.inr ⟨hr', by simp [ho]⟩)
    · refine Or.inl ?_
      by_cases hcurrent : S.current r' = true
      · exact Or.inl ⟨r', hr', by simp [ho, hcurrent], rfl⟩
      · have hcurrent : S.current r' = false := by simpa using hcurrent
        rw [S.demote_eq r' hcurrent]
        exact Or.inr ⟨hr', by simp [hcurrent]⟩

section

variable (hs : S.Supersedes t v o new) (hnew : S.owner new = o)

include hs hnew

omit hnew in
/-- A row of the owner is the new one, or an old one without the mark. -/
theorem Supersedes.owned {r : α} (hr : r ∈ v.rows) (ho : S.owner r = o) :
    r = new ∨ ∃ r' ∈ t.rows, S.owner r' = o ∧ r = S.demote r' := by
  rcases (hs r).mp hr with h | ⟨r', hr', ⟨hne, rfl⟩ | ⟨ho', h⟩⟩
  · exact Or.inl h
  · exact absurd ho hne
  · exact Or.inr ⟨r', hr', ho', h⟩

/-- The rows of another owner are the same. -/
theorem Supersedes.other (hne : o' ≠ o) (r : α) :
    (r ∈ v.rows ∧ S.owner r = o') ↔ (r ∈ t.rows ∧ S.owner r = o') := by
  constructor
  · rintro ⟨hr, ho⟩
    rcases (hs r).mp hr with rfl | ⟨r', hr', ⟨-, rfl⟩ | ⟨ho', rfl⟩⟩
    · exact absurd (ho.symm.trans hnew) hne
    · exact ⟨hr', ho⟩
    · rw [S.owner_demote, ho'] at ho
      exact absurd ho.symm hne
  · rintro ⟨hr, ho⟩
    exact ⟨(hs r).mpr (Or.inr ⟨r, hr, Or.inl ⟨fun h => hne (ho.symm.trans h), rfl⟩⟩), ho⟩

/-- **One more revision.** -/
theorem Chain.supersede (h : S.Chain t o n) (hrevision : S.revision new = n + 1)
    (hcurrent : S.current new = true) : S.Chain v o (n + 1) where
  revisions k := by
    constructor
    · rintro ⟨r, hr, ho, rfl⟩
      rcases hs.owned hr ho with rfl | ⟨r', hr', ho', rfl⟩
      · omega
      · have hk := (h.revisions (S.revision r')).mp ⟨r', hr', ho', rfl⟩
        rw [S.revision_demote]
        omega
    · intro hk
      by_cases hlast : k = n + 1
      · exact ⟨new, (hs new).mpr (Or.inl rfl), hnew, by omega⟩
      · obtain ⟨r, hr, ho, hrev⟩ := (h.revisions k).mpr (by omega)
        exact ⟨S.demote r, (hs _).mpr (Or.inr ⟨r, hr, Or.inr ⟨ho, rfl⟩⟩),
          (S.owner_demote r).trans ho, (S.revision_demote r).trans hrev⟩
  unique r hr r' hr' ho ho' hrev := by
    have hold {x : α} (hx : x ∈ t.rows) (hox : S.owner x = o) : S.revision x ≤ n :=
      ((h.revisions (S.revision x)).mp ⟨x, hx, hox, rfl⟩).2
    rcases hs.owned hr ho with rfl | ⟨x, hx, hox, rfl⟩
    · rcases hs.owned hr' ho' with rfl | ⟨y, hy, hoy, rfl⟩
      · rfl
      · have hle := hold hy hoy
        rw [S.revision_demote] at hrev
        omega
    · rcases hs.owned hr' ho' with rfl | ⟨y, hy, hoy, rfl⟩
      · have hle := hold hx hox
        rw [S.revision_demote] at hrev
        omega
      · rw [S.revision_demote, S.revision_demote] at hrev
        rw [h.unique x hx y hy hox hoy hrev]
  current r hr ho := by
    rcases hs.owned hr ho with rfl | ⟨x, hx, hox, rfl⟩
    · simp [hcurrent, hrevision]
    · have hle := ((h.revisions (S.revision x)).mp ⟨x, hx, hox, rfl⟩).2
      rw [S.current_demote, S.revision_demote]
      constructor
      · exact nofun
      · omega

/-- Another owner's revisions. -/
theorem Chain.other (h : S.Chain t o' n) (hne : o' ≠ o) : S.Chain v o' n := by
  have hmem := hs.other hnew hne
  constructor
  · intro k
    rw [← h.revisions k]
    constructor
    · rintro ⟨r, hr, ho, hrev⟩
      exact ⟨r, ((hmem r).mp ⟨hr, ho⟩).1, ho, hrev⟩
    · rintro ⟨r, hr, ho, hrev⟩
      exact ⟨r, ((hmem r).mpr ⟨hr, ho⟩).1, ho, hrev⟩
  · intro r hr r' hr' ho ho'
    exact h.unique r ((hmem r).mp ⟨hr, ho⟩).1 r' ((hmem r').mp ⟨hr', ho'⟩).1 ho ho'
  · intro r hr ho
    exact h.current r ((hmem r).mp ⟨hr, ho⟩).1 ho

/-- A relation that does not see the mark goes on when the last revision stands in it to the new
one. -/
theorem Along.supersede (hdemote : ∀ r r', R r r' → R (S.demote r) (S.demote r'))
    (htrans : ∀ a b c, R a b → R b c → R a c) (hrefl : R new new) (h : S.Chain t o n)
    (halong : S.Along R t o) (hrevision : S.revision new = n + 1)
    (hlast : ∀ r ∈ t.rows, S.owner r = o → S.revision r = n → R (S.demote r) new) :
    S.Along R v o := by
  intro r hr r' hr' ho ho' hle
  have hold {x : α} (hx : x ∈ t.rows) (hox : S.owner x = o) :
      1 ≤ S.revision x ∧ S.revision x ≤ n :=
    (h.revisions (S.revision x)).mp ⟨x, hx, hox, rfl⟩
  rcases hs.owned hr ho with rfl | ⟨x, hx, hox, rfl⟩
  · rcases hs.owned hr' ho' with rfl | ⟨y, hy, hoy, rfl⟩
    · exact hrefl
    · have hbound := hold hy hoy
      rw [S.revision_demote] at hle
      omega
  · have hbound := hold hx hox
    rcases hs.owned hr' ho' with rfl | ⟨y, hy, hoy, rfl⟩
    · -- through the last of the old revisions
      obtain ⟨z, hz, hoz, hzn⟩ := (h.revisions n).mpr ⟨by omega, Nat.le_refl n⟩
      exact htrans _ _ _ (hdemote _ _ (halong x hx z hz hox hoz (by omega))) (hlast z hz hoz hzn)
    · rw [S.revision_demote, S.revision_demote] at hle
      exact hdemote _ _ (halong x hx y hy hox hoy hle)

theorem Along.other (h : S.Along R t o') (hne : o' ≠ o) : S.Along R v o' := by
  have hmem := hs.other hnew hne
  intro r hr r' hr' ho ho'
  exact h r ((hmem r).mp ⟨hr, ho⟩).1 r' ((hmem r').mp ⟨hr', ho'⟩).1 ho ho'

end

end Revisions

end Relational
