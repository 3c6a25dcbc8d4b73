import GuiguBridge.Lib.Table

/-!
# Transactions that roll back on every early return

A call opens a transaction, runs statements, and either commits at its end or returns
early; an early return drops the transaction and with it every statement already run.

* `Tx σ ρ α` — a transaction body over a store `σ`: it goes on with a value and a store, or
  leaves with the value `ρ` that the whole call returns;
* `Tx.commit` — the call: the store of a body that reached its end, the untouched store of
  one that left early;
* `commit_cases` — **the inversion every proof starts from**: either the body reached its
  end, or the store did not change;
* `bind_ok`, `require_ok`, `update_ok`, `insert_ok`, … — one lemma a statement, which
  together peel a body that reached its end into what each statement saw and wrote;
* `Keeps` — the frame rule: a body leaves every view alone that its statements leave alone;
* `foldl_invariant` — what one call keeps, every sequence of calls keeps.
-/

namespace Relational

/-- A transaction body: continue with a value and a store, or leave early with `ρ`. -/
def Tx (σ ρ α : Type) : Type := σ → Except ρ (α × σ)

/-- One table of a store. -/
structure Lens (σ τ : Type) where
  get : σ → τ
  set : τ → σ → σ

namespace Tx

variable {σ ρ α β κ ι : Type}

instance : Monad (Tx σ ρ) where
  pure a := fun s => .ok (a, s)
  bind m f := fun s =>
    match m s with
    | .ok (a, s') => f a s'
    | .error r => .error r

/-- Leave the transaction; the call returns `r`. -/
def abort (r : ρ) : Tx σ ρ α := fun _ => .error r

/-- A `SELECT`. -/
def read (f : σ → α) : Tx σ ρ α := fun s => .ok (f s, s)

/-- Leave with `r` unless `c` holds. -/
def require (c : Bool) (r : ρ) : Tx σ ρ Unit := fun s => if c then .ok ((), s) else .error r

/-- Leave with `r` when there is no value. -/
def orElse (o : Option α) (r : ρ) : Tx σ ρ α := fun s =>
  match o with
  | some a => .ok (a, s)
  | none => .error r

/-- Leave with the error of a computation that failed. -/
def ofExcept (e : Except ρ α) : Tx σ ρ α := fun s =>
  match e with
  | .ok a => .ok (a, s)
  | .error r => .error r

/-- `UPDATE … SET f WHERE p`, returning the number of rows affected. -/
def update {γ : Type} {key : γ → κ} (l : Lens σ (Table key)) (p : γ → Bool) (f : γ → γ)
    (hf : ∀ r, key (f r) = key r := by intro r; rfl) : Tx σ ρ Nat := fun s =>
  .ok ((l.get s).affected p, l.set ((l.get s).updateWhere p f hf) s)

/-- `UPDATE` under a `CHECK`: leave with `r` when a row it writes fails the check. -/
def updateChecked {γ : Type} {key : γ → κ} (l : Lens σ (Table key)) (p : γ → Bool)
    (f : γ → γ) (check : γ → Bool) (r : ρ)
    (hf : ∀ r, key (f r) = key r := by intro r; rfl) : Tx σ ρ Nat := fun s =>
  if (l.get s).rows.all fun row => !p row || check (f row) then update l p f hf s
  else .error r

/-- `DELETE … WHERE p`. -/
def delete {γ : Type} {key : γ → κ} (l : Lens σ (Table key)) (p : γ → Bool) : Tx σ ρ Unit :=
  fun s => .ok ((), l.set ((l.get s).deleteWhere p) s)

/-- `INSERT`; leave with `r` when the primary key is taken. -/
def insert {γ : Type} {key : γ → κ} [DecidableEq κ] (l : Lens σ (Table key)) (row : γ)
    (r : ρ) : Tx σ ρ Unit := fun s =>
  match (l.get s).insert row with
  | some t => .ok ((), l.set t s)
  | none => .error r

/-- `INSERT … ON CONFLICT (primary key) DO NOTHING`, returning the number of rows inserted. -/
def insertOrIgnore {γ : Type} {key : γ → κ} [DecidableEq κ] (l : Lens σ (Table key))
    (row : γ) : Tx σ ρ Nat := fun s =>
  match (l.get s).insert row with
  | some t => .ok (1, l.set t s)
  | none => .ok (0, s)

/-- The call: commit at the end of the body, roll back on an early return; `early` says
what the call returns then. -/
def commit (early : ρ → β) (m : Tx σ ρ β) (s : σ) : β × σ :=
  match m s with
  | .ok (b, s') => (b, s')
  | .error r => (early r, s)

/-! ### Running a body forward -/

theorem bind_apply {m : Tx σ ρ α} {f : α → Tx σ ρ β} {s : σ} :
    (m >>= f) s = match m s with
      | .ok (a, s') => f a s'
      | .error r => .error r := rfl

theorem bind_of_error {m : Tx σ ρ α} {f : α → Tx σ ρ β} {s : σ} {r : ρ}
    (h : m s = .error r) : (m >>= f) s = .error r := by
  rw [bind_apply, h]

theorem bind_of_ok {m : Tx σ ρ α} {f : α → Tx σ ρ β} {s s' : σ} {a : α}
    (h : m s = .ok (a, s')) : (m >>= f) s = f a s' := by
  rw [bind_apply, h]

theorem pure_apply {s : σ} {a : α} : (pure a : Tx σ ρ α) s = .ok (a, s) := rfl

theorem read_apply {f : σ → α} {s : σ} : (read f : Tx σ ρ α) s = .ok (f s, s) := rfl

theorem orElse_some {a : α} {r : ρ} {s : σ} :
    (orElse (some a) r : Tx σ ρ α) s = .ok (a, s) := rfl

theorem require_true {r : ρ} {s : σ} : (require true r : Tx σ ρ Unit) s = .ok ((), s) := rfl

theorem require_false {r : ρ} {s : σ} : (require false r : Tx σ ρ Unit) s = .error r := rfl

theorem ofExcept_apply {e : Except ρ α} {s : σ} :
    (ofExcept e : Tx σ ρ α) s = e.map (·, s) := by
  cases e <;> rfl

theorem update_apply {γ : Type} {key : γ → κ} {l : Lens σ (Table key)} {p : γ → Bool}
    {f : γ → γ} {hf : ∀ r, key (f r) = key r} {s : σ} :
    (update l p f hf : Tx σ ρ Nat) s =
      .ok ((l.get s).affected p, l.set ((l.get s).updateWhere p f hf) s) := rfl

theorem insertOrIgnore_taken {γ : Type} {key : γ → κ} [DecidableEq κ] {l : Lens σ (Table key)}
    {row : γ} {s : σ} (h : (l.get s).insert row = none) :
    (insertOrIgnore l row : Tx σ ρ Nat) s = .ok (0, s) := by
  simp [insertOrIgnore, h]

theorem insert_free {γ : Type} {key : γ → κ} [DecidableEq κ] {l : Lens σ (Table key)}
    {row : γ} {r : ρ} {s : σ} {t : Table key} (h : (l.get s).insert row = some t) :
    (insert l row r : Tx σ ρ Unit) s = .ok ((), l.set t s) := by
  simp [insert, h]

/-! ### Peeling a body that reached its end -/

theorem bind_ok {m : Tx σ ρ α} {f : α → Tx σ ρ β} {s s' : σ} {b : β} :
    (m >>= f) s = .ok (b, s') ↔ ∃ a s₁, m s = .ok (a, s₁) ∧ f a s₁ = .ok (b, s') := by
  show (match m s with | .ok (a, s₁) => f a s₁ | .error r => .error r) = _ ↔ _
  cases h : m s with
  | error r => simp
  | ok v =>
    obtain ⟨a, s₁⟩ := v
    simp

theorem pure_ok {s s' : σ} {a b : α} :
    (pure a : Tx σ ρ α) s = .ok (b, s') ↔ a = b ∧ s = s' := by
  show (Except.ok (a, s) : Except ρ (α × σ)) = .ok (b, s') ↔ _
  simp

theorem abort_ok {s s' : σ} {r : ρ} {b : α} :
    (abort r : Tx σ ρ α) s = .ok (b, s') ↔ False := by
  simp [abort]

theorem read_ok {f : σ → α} {s s' : σ} {b : α} :
    (read f : Tx σ ρ α) s = .ok (b, s') ↔ f s = b ∧ s = s' := by
  simp [read]

theorem require_ok {c : Bool} {r : ρ} {s s' : σ} {u : Unit} :
    (require c r : Tx σ ρ Unit) s = .ok (u, s') ↔ c = true ∧ s = s' := by
  cases c <;> simp [require]

theorem orElse_ok {o : Option α} {r : ρ} {s s' : σ} {b : α} :
    (orElse o r : Tx σ ρ α) s = .ok (b, s') ↔ o = some b ∧ s = s' := by
  cases o <;> simp [orElse]

theorem ofExcept_ok {e : Except ρ α} {s s' : σ} {b : α} :
    (ofExcept e : Tx σ ρ α) s = .ok (b, s') ↔ e = .ok b ∧ s = s' := by
  cases e <;> simp [ofExcept]

theorem update_ok {γ : Type} {key : γ → κ} {l : Lens σ (Table key)} {p : γ → Bool}
    {f : γ → γ} {hf : ∀ r, key (f r) = key r} {s s' : σ} {n : Nat} :
    (update l p f hf : Tx σ ρ Nat) s = .ok (n, s') ↔
      (l.get s).affected p = n ∧ l.set ((l.get s).updateWhere p f hf) s = s' := by
  simp [update]

theorem updateChecked_ok {γ : Type} {key : γ → κ} {l : Lens σ (Table key)} {p : γ → Bool}
    {f : γ → γ} {check : γ → Bool} {r : ρ} {hf : ∀ r, key (f r) = key r} {s s' : σ} {n : Nat} :
    (updateChecked l p f check r hf : Tx σ ρ Nat) s = .ok (n, s') ↔
      ((l.get s).rows.all fun row => !p row || check (f row)) = true ∧
        (l.get s).affected p = n ∧ l.set ((l.get s).updateWhere p f hf) s = s' := by
  unfold updateChecked
  cases (l.get s).rows.all fun row => !p row || check (f row) <;> simp [update]

theorem delete_ok {γ : Type} {key : γ → κ} {l : Lens σ (Table key)} {p : γ → Bool}
    {s s' : σ} {u : Unit} :
    (delete l p : Tx σ ρ Unit) s = .ok (u, s') ↔ l.set ((l.get s).deleteWhere p) s = s' := by
  simp [delete]

theorem insert_ok {γ : Type} {key : γ → κ} [DecidableEq κ] {l : Lens σ (Table key)} {row : γ}
    {r : ρ} {s s' : σ} {u : Unit} :
    (insert l row r : Tx σ ρ Unit) s = .ok (u, s') ↔
      ∃ t, (l.get s).insert row = some t ∧ l.set t s = s' := by
  unfold insert
  cases (l.get s).insert row <;> simp

theorem insertOrIgnore_ok {γ : Type} {key : γ → κ} [DecidableEq κ] {l : Lens σ (Table key)}
    {row : γ} {s s' : σ} {n : Nat} :
    (insertOrIgnore l row : Tx σ ρ Nat) s = .ok (n, s') ↔
      (n = 1 ∧ ∃ t, (l.get s).insert row = some t ∧ l.set t s = s') ∨
        (n = 0 ∧ (l.get s).insert row = none ∧ s = s') := by
  unfold insertOrIgnore
  cases (l.get s).insert row <;> simp <;> omega

theorem ite_ok {c : Prop} [Decidable c] {m n : Tx σ ρ α} {s s' : σ} {b : α} :
    (if c then m else n) s = .ok (b, s') ↔
      (c ∧ m s = .ok (b, s')) ∨ (¬ c ∧ n s = .ok (b, s')) := by
  by_cases h : c <;> simp [h]

/-! ### The call as a whole -/

/-- A call either ran its body to the end or left the store as it was. -/
theorem commit_cases {early : ρ → β} {m : Tx σ ρ β} {s s' : σ} {b : β}
    (h : commit early m s = (b, s')) :
    m s = .ok (b, s') ∨ (s' = s ∧ ∃ r, m s = .error r ∧ b = early r) := by
  unfold commit at h
  cases hm : m s with
  | ok v =>
    obtain ⟨a, s₁⟩ := v
    rw [hm] at h
    exact Or.inl (by simpa using h)
  | error r =>
    rw [hm] at h
    simp only [Prod.mk.injEq] at h
    exact Or.inr ⟨h.2.symm, r, rfl, h.1.symm⟩

/-- A body that does not reach its end leaves the store as it was. -/
theorem commit_of_error {early : ρ → β} {m : Tx σ ρ β} {s : σ} {r : ρ}
    (h : m s = .error r) : commit early m s = (early r, s) := by
  simp [commit, h]

theorem commit_of_ok {early : ρ → β} {m : Tx σ ρ β} {s s' : σ} {b : β}
    (h : m s = .ok (b, s')) : commit early m s = (b, s') := by
  simp [commit, h]

/-- What a transaction reports that ran to its end in `s'`. -/
theorem commit_fst {early : ρ → β} {m : Tx σ ρ β} {s : σ} {b : β} (s' : σ)
    (h : m s = .ok (b, s')) : (commit early m s).1 = b := by
  rw [commit_of_ok h]

/-! ### What an early return can be -/

/-- Every early return of the body satisfies `P`. -/
def Aborts (P : ρ → Prop) (m : Tx σ ρ α) : Prop := ∀ s r, m s = .error r → P r

section

variable {P : ρ → Prop}

theorem Aborts.of_error {m : Tx σ ρ α} {s : σ} {r : ρ} (hm : m s = .error r)
    (h : Aborts P m) : P r := h s r hm

@[simp] theorem aborts_pure (a : α) : Aborts P (pure a : Tx σ ρ α) := by
  intro s r h
  cases h

@[simp] theorem aborts_read (f : σ → α) : Aborts P (read f : Tx σ ρ α) := by
  intro s r h
  cases h

@[simp] theorem aborts_update {γ : Type} {key : γ → κ} (l : Lens σ (Table key))
    (p : γ → Bool) (f : γ → γ) (hf : ∀ r, key (f r) = key r) :
    Aborts P (update l p f hf : Tx σ ρ Nat) := by
  intro s r h
  cases h

@[simp] theorem aborts_delete {γ : Type} {key : γ → κ} (l : Lens σ (Table key))
    (p : γ → Bool) : Aborts P (delete l p : Tx σ ρ Unit) := by
  intro s r h
  cases h

@[simp] theorem aborts_insertOrIgnore {γ : Type} {key : γ → κ} [DecidableEq κ]
    (l : Lens σ (Table key)) (row : γ) : Aborts P (insertOrIgnore l row : Tx σ ρ Nat) := by
  intro s r h
  unfold insertOrIgnore at h
  split at h <;> cases h

@[simp] theorem aborts_require {c : Bool} {r : ρ} (h : P r) :
    Aborts P (require c r : Tx σ ρ Unit) := by
  intro s r' hr
  cases c with
  | true => cases hr
  | false =>
    cases hr
    exact h

@[simp] theorem aborts_orElse {o : Option α} {r : ρ} (h : P r) :
    Aborts P (orElse o r : Tx σ ρ α) := by
  intro s r' hr
  cases o with
  | some a => cases hr
  | none =>
    cases hr
    exact h

@[simp] theorem aborts_insert {γ : Type} {key : γ → κ} [DecidableEq κ]
    {l : Lens σ (Table key)} {row : γ} {r : ρ} (h : P r) :
    Aborts P (insert l row r : Tx σ ρ Unit) := by
  intro s r' hr
  unfold insert at hr
  split at hr
  · cases hr
  · cases hr
    exact h

@[simp] theorem aborts_updateChecked {γ : Type} {key : γ → κ} {l : Lens σ (Table key)}
    {p : γ → Bool} {f : γ → γ} {check : γ → Bool} {r : ρ} {hf : ∀ r, key (f r) = key r}
    (h : P r) : Aborts P (updateChecked l p f check r hf : Tx σ ρ Nat) := by
  intro s r' hr
  unfold updateChecked at hr
  split at hr
  · cases hr
  · cases hr
    exact h

theorem aborts_bind {m : Tx σ ρ α} {f : α → Tx σ ρ β} (hm : Aborts P m)
    (hf : ∀ a, Aborts P (f a)) : Aborts P (m >>= f) := by
  intro s r h
  rw [bind_apply] at h
  cases hms : m s with
  | error r' =>
    rw [hms] at h
    cases h
    exact hm s r hms
  | ok v =>
    rw [hms] at h
    exact hf v.1 v.2 r h

theorem aborts_ite {c : Prop} [Decidable c] {m n : Tx σ ρ α} (hm : Aborts P m)
    (hn : Aborts P n) : Aborts P (if c then m else n) := by
  split
  · exact hm
  · exact hn

end

end Tx

/-! ### What a body leaves alone -/

/-- The view `π` of the store does not see the table of `l`. -/
def Lens.Apart {σ τ υ : Type} (l : Lens σ τ) (π : σ → υ) : Prop := ∀ t s, π (l.set t s) = π s

namespace Tx

variable {σ ρ α β κ υ : Type} {π : σ → υ}

/-- A body that reaches its end leaves the view as it was. -/
def Keeps (π : σ → υ) (m : Tx σ ρ α) : Prop := ∀ s a s', m s = .ok (a, s') → π s' = π s

/-- **The frame rule**: then so does the call, whether it commits or not. -/
theorem Keeps.commit {m : Tx σ ρ β} (h : Keeps π m) (early : ρ → β) (s : σ) :
    π (commit early m s).2 = π s := by
  obtain ⟨b, s', hcall⟩ : ∃ b s', Tx.commit early m s = (b, s') := ⟨_, _, rfl⟩
  rw [hcall]
  rcases commit_cases hcall with hok | ⟨rfl, -⟩
  · exact h s b s' hok
  · rfl

theorem keeps_pure (a : α) : Keeps π (pure a : Tx σ ρ α) := by
  intro s b s' h
  rw [(pure_ok.1 h).2]

theorem keeps_read (f : σ → α) : Keeps π (read f : Tx σ ρ α) := by
  intro s b s' h
  rw [(read_ok.1 h).2]

theorem keeps_require (c : Bool) (r : ρ) : Keeps π (require c r : Tx σ ρ Unit) := by
  intro s u s' h
  rw [(require_ok.1 h).2]

theorem keeps_orElse (o : Option α) (r : ρ) : Keeps π (orElse o r : Tx σ ρ α) := by
  intro s b s' h
  rw [(orElse_ok.1 h).2]

theorem keeps_bind {m : Tx σ ρ α} {f : α → Tx σ ρ β} (hm : Keeps π m)
    (hf : ∀ a, Keeps π (f a)) : Keeps π (m >>= f) := by
  intro s b s' h
  obtain ⟨a, s₁, hms, hfs⟩ := bind_ok.1 h
  rw [hf a s₁ b s' hfs, hm s a s₁ hms]

theorem keeps_ite {c : Prop} [Decidable c] {m n : Tx σ ρ α} (hm : Keeps π m)
    (hn : Keeps π n) : Keeps π (if c then m else n) := by
  split
  · exact hm
  · exact hn

section

variable {γ : Type} {key : γ → κ} {l : Lens σ (Table key)} (hl : l.Apart π)

include hl

theorem keeps_update (p : γ → Bool) (f : γ → γ) (hf : ∀ r, key (f r) = key r) :
    Keeps π (update l p f hf : Tx σ ρ Nat) := by
  intro s n s' h
  obtain ⟨-, rfl⟩ := update_ok.1 h
  exact hl _ s

theorem keeps_insert [DecidableEq κ] (row : γ) (r : ρ) :
    Keeps π (insert l row r : Tx σ ρ Unit) := by
  intro s u s' h
  obtain ⟨t, -, rfl⟩ := insert_ok.1 h
  exact hl t s

theorem keeps_insertOrIgnore [DecidableEq κ] (row : γ) :
    Keeps π (insertOrIgnore l row : Tx σ ρ Nat) := by
  intro s n s' h
  rcases insertOrIgnore_ok.1 h with ⟨-, t, -, rfl⟩ | ⟨-, -, rfl⟩
  · exact hl t s
  · rfl

end

end Tx

/-- **The run rule.**  What holds at the start and survives every call holds after any
sequence of calls. -/
theorem foldl_invariant {σ ι : Type} {step : σ → ι → σ} (P : σ → Prop)
    (hstep : ∀ s c, P s → P (step s c)) (calls : List ι) {s : σ} (hs : P s) :
    P (calls.foldl step s) := by
  induction calls generalizing s with
  | nil => exact hs
  | cons c calls ih => exact ih (hstep s c hs)

end Relational
