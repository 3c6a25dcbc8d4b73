import Mathlib.Tactic.Common

/-!
# Programs that fail without rolling back

A program runs over a state and ends with a value or an error.  Unlike a transaction it keeps
what it did to the state before it failed.

* `Prog σ ε α` — the monad, with `throw`, `act` (an effect that cannot fail), `attempt`
  (catch) and `ensure` (run this afterwards in either case);
* `Triple P m Q E` — **total in the state, partial in nothing**: from a state in `P` the
  program ends, in `Q` with its value or in `E` with its error;
* `Triple.bind`, `Triple.ite`, … — one rule a construct, which together take a program apart
  along its text;
* `Within R m` — the program cannot fail and moves the state only along `R`, so **what `R`
  keeps, the program keeps** (`Triple.within`);
* `Steady R m` — the program moves the state only along `R`, **with whatever it ends**.
-/

/-- A program over the state `σ` that ends with a value or an error. -/
def Prog (σ ε α : Type) : Type := σ → Except ε α × σ

namespace Prog

variable {σ ε α β : Type}

instance : Monad (Prog σ ε) where
  pure a := fun s => (.ok a, s)
  bind m f := fun s =>
    match m s with
    | (.ok a, s') => f a s'
    | (.error e, s') => (.error e, s')

/-- End with an error. -/
def throw (e : ε) : Prog σ ε α := fun s => (.error e, s)

/-- An effect that cannot fail. -/
def act (f : σ → α × σ) : Prog σ ε α := fun s => (.ok (f s).1, (f s).2)

/-- Run the program and hand its result on as a value. -/
def attempt (m : Prog σ ε α) : Prog σ ε (Except ε α) := fun s => (.ok (m s).1, (m s).2)

/-- Run `f` after the program, whether it failed or not. -/
def ensure (m : Prog σ ε α) (f : σ → σ) : Prog σ ε α := fun s => ((m s).1, f (m s).2)

theorem bind_of_ok {m : Prog σ ε α} {f : α → Prog σ ε β} {s s' : σ} {a : α}
    (h : m s = (.ok a, s')) : (m >>= f) s = f a s' := by
  show (match m s with
    | (.ok a, s') => f a s'
    | (.error e, s') => (.error e, s')) = f a s'
  rw [h]

theorem bind_of_error {m : Prog σ ε α} {f : α → Prog σ ε β} {s s' : σ} {e : ε}
    (h : m s = (.error e, s')) : (m >>= f) s = (.error e, s') := by
  show (match m s with
    | (.ok a, s') => f a s'
    | (.error e, s') => (.error e, s')) = (.error e, s')
  rw [h]

/-- From a state in `P` the program ends in `Q` with a value or in `E` with an error. -/
def Triple (P : σ → Prop) (m : Prog σ ε α) (Q : α → σ → Prop) (E : ε → σ → Prop) : Prop :=
  ∀ s, P s → match m s with
    | (.ok a, s') => Q a s'
    | (.error e, s') => E e s'

namespace Triple

variable {P P' : σ → Prop} {Q Q' : α → σ → Prop} {E E' : ε → σ → Prop}

theorem of_error {m : Prog σ ε α} (h : Triple P m Q E) {s s' : σ} {e : ε} (hs : P s)
    (hm : m s = (.error e, s')) : E e s' := by
  have hh := h s hs
  rw [hm] at hh
  exact hh

theorem pure {a : α} (h : ∀ s, P s → Q a s) : Triple P (pure a : Prog σ ε α) Q E :=
  fun s hs => h s hs

theorem throw {e : ε} (h : ∀ s, P s → E e s) : Triple P (throw e : Prog σ ε α) Q E :=
  fun s hs => h s hs

theorem act {f : σ → α × σ} (h : ∀ s, P s → Q (f s).1 (f s).2) :
    Triple P (act f : Prog σ ε α) Q E :=
  fun s hs => h s hs

theorem bind {m : Prog σ ε α} {f : α → Prog σ ε β} {R : β → σ → Prop}
    (hm : Triple P m Q E) (hf : ∀ a, Triple (Q a) (f a) R E) : Triple P (m >>= f) R E := by
  intro s hs
  have hh := hm s hs
  show match (match m s with
      | (.ok a, s') => f a s'
      | (.error e, s') => (.error e, s')) with
    | (.ok b, s') => R b s'
    | (.error e, s') => E e s'
  cases hms : m s with
  | mk r s' =>
    rw [hms] at hh
    cases r with
    | ok a => exact hf a s' hh
    | error e => exact hh

theorem ensure {m : Prog σ ε α} {f : σ → σ} (h : Triple P m Q E)
    (hq : ∀ a s, Q a s → Q' a (f s)) (he : ∀ e s, E e s → E' e (f s)) :
    Triple P (ensure m f) Q' E' := by
  intro s hs
  have hh := h s hs
  show match ((m s).1, f (m s).2) with
    | (.ok a, s') => Q' a s'
    | (.error e, s') => E' e s'
  cases hms : m s with
  | mk r s' =>
    rw [hms] at hh
    cases r with
    | ok a => exact hq a s' hh
    | error e => exact he e s' hh

theorem conseq {m : Prog σ ε α} (h : Triple P m Q E) (hp : ∀ s, P' s → P s)
    (hq : ∀ a s, Q a s → Q' a s) (he : ∀ e s, E e s → E' e s) : Triple P' m Q' E' := by
  intro s hs
  have hh := h s (hp s hs)
  cases hms : m s with
  | mk r s' =>
    rw [hms] at hh
    cases r with
    | ok a => exact hq a s' hh
    | error e => exact he e s' hh

theorem pre {m : Prog σ ε α} (h : Triple P m Q E) (hp : ∀ s, P' s → P s) : Triple P' m Q E :=
  h.conseq hp (fun _ _ hq => hq) fun _ _ he => he

theorem post {m : Prog σ ε α} (h : Triple P m Q E) (hq : ∀ a s, Q a s → Q' a s) :
    Triple P m Q' E :=
  h.conseq (fun _ hp => hp) hq fun _ _ he => he

theorem ite {c : Prop} [Decidable c] {m n : Prog σ ε α} (hm : c → Triple P m Q E)
    (hn : ¬ c → Triple P n Q E) : Triple P (if c then m else n) Q E := by
  split
  · exact hm ‹_›
  · exact hn ‹_›

/-- A precondition that carries a fact about the program's inputs. -/
theorem assume {p : Prop} {m : Prog σ ε α} (h : p → Triple P m Q E) :
    Triple (fun s => p ∧ P s) m Q E :=
  fun s hs => h hs.1 s hs.2

/-- A precondition that names something the program does not see. -/
theorem exists_pre {ι : Type} {P : ι → σ → Prop} {m : Prog σ ε α}
    (h : ∀ i, Triple (P i) m Q E) : Triple (fun s => ∃ i, P i s) m Q E := by
  intro s hs
  obtain ⟨i, hi⟩ := hs
  exact h i s hi

end Triple

/-! ### Programs that cannot fail -/

/-- The program ends with a value, and moves the state along `R`. -/
def Within (R : σ → σ → Prop) (m : Prog σ ε α) : Prop :=
  ∀ s, ∃ a s', m s = (.ok a, s') ∧ R s s'

namespace Within

variable {R : σ → σ → Prop}

theorem pure {a : α} (hr : ∀ s, R s s) : Within R (pure a : Prog σ ε α) :=
  fun s => ⟨a, s, rfl, hr s⟩

theorem act {f : σ → α × σ} (h : ∀ s, R s (f s).2) : Within R (act f : Prog σ ε α) :=
  fun s => ⟨(f s).1, (f s).2, rfl, h s⟩

theorem mono {R' : σ → σ → Prop} {m : Prog σ ε α} (hm : Within R m)
    (h : ∀ s s', R s s' → R' s s') : Within R' m := by
  intro s
  obtain ⟨a, s', hms, hr⟩ := hm s
  exact ⟨a, s', hms, h s s' hr⟩

theorem bind {m : Prog σ ε α} {f : α → Prog σ ε β} (ht : ∀ a b c, R a b → R b c → R a c)
    (hm : Within R m) (hf : ∀ a, Within R (f a)) : Within R (m >>= f) := by
  intro s
  obtain ⟨a, s₁, hms, hr⟩ := hm s
  obtain ⟨b, s₂, hfs, hr'⟩ := hf a s₁
  refine ⟨b, s₂, ?_, ht s s₁ s₂ hr hr'⟩
  show (match m s with
    | (.ok a, s') => f a s'
    | (.error e, s') => (.error e, s')) = (.ok b, s₂)
  rw [hms]
  exact hfs

end Within

/-- What `R` keeps, a program within `R` keeps. -/
theorem Triple.within {R : σ → σ → Prop} {P : σ → Prop} {E : ε → σ → Prop} {m : Prog σ ε α}
    (hm : Within R m) (hp : ∀ s s', R s s' → P s → P s') : Triple P m (fun _ => P) E := by
  intro s hs
  obtain ⟨a, s', hms, hr⟩ := hm s
  rw [hms]
  exact hp s s' hr hs

/-! ### Programs that may fail -/

/-- The program moves the state along `R`, with whatever it ends. -/
def Steady (R : σ → σ → Prop) (m : Prog σ ε α) : Prop := ∀ s, R s (m s).2

namespace Steady

variable {R : σ → σ → Prop}

theorem pure {a : α} (hr : ∀ s, R s s) : Steady R (pure a : Prog σ ε α) := hr

theorem throw {e : ε} (hr : ∀ s, R s s) : Steady R (throw e : Prog σ ε α) := hr

theorem act {f : σ → α × σ} (h : ∀ s, R s (f s).2) : Steady R (act f : Prog σ ε α) := h

theorem bind {m : Prog σ ε α} {f : α → Prog σ ε β} (ht : ∀ a b c, R a b → R b c → R a c)
    (hm : Steady R m) (hf : ∀ a, Steady R (f a)) : Steady R (m >>= f) := by
  intro s
  have hfirst := hm s
  cases hms : m s with
  | mk r s₁ =>
    rw [hms] at hfirst
    cases r with
    | ok a =>
      rw [bind_of_ok hms]
      exact ht s s₁ _ hfirst (hf a s₁)
    | error e =>
      rw [bind_of_error hms]
      exact hfirst

theorem ensure {m : Prog σ ε α} {f : σ → σ} (ht : ∀ a b c, R a b → R b c → R a c)
    (hm : Steady R m) (hf : ∀ s, R s (f s)) : Steady R (ensure m f) :=
  fun s => ht s _ _ (hm s) (hf _)

end Steady

end Prog
