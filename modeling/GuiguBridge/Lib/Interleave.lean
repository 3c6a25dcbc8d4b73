import Mathlib.Tactic.Common

/-!
# Processes over a shared store

Any number of processes take turns, one atomic step each, on one store; the rest of the world
writes the store in between.  A process that crashed is one that takes no further step.

* `System` — what one step of a process does and what the rest of the world may do;
* `World`, `System.move`, `System.worldAt` — the store, the processes in their places and the
  log of what they did, after a number of moves;
* `System.Safe`, `Safe.worldAt` — **the rule of non-interference**: a fact about store and log
  together with one about each process, kept by the steps of that process, of every other one
  and of the world, holds in every world of every run;
* `System.mono` — what every move respects, every later world respects;
* `System.checks` — a condition on every move of a run, computed.
-/

namespace Interleave

variable {σ π ι ε ο : Type}

/-- The store, the processes and what they did so far. -/
structure World (σ π ο : Type) where
  store : σ
  procs : List π
  log : List ο

/-- The processes of a kind, counted after one of them moved. -/
theorem countP_set_add (kind : π → Bool) {ps : List π} {index : Nat} {p : π} (p' : π)
    (h : ps[index]? = some p) :
    (ps.set index p').countP kind + (if kind p then 1 else 0) =
      ps.countP kind + (if kind p' then 1 else 0) := by
  obtain ⟨hlt, hget⟩ := List.getElem?_eq_some_iff.mp h
  rw [List.countP_set hlt, hget]
  have hone : (if kind p = true then 1 else 0) ≤ ps.countP kind := by
    split
    · rename_i hp
      exact List.countP_pos_iff.mpr ⟨p, List.mem_of_getElem? h, hp⟩
    · exact Nat.zero_le _
  omega

/-- Where at most one process is of a kind, it has one place. -/
theorem eq_of_countP_le_one {kind : π → Bool} {ps : List π} {i j : Nat} {p q : π}
    (hone : ps.countP kind ≤ 1) (hi : ps[i]? = some p) (hj : ps[j]? = some q)
    (hp : kind p = true) (hq : kind q = true) : i = j := by
  induction ps generalizing i j with
  | nil => simp at hi
  | cons r ps ih =>
    rw [List.countP_cons] at hone
    cases i with
    | zero =>
      cases j with
      | zero => rfl
      | succ j =>
        have hr : r = p := by simpa using hi
        have hpos : 0 < ps.countP kind :=
          List.countP_pos_iff.mpr ⟨q, List.mem_of_getElem? (by simpa using hj), hq⟩
        rw [hr, if_pos hp] at hone
        omega
    | succ i =>
      cases j with
      | zero =>
        have hr : r = q := by simpa using hj
        have hpos : 0 < ps.countP kind :=
          List.countP_pos_iff.mpr ⟨p, List.mem_of_getElem? (by simpa using hi), hp⟩
        rw [hr, if_pos hq] at hone
        omega
      | succ j =>
        have hrest := ih (by omega) (by simpa using hi) (by simpa using hj)
        omega

/-- A process starts, one takes its next step with what it is answered, or the world writes. -/
inductive Move (π ι ε : Type) where
  | start (p : π)
  | advance (index : Nat) (input : ι)
  | outside (e : ε)

/-- The step of a process in its place, and the writes of the world. -/
structure System (σ π ι ε ο : Type) where
  advance : Nat → ι → π → σ → π × σ × List ο
  outside : ε → σ → σ

namespace System

variable (S : System σ π ι ε ο)

/-- The world after one move. -/
def move (w : World σ π ο) : Move π ι ε → World σ π ο
  | .start p => { w with procs := w.procs ++ [p] }
  | .advance index input =>
    match w.procs[index]? with
    | none => w
    | some p =>
      let r := S.advance index input p w.store
      { store := r.2.1, procs := w.procs.set index r.1, log := w.log ++ r.2.2 }
  | .outside e => { w with store := S.outside e w.store }

/-- The world after the first `n` moves. -/
def worldAt (s : σ) (moves : List (Move π ι ε)) (n : Nat) : World σ π ο :=
  (moves.take n).foldl S.move ⟨s, [], []⟩

variable {S}

@[simp] theorem move_advance_none {w : World σ π ο} {index : Nat} {input : ι}
    (h : w.procs[index]? = none) : S.move w (.advance index input) = w := by
  simp [move, h]

@[simp] theorem move_advance_some {w : World σ π ο} {index : Nat} {input : ι} {p : π}
    (h : w.procs[index]? = some p) : S.move w (.advance index input) =
      { store := (S.advance index input p w.store).2.1,
        procs := w.procs.set index (S.advance index input p w.store).1,
        log := w.log ++ (S.advance index input p w.store).2.2 } := by
  simp [move, h]

theorem worldAt_succ {s : σ} {moves : List (Move π ι ε)} {n : Nat} {m : Move π ι ε}
    (h : moves[n]? = some m) : S.worldAt s moves (n + 1) = S.move (S.worldAt s moves n) m := by
  unfold worldAt
  rw [List.take_add_one, h]
  simp

theorem worldAt_end {s : σ} {moves : List (Move π ι ε)} {n : Nat} (h : moves[n]? = none) :
    S.worldAt s moves (n + 1) = S.worldAt s moves n := by
  unfold worldAt
  rw [List.take_add_one, h]
  simp

/-- What every move keeps holds in every world. -/
theorem invariant {s : σ} {moves : List (Move π ι ε)} (P : World σ π ο → Prop)
    (hinit : P ⟨s, [], []⟩)
    (hmove : ∀ n m, moves[n]? = some m → P (S.worldAt s moves n) →
      P (S.move (S.worldAt s moves n) m)) (n : Nat) : P (S.worldAt s moves n) := by
  induction n with
  | zero => exact hinit
  | succ n ih =>
    cases hm : moves[n]? with
    | none =>
      rw [worldAt_end hm]
      exact ih
    | some m =>
      rw [worldAt_succ hm]
      exact hmove n m hm ih

/-- Whether every move of a run is in `check` where it is made, move by move. -/
def checks (S : System σ π ι ε ο) (check : World σ π ο → Move π ι ε → Bool) :
    World σ π ο → List (Move π ι ε) → Bool
  | _, [] => true
  | w, m :: moves => check w m && S.checks check (S.move w m) moves

theorem checks_worldAt {check : World σ π ο → Move π ι ε → Bool} {s : σ}
    {moves : List (Move π ι ε)} (h : S.checks check ⟨s, [], []⟩ moves = true) {n : Nat}
    {m : Move π ι ε} (hm : moves[n]? = some m) : check (S.worldAt s moves n) m = true := by
  unfold worldAt
  generalize (⟨s, [], []⟩ : World σ π ο) = w at h
  induction moves generalizing w n with
  | nil => simp at hm
  | cons first moves ih =>
    rw [checks, Bool.and_eq_true] at h
    cases n with
    | zero =>
      obtain rfl : first = m := by simpa using hm
      exact h.1
    | succ n => exact ih (by simpa using hm) (S.move w first) h.2

/-- What every move respects, every later world respects. -/
theorem mono {s : σ} {moves : List (Move π ι ε)} (R : World σ π ο → World σ π ο → Prop)
    (hrefl : ∀ w, R w w) (htrans : ∀ u v w, R u v → R v w → R u w)
    (hmove : ∀ n m, moves[n]? = some m →
      R (S.worldAt s moves n) (S.move (S.worldAt s moves n) m))
    {i n : Nat} (h : i ≤ n) : R (S.worldAt s moves i) (S.worldAt s moves n) := by
  induction h with
  | refl => exact hrefl _
  | @step n hn ih =>
    cases hm : moves[n]? with
    | none =>
      rw [worldAt_end hm]
      exact ih
    | some m =>
      rw [worldAt_succ hm]
      exact htrans _ _ _ ih (hmove n m hm)

variable (S)

/-- `I` is about the store and the log, `J` about a process in its place; each step keeps `I`
and the `J` of its own process, and disturbs no other one. -/
structure Safe (fresh : π → Prop) (I : σ → List ο → Prop) (J : Nat → π → σ → List ο → Prop) :
    Prop where
  start : ∀ i p s l, fresh p → I s l → J i p s l
  own : ∀ i x p s l, I s l → J i p s l →
    I (S.advance i x p s).2.1 (l ++ (S.advance i x p s).2.2) ∧
      J i (S.advance i x p s).1 (S.advance i x p s).2.1 (l ++ (S.advance i x p s).2.2)
  other : ∀ i j x p q s l, i ≠ j → I s l → J i p s l → J j q s l →
    J j q (S.advance i x p s).2.1 (l ++ (S.advance i x p s).2.2)
  outside : ∀ e s l, I s l → I (S.outside e s) l ∧ ∀ i p, J i p s l → J i p (S.outside e s) l

variable {S}

/-- **Non-interference.** -/
theorem Safe.worldAt {fresh : π → Prop} {I : σ → List ο → Prop}
    {J : Nat → π → σ → List ο → Prop} (h : S.Safe fresh I J) {s : σ}
    {moves : List (Move π ι ε)} (hfresh : ∀ p, .start p ∈ moves → fresh p) (hinit : I s [])
    (n : Nat) :
    I (S.worldAt s moves n).store (S.worldAt s moves n).log ∧
      ∀ i p, (S.worldAt s moves n).procs[i]? = some p →
        J i p (S.worldAt s moves n).store (S.worldAt s moves n).log := by
  refine invariant (P := fun w : World σ π ο => I w.store w.log ∧ ∀ i p,
    w.procs[i]? = some p → J i p w.store w.log) ?_ ?_ n
  · refine ⟨hinit, ?_⟩
    intro i p hp
    simp at hp
  · intro n m hm hw
    generalize S.worldAt s moves n = w at hw
    obtain ⟨hI, hJ⟩ := hw
    cases m with
    | start p =>
      refine ⟨hI, ?_⟩
      intro i q hq
      have hq : (w.procs ++ [p])[i]? = some q := hq
      rw [List.getElem?_append] at hq
      split at hq
      · exact hJ i q hq
      · have hqp : q = p := by
          have hmem := List.mem_of_getElem? hq
          simpa using hmem
        rw [hqp]
        exact h.start i p _ _ (hfresh p (List.mem_of_getElem? hm)) hI
    | advance index input =>
      cases hp : w.procs[index]? with
      | none =>
        rw [move_advance_none hp]
        exact ⟨hI, hJ⟩
      | some p =>
        rw [move_advance_some hp]
        obtain ⟨hI', hown⟩ := h.own index input p w.store w.log hI (hJ index p hp)
        refine ⟨hI', ?_⟩
        intro j q hq
        have hq : (w.procs.set index (S.advance index input p w.store).1)[j]? = some q := hq
        by_cases hij : index = j
        · subst hij
          rw [List.getElem?_set_self' ] at hq
          obtain ⟨-, -, rfl⟩ := Option.map_eq_some_iff.mp hq
          exact hown
        · rw [List.getElem?_set_ne hij] at hq
          exact h.other index j input p q _ _ hij hI (hJ index p hp) (hJ j q hq)
    | outside e =>
      obtain ⟨hI', hJ'⟩ := h.outside e w.store w.log hI
      exact ⟨hI', fun i p hp => hJ' i p (hJ i p hp)⟩

end System

end Interleave
