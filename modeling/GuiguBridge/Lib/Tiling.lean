import Mathlib.Algebra.GroupWithZero.Nat
import Mathlib.Data.List.Basic
import Mathlib.Data.List.Pairwise
import Mathlib.Tactic.Common

/-!
# Ranges that tile

Items that are laid one after another each take a range of the whole.

* `Tiles` — numbered ranges that follow one another from a start to an end; `tiles_append` — and two
  runs of them that meet; `tiles_getElem` — the number of a range;
* `place` — items with the number and the start that each of them gets; `mem_place` — where an item
  stands; `place_tiles` — **the ranges of placed items tile**;
* `place_numbers` — no number is given twice.
-/

namespace Tiling

/-- Numbered ranges that follow one another. -/
def Tiles : Int → Int → Int → List (Int × Int × Int) → Prop
  | _, start, stop, [] => start = stop
  | index, start, stop, (i, a, b) :: rest =>
    i = index ∧ a = start ∧ a ≤ b ∧ Tiles (index + 1) b stop rest

theorem tiles_append {index start middle stop : Int} {l l' : List (Int × Int × Int)}
    (h : Tiles index start middle l) (h' : Tiles (index + l.length) middle stop l') :
    Tiles index start stop (l ++ l') := by
  induction l generalizing index start with
  | nil =>
    cases h
    rw [List.length_nil, Int.natCast_zero, Int.add_zero] at h'
    exact h'
  | cons range rest ih =>
    obtain ⟨i, a, b⟩ := range
    obtain ⟨hi, ha, hle, hrest⟩ := h
    refine ⟨hi, ha, hle, ih hrest ?_⟩
    rw [List.length_cons] at h'
    have hindex : index + 1 + (rest.length : Int) = index + ((rest.length + 1 : Nat) : Int) := by
      push_cast
      omega
    rw [hindex]
    exact h'

theorem tiles_getElem {index start stop : Int} {l : List (Int × Int × Int)}
    (h : Tiles index start stop l) {n : Nat} {range : Int × Int × Int} (hn : l[n]? = some range) :
    range.1 = index + n := by
  induction l generalizing index start n with
  | nil => simp at hn
  | cons first rest ih =>
    obtain ⟨i, a, b⟩ := first
    obtain ⟨hi, -, -, hrest⟩ := h
    cases n with
    | zero =>
      rw [List.getElem?_cons_zero] at hn
      cases hn
      rw [Int.natCast_zero, Int.add_zero]
      exact hi
    | succ n =>
      rw [List.getElem?_cons_succ] at hn
      rw [ih hrest hn]
      push_cast
      omega

/-! ### Placing -/

variable {α : Type}

/-- An item with its number and its start. -/
structure Placed (α : Type) where
  index : Nat
  start : Nat
  item : α

/-- Items, one after another. -/
def place (size : α → Nat) : Nat → Nat → List α → List (Placed α)
  | _, _, [] => []
  | index, start, a :: rest => ⟨index, start, a⟩ :: place size (index + 1) (start + size a) rest

variable {size : α → Nat}

@[simp] theorem place_nil (index start : Nat) : place size index start [] = [] := rfl

@[simp] theorem place_cons (index start : Nat) (a : α) (rest : List α) :
    place size index start (a :: rest) =
      ⟨index, start, a⟩ :: place size (index + 1) (start + size a) rest := rfl

@[simp] theorem length_place (index start : Nat) (l : List α) :
    (place size index start l).length = l.length := by
  induction l generalizing index start with
  | nil => rfl
  | cons a rest ih => rw [place_cons, List.length_cons, ih, List.length_cons]

/-- The range that a placed item takes. -/
def Placed.span (size : α → Nat) (x : Placed α) : Int × Int × Int :=
  (x.index, x.start, (x.start + size x.item : Nat))

/-- **The ranges of placed items tile.** -/
theorem place_tiles (size : α → Nat) (index start : Nat) (l : List α) :
    Tiles index start (start + (l.map size).sum : Nat)
      ((place size index start l).map (Placed.span size)) := by
  induction l generalizing index start with
  | nil => rfl
  | cons a rest ih =>
    refine ⟨rfl, rfl, ?_, ?_⟩
    · show (start : Int) ≤ (start + size a : Nat)
      push_cast
      omega
    · have hrest := ih (index + 1) (start + size a)
      rw [Nat.add_assoc, ← List.sum_cons, ← List.map_cons] at hrest
      exact_mod_cast hrest

/-- Where an item stands. -/
theorem mem_place {index start : Nat} {l : List α} {x : Placed α}
    (h : x ∈ place size index start l) : ∃ pre post, l = pre ++ x.item :: post ∧
      x.index = index + pre.length ∧ x.start = start + (pre.map size).sum := by
  induction l generalizing index start with
  | nil => cases h
  | cons a rest ih =>
    rw [place_cons] at h
    cases List.mem_cons.mp h with
    | inl heq =>
      subst heq
      exact ⟨[], rest, rfl, rfl, rfl⟩
    | inr hmem =>
      obtain ⟨pre, post, hsplit, hindex, hstart⟩ := ih hmem
      refine ⟨a :: pre, post, by rw [hsplit, List.cons_append], ?_, ?_⟩
      · rw [hindex, List.length_cons]
        omega
      · rw [hstart, List.map_cons, List.sum_cons]
        omega

theorem index_of_mem_place {index start : Nat} {l : List α} {x : Placed α}
    (h : x ∈ place size index start l) : index ≤ x.index ∧ x.index < index + l.length := by
  obtain ⟨pre, post, hsplit, hindex, -⟩ := mem_place h
  rw [hsplit, List.length_append, List.length_cons]
  omega

/-- **Later items have greater numbers.** -/
theorem place_numbers (index start : Nat) (l : List α) :
    (place size index start l).Pairwise fun x y => x.index < y.index := by
  induction l generalizing index start with
  | nil => exact List.Pairwise.nil
  | cons a rest ih =>
    rw [place_cons, List.pairwise_cons]
    refine ⟨?_, ih _ _⟩
    intro x hx
    have := index_of_mem_place hx
    show index < x.index
    omega

theorem getElem?_place {index start : Nat} {l : List α} {n : Nat} {x : Placed α}
    (h : (place size index start l)[n]? = some x) : x.index = index + n := by
  have hspan : ((place size index start l).map (Placed.span size))[n]? = some (x.span size) := by
    rw [List.getElem?_map, h]
    rfl
  have hindex : (x.index : Int) = index + n := tiles_getElem (place_tiles size index start l) hspan
  exact_mod_cast hindex

end Tiling
