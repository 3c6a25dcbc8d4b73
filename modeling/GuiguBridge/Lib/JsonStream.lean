import Mathlib.Data.List.Basic
import Mathlib.Tactic.Common

/-!
# JSON as a reader meets it

A reader hands a text over piece by piece and stops at the first error in it.  What it hands over
is a tree in which an array or an object may be left unfinished.

* `Doc` — such a tree, its numbers of any kind; `Val` — a finished one;
* `Doc.val` — the value of a tree that is finished;
* `Doc.Sound` — **the text is well formed and no object in it repeats a key**;
* `Doc.Repeats` — **the text is well formed up to a key that its object repeats**;
* `Doc.Says` — the error texts in a tree.
-/

namespace JsonStream

variable {ν : Type}

/-- What a reader meets in a text, in the order of the text.  `stop` is the error after the last
item, where the text does not close the array or the object. -/
inductive Doc (ν : Type) where
  | null
  | bool (b : Bool)
  | num (n : ν)
  | str (s : String)
  | arr (items : List (Doc ν)) (stop : Option String)
  | obj (fields : List (String × Doc ν)) (stop : Option String)
  | broken (error : String)

/-- A document. -/
inductive Val (ν : Type) where
  | null
  | bool (b : Bool)
  | num (n : ν)
  | str (s : String)
  | arr (items : List (Val ν))
  | obj (fields : List (String × Val ν))

mutual

/-- The value of what was read. -/
def Doc.val : Doc ν → Val ν
  | .null => .null
  | .bool b => .bool b
  | .num n => .num n
  | .str s => .str s
  | .arr items _ => .arr (vals items)
  | .obj fields _ => .obj (fieldVals fields)
  | .broken _ => .null

def vals : List (Doc ν) → List (Val ν)
  | [] => []
  | d :: ds => d.val :: vals ds

def fieldVals : List (String × Doc ν) → List (String × Val ν)
  | [] => []
  | (key, d) :: fields => (key, d.val) :: fieldVals fields

end

theorem fieldVals_keys (fields : List (String × Doc ν)) :
    (fieldVals fields).map (·.1) = fields.map (·.1) := by
  induction fields with
  | nil => rfl
  | cons f fields ih =>
    obtain ⟨key, d⟩ := f
    rw [fieldVals, List.map_cons, List.map_cons, ih]

/-- A field of the value comes from a field of the text. -/
theorem mem_fieldVals {fields : List (String × Doc ν)} {f : String × Val ν}
    (h : f ∈ fieldVals fields) : ∃ d, (f.1, d) ∈ fields ∧ f.2 = d.val := by
  induction fields with
  | nil => cases h
  | cons g fields ih =>
    obtain ⟨key, d⟩ := g
    rw [fieldVals] at h
    obtain rfl | h := List.mem_cons.mp h
    · exact ⟨d, List.mem_cons_self, rfl⟩
    · obtain ⟨d', hmem, hval⟩ := ih h
      exact ⟨d', List.mem_cons_of_mem _ hmem, hval⟩

/-- **The text is well formed, and no object in it repeats a key.** -/
inductive Doc.Sound : Doc ν → Prop
  | null : Sound .null
  | bool (b : Bool) : Sound (.bool b)
  | num (n : ν) : Sound (.num n)
  | str (s : String) : Sound (.str s)
  | arr {items : List (Doc ν)} (h : ∀ d ∈ items, d.Sound) : Sound (.arr items none)
  | obj {fields : List (String × Doc ν)} (h : ∀ f ∈ fields, f.2.Sound)
      (distinct : (fields.map (·.1)).Nodup) : Sound (.obj fields none)

/-- **The text is well formed up to a key that its object repeats**: everything that was read
before is sound. -/
inductive Doc.Repeats : Doc ν → Prop
  | item {front back : List (Doc ν)} {d : Doc ν} {stop : Option String}
      (before : ∀ d ∈ front, d.Sound) (h : d.Repeats) : Repeats (.arr (front ++ d :: back) stop)
  | field {front back : List (String × Doc ν)} {key : String} {d : Doc ν}
      {stop : Option String} (before : ∀ f ∈ front, f.2.Sound)
      (distinct : (front.map (·.1)).Nodup) (new : key ∉ front.map (·.1)) (h : d.Repeats) :
      Repeats (.obj (front ++ (key, d) :: back) stop)
  | key {front back : List (String × Doc ν)} {key : String} {d : Doc ν}
      {stop : Option String} (before : ∀ f ∈ front, f.2.Sound)
      (distinct : (front.map (·.1)).Nodup) (again : key ∈ front.map (·.1)) :
      Repeats (.obj (front ++ (key, d) :: back) stop)

/-- The error texts of a reader. -/
inductive Doc.Says : Doc ν → String → Prop
  | broken (error : String) : Says (.broken error) error
  | arrStop (items : List (Doc ν)) (error : String) : Says (.arr items (some error)) error
  | objStop (fields : List (String × Doc ν)) (error : String) :
      Says (.obj fields (some error)) error
  | item {items : List (Doc ν)} {stop : Option String} {d : Doc ν} {error : String}
      (hd : d ∈ items) (h : d.Says error) : Says (.arr items stop) error
  | field {fields : List (String × Doc ν)} {stop : Option String} {f : String × Doc ν}
      {error : String} (hf : f ∈ fields) (h : f.2.Says error) : Says (.obj fields stop) error

/-- A text repeats a key only in an array or an object. -/
theorem Doc.Repeats.compound {d : Doc ν} (h : d.Repeats) :
    (∃ items stop, d = .arr items stop) ∨ ∃ fields stop, d = .obj fields stop := by
  cases h with
  | item => exact .inl ⟨_, _, rfl⟩
  | field => exact .inr ⟨_, _, rfl⟩
  | key => exact .inr ⟨_, _, rfl⟩

end JsonStream
