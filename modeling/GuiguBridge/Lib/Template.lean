import GuiguBridge.Lib.Text
import Mathlib.Data.List.Basic
import Mathlib.Data.List.Infix

/-!
# Texts with references

A text in which names stand between an opening word and a closing character.  The opening word
begins with a character that it does not hold again, and no name holds the closing one, so that a
scan from the left reads such a text in one way only.

* `findText` — `str::find` of a word; `findText_append` — **a scan finds the word behind plain
  text**;
* `Marks` — the opening word, the closing character and the names;
* `Template` — literals without the word, and valid names between them;
* `Template.find_cases`, `text_of_find` — what a scan reads of a template, and what it has read;
* `Template.text_injective` — **a text is one template at most**;
* `Template.fill` — every reference replaced once.
-/

namespace Text

/-! ### Searching -/

/-- `str::find` of a text: what stands before and behind its first occurrence. -/
def findText (word : List Char) : List Char → Option (List Char × List Char)
  | [] => if word.isPrefixOf [] then some ([], []) else none
  | c :: cs =>
    if word.isPrefixOf (c :: cs) then some ([], (c :: cs).drop word.length)
    else (findText word cs).map fun p => (c :: p.1, p.2)

theorem findText_eq {word cs before after : List Char}
    (h : findText word cs = some (before, after)) : cs = before ++ (word ++ after) := by
  induction cs generalizing before with
  | nil =>
    rw [findText] at h
    split at h
    · rename_i hnil
      cases h
      rw [List.isPrefixOf_iff_prefix, List.prefix_nil] at hnil
      rw [hnil]
      rfl
    · cases h
  | cons c cs ih =>
    rw [findText] at h
    split at h
    · rename_i hhere
      cases h
      obtain ⟨rest, hrest⟩ := List.isPrefixOf_iff_prefix.mp hhere
      rw [← hrest, List.drop_left]
      rfl
    · obtain ⟨p, hp, heq⟩ := Option.map_eq_some_iff.mp h
      cases heq
      exact congrArg (c :: ·) (ih hp)

theorem findText_none {first : Char} {tail cs : List Char} :
    findText (first :: tail) cs = none ↔ ¬ (first :: tail) <:+: cs := by
  induction cs with
  | nil => simp [findText]
  | cons c cs ih =>
    rw [findText, List.infix_cons_iff, ← List.isPrefixOf_iff_prefix]
    split
    · rename_i hhere
      simp [hhere]
    · rename_i hhere
      simp [hhere, ih]

/-- The first occurrence: there is none before it. -/
theorem findText_plain {first : Char} {tail cs before after : List Char}
    (h : findText (first :: tail) cs = some (before, after)) :
    ¬ (first :: tail) <:+: before := by
  induction cs generalizing before with
  | nil => simp [findText] at h
  | cons c cs ih =>
    rw [findText] at h
    split at h
    · cases h
      simp
    · rename_i hhere
      obtain ⟨p, hp, heq⟩ := Option.map_eq_some_iff.mp h
      cases heq
      intro hin
      obtain hbegins | hin := List.infix_cons_iff.mp hin
      · refine hhere (List.isPrefixOf_iff_prefix.mpr (hbegins.trans ?_))
        rw [findText_eq hp]
        exact List.prefix_append (c :: p.1) _
      · exact ih hp hin

/-- A word cannot begin in plain text and end in the word that follows. -/
theorem not_prefix_append {first : Char} {tail lit rest : List Char} (hfresh : first ∉ tail)
    (hne : lit ≠ []) (h : ¬ (first :: tail) <+: lit) :
    ¬ (first :: tail) <+: lit ++ (first :: tail ++ rest) := by
  intro hbegins
  obtain hshort | hlong := Nat.lt_or_ge lit.length (first :: tail).length
  · -- the word would hold its first character again
    have hlit : lit <+: first :: tail :=
      List.prefix_of_prefix_length_le (List.prefix_append _ _) hbegins (Nat.le_of_lt hshort)
    obtain ⟨more, hmore⟩ := hlit
    rw [← hmore, List.prefix_append_right_inj] at hbegins
    cases lit with
    | nil => exact hne rfl
    | cons a lit =>
      obtain ⟨ha, htail⟩ := List.cons.inj hmore
      cases more with
      | nil =>
        rw [List.append_nil] at hmore
        rw [hmore] at hshort
        exact Nat.lt_irrefl _ hshort
      | cons b more =>
        have hfirst : b = first := (List.cons_prefix_cons.mp hbegins).1.trans ha
        rw [hfirst] at htail
        exact hfresh (htail ▸ List.mem_append_right lit List.mem_cons_self)
  · exact h (List.prefix_of_prefix_length_le hbegins (List.prefix_append _ _) hlong)

/-- **A scan finds the word behind plain text.** -/
theorem findText_append {first : Char} {tail lit : List Char} (hfresh : first ∉ tail)
    (h : ¬ (first :: tail) <:+: lit) (rest : List Char) :
    findText (first :: tail) (lit ++ (first :: tail ++ rest)) = some (lit, rest) := by
  induction lit with
  | nil =>
    show findText (first :: tail) (first :: (tail ++ rest)) = _
    have hhere : (first :: tail).isPrefixOf (first :: (tail ++ rest)) = true :=
      List.isPrefixOf_iff_prefix.mpr (List.prefix_append (first :: tail) rest)
    rw [findText, if_pos hhere]
    have hdrop : ((first :: tail) ++ rest).drop (first :: tail).length = rest := List.drop_left
    rw [← List.cons_append, hdrop]
  | cons c lit ih =>
    have hnot : ¬ (first :: tail) <+: (c :: lit) ++ (first :: tail ++ rest) :=
      not_prefix_append hfresh (List.cons_ne_nil c lit) fun hbegins => h hbegins.isInfix
    have hlater := ih fun hin => h (List.infix_cons hin)
    rw [List.cons_append] at hnot ⊢
    rw [findText, if_neg fun hhere => hnot (List.isPrefixOf_iff_prefix.mp hhere),
      hlater]
    rfl

theorem splitOnce_eq {sep : Char} {cs before after : List Char}
    (h : splitOnce sep cs = some (before, after)) : cs = before ++ sep :: after := by
  induction cs generalizing before with
  | nil => cases h
  | cons c cs ih =>
    rw [splitOnce] at h
    split at h
    · rename_i heq
      cases h
      rw [heq]
      rfl
    · obtain ⟨p, hp, heq⟩ := Option.map_eq_some_iff.mp h
      cases heq
      exact congrArg (c :: ·) (ih hp)

theorem splitOnce_append {sep : Char} {before : List Char} (h : sep ∉ before)
    (after : List Char) : splitOnce sep (before ++ sep :: after) = some (before, after) := by
  induction before with
  | nil =>
    show splitOnce sep (sep :: after) = _
    rw [splitOnce, if_pos rfl]
  | cons c before ih =>
    have hne : c ≠ sep := fun heq => h (heq ▸ List.mem_cons_self)
    rw [List.cons_append, splitOnce, if_neg hne, ih fun hmem => h (List.mem_cons_of_mem c hmem)]
    rfl

/-- A scan leaves less than it was given. -/
theorem scan_length {first : Char} {tail cs before behind name rest : List Char} {close : Char}
    (hfind : findText (first :: tail) cs = some (before, behind))
    (hclose : splitOnce close behind = some (name, rest)) : rest.length < cs.length := by
  have hcs := congrArg List.length (findText_eq hfind)
  have hbehind := congrArg List.length (splitOnce_eq hclose)
  simp only [List.length_append, List.length_cons] at hcs hbehind
  omega

/-! ### Templates -/

/-- What a reference looks like. -/
structure Marks where
  first : Char
  tail : List Char
  fresh : first ∉ tail
  close : Char
  isName : List Char → Bool
  closed : ∀ name, isName name = true → close ∉ name

namespace Marks

/-- The opening word. -/
def word (m : Marks) : List Char := m.first :: m.tail

end Marks

variable {m : Marks}

/-- Plain text: it does not hold the opening word. -/
structure Literal (m : Marks) where
  chars : List Char
  plain : ¬ m.word <:+: chars

structure Name (m : Marks) where
  chars : List Char
  valid : m.isName chars = true

/-- Plain text with references in between. -/
inductive Template (m : Marks) where
  | last (lit : Literal m)
  | ref (lit : Literal m) (name : Name m) (rest : Template m)

namespace Template

/-- The text of a template. -/
def text : Template m → List Char
  | last lit => lit.chars
  | ref lit name rest => lit.chars ++ (m.word ++ (name.chars ++ m.close :: rest.text))

/-- The names that a template refers to. -/
def names : Template m → List (List Char)
  | last _ => []
  | ref _ name rest => name.chars :: rest.names

/-- The literals with every reference replaced by what `value` has for it. -/
def fill (value : List Char → List Char) : Template m → List Char
  | last lit => lit.chars
  | ref lit name rest => lit.chars ++ (value name.chars ++ rest.fill value)

theorem find_last (lit : Literal m) : findText m.word (last lit).text = none :=
  findText_none.2 lit.plain

/-- What a scan reads of a template: the first literal, and the first name. -/
theorem find_ref (lit : Literal m) (name : Name m) (rest : Template m) :
    findText m.word (ref lit name rest).text =
        some (lit.chars, name.chars ++ m.close :: rest.text) ∧
      splitOnce m.close (name.chars ++ m.close :: rest.text) = some (name.chars, rest.text) :=
  ⟨findText_append m.fresh lit.plain _, splitOnce_append (m.closed _ name.valid) _⟩

/-- A scan that finds the opening word in a template has come to its first reference. -/
theorem find_cases {t : Template m} {before behind : List Char}
    (h : findText m.word t.text = some (before, behind)) :
    ∃ lit name rest, t = ref lit name rest ∧ before = lit.chars ∧
      splitOnce m.close behind = some (name.chars, rest.text) := by
  cases t with
  | last lit =>
    rw [find_last lit] at h
    cases h
  | ref lit name rest =>
    obtain ⟨hfind, hclose⟩ := find_ref lit name rest
    rw [hfind] at h
    cases h
    exact ⟨lit, name, rest, rfl, rfl, hclose⟩

/-- A text without the opening word is a template. -/
theorem text_of_none {cs : List Char} (h : findText m.word cs = none) :
    ∃ t : Template m, t.text = cs :=
  ⟨last ⟨cs, findText_none.1 h⟩, rfl⟩

/-- A scan has read a literal and a name. -/
theorem text_of_find {cs before behind name rest : List Char}
    (hfind : findText m.word cs = some (before, behind))
    (hclose : splitOnce m.close behind = some (name, rest)) (hname : m.isName name = true)
    (t : Template m) (ht : t.text = rest) :
    (ref ⟨before, findText_plain hfind⟩ ⟨name, hname⟩ t).text = cs := by
  show before ++ (m.word ++ (name ++ m.close :: t.text)) = cs
  rw [ht, ← splitOnce_eq hclose]
  exact (findText_eq hfind).symm

/-- **A text is one template at most.** -/
theorem text_injective {t t' : Template m} (h : t.text = t'.text) : t = t' := by
  induction t generalizing t' with
  | last lit =>
    cases t' with
    | last lit' =>
      cases lit
      cases lit'
      cases h
      rfl
    | ref lit' name' rest' =>
      have hnone := find_last lit
      rw [h, (find_ref lit' name' rest').1] at hnone
      cases hnone
  | ref lit name rest ih =>
    obtain ⟨hfind, hclose⟩ := find_ref lit name rest
    cases t' with
    | last lit' =>
      rw [h, find_last lit'] at hfind
      cases hfind
    | ref lit' name' rest' =>
      obtain ⟨hfind', hclose'⟩ := find_ref lit' name' rest'
      rw [h, hfind'] at hfind
      obtain ⟨hlit, hbehind⟩ := Prod.mk.inj (Option.some.inj hfind)
      rw [← hbehind, hclose'] at hclose
      obtain ⟨hname, hrest⟩ := Prod.mk.inj (Option.some.inj hclose)
      cases lit
      cases lit'
      cases name
      cases name'
      cases hlit
      cases hname
      rw [ih hrest.symm]

end Template

end Text
