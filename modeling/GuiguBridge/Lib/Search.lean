import Mathlib.Data.List.Basic
import Mathlib.Tactic.Common

/-!
# A word in a text

Whether a word stands in a text that was put together, or escaped character by character.

* `infix_split` — a character that the word lacks cuts the text in two;
* `infix_skip` — a block in which the word cannot begin is passed over;
* `infix_flatMap_iff` — **a word stands in an escaped text exactly when it stands in the text**, if
  its own characters are not escaped and no escape holds the beginning of the word.
-/

namespace Search

variable {α : Type}

theorem not_infix_of_first {a : α} {word text : List α} (h : a ∉ text) :
    ¬ (a :: word) <:+: text := by
  intro hin
  exact h (hin.subset (List.mem_cons_self))

/-- A character that the word lacks is not the first of it. -/
theorem infix_of_cons {q : α} {word text : List α} (hword : word ≠ []) (h : q ∉ word)
    (hin : word <:+: q :: text) : word <:+: text := by
  obtain hbegins | hin := List.infix_cons_iff.mp hin
  · cases word with
    | nil => exact absurd rfl hword
    | cons a word =>
      have hfirst : a = q := (List.cons_prefix_cons.mp hbegins).1
      exact absurd (hfirst ▸ List.mem_cons_self) h
  · exact hin

/-- **A character that the word lacks cuts the text.** -/
theorem infix_split {q : α} {word front back : List α} (hword : word ≠ []) (h : q ∉ word) :
    word <:+: front ++ q :: back ↔ word <:+: front ∨ word <:+: back := by
  constructor
  · intro hin
    obtain hfront | hback | ⟨left, right, rfl, hleft, hright⟩ := List.infix_append_iff.mp hin
    · exact .inl hfront
    · exact .inr (infix_of_cons hword h hback)
    · cases right with
      | nil =>
        rw [List.append_nil]
        exact .inl hleft.isInfix
      | cons b right =>
        have hfirst : b = q := (List.cons_prefix_cons.mp hright).1
        exact absurd (List.mem_append_right left (hfirst ▸ List.mem_cons_self)) h
  · rintro (hfront | hback)
    · exact List.infix_append_of_infix_left hfront
    · exact List.infix_append_of_infix_right (List.infix_cons hback)

/-- **A block in which the word cannot begin is passed over**: its second character does not
occur there, and its first is not the last of the block. -/
theorem infix_skip {a b : α} {word : List α} (rest : List α) (block : List α) (hb : b ∉ block)
    (hlast : block.getLast? ≠ some a) (hin : (a :: b :: word) <:+: block ++ rest) :
    (a :: b :: word) <:+: rest := by
  induction block with
  | nil => exact hin
  | cons x block ih =>
    have htail : block.getLast? ≠ some a := by
      cases block with
      | nil => simp
      | cons y block => rwa [List.getLast?_cons_cons] at hlast
    obtain hbegins | hin := List.infix_cons_iff.mp hin
    · obtain ⟨rfl, hnext⟩ := List.cons_prefix_cons.mp hbegins
      cases block with
      | nil => exact absurd rfl hlast
      | cons y block =>
        have hsecond : b = y := (List.cons_prefix_cons.mp hnext).1
        exact absurd (hsecond ▸ List.mem_cons_of_mem _ List.mem_cons_self) hb
    · exact ih (fun hmem => hb (List.mem_cons_of_mem _ hmem)) htail hin

variable {escape : α → List α}

theorem prefix_flatMap {word : List α} (cs : List α)
    (h : ∀ c, escape c = [c] ∨ ∃ x xs, escape c = x :: xs ∧ x ∉ word)
    (hbegins : word <+: cs.flatMap escape) : word <+: cs := by
  induction cs generalizing word with
  | nil => exact hbegins
  | cons c cs ih =>
    cases word with
    | nil => exact List.nil_prefix
    | cons a word =>
      rw [List.flatMap_cons] at hbegins
      obtain hself | ⟨x, xs, hx, hmem⟩ := h c
      · rw [hself, List.singleton_append] at hbegins
        obtain ⟨rfl, hrest⟩ := List.cons_prefix_cons.mp hbegins
        refine List.cons_prefix_cons.mpr ⟨rfl, ih ?_ hrest⟩
        intro d
        obtain hd | ⟨x, xs, hx, hmem⟩ := h d
        · exact .inl hd
        · exact .inr ⟨x, xs, hx, fun hword => hmem (List.mem_cons_of_mem _ hword)⟩
      · rw [hx, List.cons_append] at hbegins
        have hfirst : a = x := (List.cons_prefix_cons.mp hbegins).1
        exact absurd (hfirst ▸ List.mem_cons_self) hmem

/-- **A word stands in an escaped text exactly when it stands in the text.** -/
theorem infix_flatMap_iff {word : List α} (hword : word ≠ [])
    (hself : ∀ c ∈ word, escape c = [c])
    (hother : ∀ c, escape c = [c] ∨ ∃ x xs, escape c = x :: xs ∧ x ∉ word ∧
      ∀ rest, word <:+: xs ++ rest → word <:+: rest) (cs : List α) :
    word <:+: cs.flatMap escape ↔ word <:+: cs := by
  have hhead : ∀ c, escape c = [c] ∨ ∃ x xs, escape c = x :: xs ∧ x ∉ word := by
    intro c
    obtain hc | ⟨x, xs, hx, hmem, -⟩ := hother c
    · exact .inl hc
    · exact .inr ⟨x, xs, hx, hmem⟩
  constructor
  · intro hin
    induction cs with
    | nil => exact hin
    | cons c cs ih =>
      rw [List.flatMap_cons] at hin
      obtain hc | ⟨x, xs, hx, hmem, hskip⟩ := hother c
      · have hcons : (c :: cs).flatMap escape = c :: cs.flatMap escape := by
          rw [List.flatMap_cons, hc, List.singleton_append]
        rw [hc, List.singleton_append] at hin
        obtain hbegins | hin := List.infix_cons_iff.mp hin
        · exact (prefix_flatMap (c :: cs) hhead (hcons ▸ hbegins)).isInfix
        · exact List.infix_cons (ih hin)
      · rw [hx, List.cons_append] at hin
        exact List.infix_cons (ih (hskip _ (infix_of_cons hword hmem hin)))
  · rintro ⟨front, back, rfl⟩
    have hplain : word.flatMap escape = word := by
      clear hword hother hhead
      induction word with
      | nil => rfl
      | cons a word ih =>
        rw [List.flatMap_cons, hself a List.mem_cons_self, List.singleton_append,
          ih fun c hc => hself c (List.mem_cons_of_mem _ hc)]
    rw [List.flatMap_append, List.flatMap_append, hplain]
    exact ⟨front.flatMap escape, back.flatMap escape, rfl⟩

end Search
