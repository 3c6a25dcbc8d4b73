import Mathlib.Data.List.TakeWhile

/-!
# Texts as Rust's `str` has them

The functions of `str` that parsers use, on lists of characters.

* `isWhitespace` — `char::is_whitespace`;
* `trimStart`, `trim`, `splitOnce`, `stripChar` — `str::trim_start`, `str::trim`,
  `str::split_once` and `str::strip_prefix` of a character;
* `rsplitOnce`, `splitWhitespace` — `str::rsplit_once` of a text and `str::split_whitespace`;
* `split`, `upTo` — `str::split` of a text, and the first piece of `str::split` of a character.
-/

namespace Text

/-- `char::is_whitespace`: the property `White_Space`. -/
def isWhitespace (c : Char) : Bool :=
  let n := c.toNat
  decide ((9 ≤ n ∧ n ≤ 13) ∨ n = 0x20 ∨ n = 0x85 ∨ n = 0xa0 ∨ n = 0x1680 ∨
    (0x2000 ≤ n ∧ n ≤ 0x200a) ∨ n = 0x2028 ∨ n = 0x2029 ∨ n = 0x202f ∨ n = 0x205f ∨ n = 0x3000)

/-- `str::trim_start`. -/
def trimStart (cs : List Char) : List Char := cs.dropWhile isWhitespace

/-- `str::trim`. -/
def trim (cs : List Char) : List Char :=
  ((trimStart cs).reverse.dropWhile isWhitespace).reverse

/-- `str::split_once`: what stands before and after the first `sep`. -/
def splitOnce (sep : Char) : List Char → Option (List Char × List Char)
  | [] => none
  | c :: cs => if c = sep then some ([], cs) else (splitOnce sep cs).map fun p => (c :: p.1, p.2)

/-- `str::rsplit_once`: what stands before and after the last `sep`. -/
def rsplitOnce (sep : List Char) : List Char → Option (List Char × List Char)
  | [] => none
  | c :: cs =>
    match rsplitOnce sep cs with
    | some (before, after) => some (c :: before, after)
    | none => if sep.isPrefixOf (c :: cs) then some ([], (c :: cs).drop sep.length) else none

/-- The words before the word that is being read, in reverse. -/
def words (word : List Char) : List Char → List (List Char)
  | [] => if word = [] then [] else [word.reverse]
  | c :: cs =>
    if isWhitespace c then
      if word = [] then words [] cs else word.reverse :: words [] cs
    else words (c :: word) cs

/-- `str::split_whitespace`. -/
def splitWhitespace (cs : List Char) : List (List Char) := words [] cs

/-- `str::strip_prefix` of a character. -/
def stripChar (head : Char) : List Char → Option (List Char)
  | [] => none
  | c :: cs => if c = head then some cs else none

/-- `s.trim().is_empty()`. -/
def isBlank (cs : List Char) : Bool := (trim cs).isEmpty

/-- A text that neither begins nor ends with white space is not trimmed. -/
theorem trim_of_ends {cs front back : List Char} {first last : Char} (hfirst : cs = first :: back)
    (hlast : cs = front ++ [last]) (hf : isWhitespace first = false)
    (hl : isWhitespace last = false) : trim cs = cs := by
  have hstart : trimStart cs = cs := by
    rw [trimStart, hfirst, List.dropWhile_cons_of_neg (by rw [hf]; decide)]
  rw [trim, hstart, hlast, List.reverse_append, List.reverse_singleton, List.singleton_append,
    List.dropWhile_cons_of_neg (by rw [hl]; decide), List.reverse_cons, List.reverse_reverse]

/-- `str::strip_prefix`. -/
def stripPrefix (head cs : List Char) : Option (List Char) :=
  if head.isPrefixOf cs then some (cs.drop head.length) else none

/-- `str::split` of a character, and its first piece. -/
def upTo (sep : Char) (cs : List Char) : List Char := cs.takeWhile fun c => decide (c ≠ sep)

/-- The pieces of a text after a piece that is being read, in reverse; `skip` characters of a
separator are still to come. -/
def splitFrom (sep : List Char) (piece : List Char) (skip : Nat) : List Char → List (List Char)
  | [] => [piece.reverse]
  | c :: cs =>
    match skip with
    | skip + 1 => splitFrom sep piece skip cs
    | 0 =>
      if sep.isPrefixOf (c :: cs) then piece.reverse :: splitFrom sep [] (sep.length - 1) cs
      else splitFrom sep (c :: piece) 0 cs

theorem splitFrom_cons (sep piece cs : List Char) (c : Char) :
    splitFrom sep piece 0 (c :: cs) =
      if sep.isPrefixOf (c :: cs) then piece.reverse :: splitFrom sep [] (sep.length - 1) cs
      else splitFrom sep (c :: piece) 0 cs := rfl

/-- `str::split` of a text that is not empty. -/
def split (sep cs : List Char) : List (List Char) := splitFrom sep [] 0 cs

/-! ### Fields between separators -/

/-- What stands behind a separator does not count. -/
theorem upTo_append (sep : Char) (cs rest : List Char) :
    upTo sep (cs ++ sep :: rest) = upTo sep cs := by
  induction cs with
  | nil =>
    rw [List.nil_append, upTo, List.takeWhile_cons_of_neg (by simp), upTo, List.takeWhile_nil]
  | cons c cs ih =>
    by_cases hc : c = sep
    · rw [List.cons_append, upTo, upTo, List.takeWhile_cons_of_neg (by simp [hc]),
        List.takeWhile_cons_of_neg (by simp [hc])]
    · rw [List.cons_append, upTo, upTo, List.takeWhile_cons_of_pos (by simpa using hc),
        List.takeWhile_cons_of_pos (by simpa using hc)]
      exact congrArg (c :: ·) ih

theorem upTo_plain {sep : Char} {cs : List Char} (h : sep ∉ cs) : upTo sep cs = cs := by
  rw [upTo, List.takeWhile_eq_self_iff]
  intro c hc
  rw [decide_eq_true_eq]
  rintro rfl
  exact h hc

/-- Characters that begin no separator join the piece. -/
theorem splitFrom_plain {first : Char} {sep piece cs : List Char} (h : first ∉ cs)
    (rest : List Char) :
    splitFrom (first :: sep) piece 0 (cs ++ rest) =
      splitFrom (first :: sep) (cs.reverse ++ piece) 0 rest := by
  induction cs generalizing piece with
  | nil => rfl
  | cons c cs ih =>
    have hc : first ≠ c := fun heq => h (heq ▸ List.mem_cons_self)
    have hno : (first :: sep).isPrefixOf (c :: (cs ++ rest)) = false := by
      simp [List.isPrefixOf, hc]
    rw [List.cons_append, splitFrom_cons, hno]
    show splitFrom (first :: sep) (c :: piece) 0 (cs ++ rest) = _
    rw [ih fun hmem => h (List.mem_cons_of_mem c hmem), List.reverse_cons, List.append_assoc]
    rfl

/-- A character that begins no separator here, although it could. -/
theorem splitFrom_other {sep piece rest : List Char} {c : Char}
    (h : sep.isPrefixOf (c :: rest) = false) :
    splitFrom sep piece 0 (c :: rest) = splitFrom sep (c :: piece) 0 rest := by
  rw [splitFrom_cons, h]
  rfl

theorem splitFrom_skip (sep piece cs rest : List Char) :
    splitFrom sep piece cs.length (cs ++ rest) = splitFrom sep piece 0 rest := by
  induction cs with
  | nil => rfl
  | cons c cs ih =>
    exact ih

/-- A separator ends the piece. -/
theorem splitFrom_sep (first : Char) (sep piece rest : List Char) :
    splitFrom (first :: sep) piece 0 ((first :: sep) ++ rest) =
      piece.reverse :: splitFrom (first :: sep) [] 0 rest := by
  have hyes : (first :: sep).isPrefixOf (first :: (sep ++ rest)) = true := by
    rw [List.isPrefixOf_iff_prefix]
    exact List.prefix_append (first :: sep) rest
  rw [List.cons_append, splitFrom_cons, hyes]
  show piece.reverse :: splitFrom (first :: sep) [] sep.length (sep ++ rest) = _
  rw [splitFrom_skip]

/-- The first piece begins with what was read of it. -/
theorem splitFrom_head (sep piece : List Char) (skip : Nat) (cs : List Char) :
    ∃ more tail, splitFrom sep piece skip cs = (piece.reverse ++ more) :: tail := by
  induction cs generalizing piece skip with
  | nil => exact ⟨[], [], congrArg (· :: []) (List.append_nil _).symm⟩
  | cons c cs ih =>
    cases skip with
    | succ skip => exact ih piece skip
    | zero =>
      rw [splitFrom_cons]
      split
      · exact ⟨[], _, by rw [List.append_nil]⟩
      · obtain ⟨more, tail, h⟩ := ih (c :: piece) 0
        exact ⟨c :: more, tail, by rw [h, List.reverse_cons, List.append_assoc]; rfl⟩

/-- A piece, up to the character that every separator begins with, is the text up to it. -/
theorem splitFrom_upTo {first : Char} (piece : List Char) (hpiece : first ∉ piece)
    (sep cs : List Char) :
    ∃ head tail, splitFrom (first :: sep) piece 0 cs = head :: tail ∧
      upTo first head = piece.reverse ++ upTo first cs := by
  induction cs generalizing piece with
  | nil =>
    refine ⟨piece.reverse, [], rfl, ?_⟩
    rw [upTo_plain fun h => hpiece (List.mem_reverse.mp h)]
    exact (List.append_nil _).symm
  | cons c cs ih =>
    have hreverse : first ∉ piece.reverse := fun h => hpiece (List.mem_reverse.mp h)
    by_cases hc : c = first
    · have hstop : upTo first (c :: cs) = [] := by
        rw [upTo, List.takeWhile_cons_of_neg (by simp [hc])]
      by_cases hsep : (first :: sep).isPrefixOf (c :: cs) = true
      · refine ⟨piece.reverse, _, by rw [splitFrom_cons, hsep]; rfl, ?_⟩
        rw [upTo_plain hreverse, hstop, List.append_nil]
      · obtain ⟨more, tail, h⟩ := splitFrom_head (first :: sep) (c :: piece) 0 cs
        refine ⟨_, tail, by rw [splitFrom_other (Bool.eq_false_iff.mpr hsep), h], ?_⟩
        rw [hstop, List.append_nil, List.reverse_cons, List.append_assoc, hc]
        exact (upTo_append first _ more).trans (upTo_plain hreverse)
    · have hno : (first :: sep).isPrefixOf (c :: cs) = false := by
        simp [List.isPrefixOf, Ne.symm hc]
      have hmem : first ∉ c :: piece := by
        intro h
        obtain h | h := List.mem_cons.mp h
        · exact hc h.symm
        · exact hpiece h
      obtain ⟨head, tail, h, hupTo⟩ := ih (c :: piece) hmem
      refine ⟨head, tail, by rw [splitFrom_other hno, h], ?_⟩
      rw [hupTo, List.reverse_cons, List.append_assoc, upTo, upTo,
        List.takeWhile_cons_of_pos (by simpa using hc)]
      rfl

/-- The second piece of a split, up to the character that the separator begins with, when no
separator stands in front of the given one. -/
theorem split_field {first : Char} (sep pre body : List Char)
    (hpre : splitFrom (first :: sep) [] 0 (pre ++ ((first :: sep) ++ body)) =
      splitFrom (first :: sep) pre.reverse 0 ((first :: sep) ++ body)) :
    ∃ field, (split (first :: sep) (pre ++ ((first :: sep) ++ body)))[1]? = some field ∧
      upTo first field = upTo first body := by
  obtain ⟨field, tail, hfield, hupTo⟩ :=
    splitFrom_upTo [] List.not_mem_nil sep body
  refine ⟨field, ?_, hupTo⟩
  rw [split, hpre, splitFrom_sep, hfield]
  rfl

end Text
