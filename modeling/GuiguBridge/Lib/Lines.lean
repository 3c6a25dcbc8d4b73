import GuiguBridge.Lib.Utf8
import Mathlib.Data.List.DropRight

/-!
# Lines and columns of a text

A position in a text is told by its line and by the characters before it on that line.  A reader of
the bytes finds both, since the byte of a line end stands in no other character.

* `charCount`, `charCount_encode` — characters, counted by their first bytes;
* `isBoundary_next` — **the byte behind the first byte of a character is a boundary exactly when
  the character has one byte**;
* `lineHead`, `lastLine` — what lies before the last line of a text, and that line;
* `lineStart_encode` — the bytes tell where the last line starts;
* `count_newline` — and how many lines have ended.
-/

namespace Utf8

/-! ### Characters by their bytes -/

/-- `str::chars().count()`: the bytes that do not continue a character. -/
def charCount (bytes : List UInt8) : Nat := bytes.countP fun b => !continues b

theorem charCount_append (as bs : List UInt8) :
    charCount (as ++ bs) = charCount as + charCount bs := List.countP_append

theorem charCount_char (c : Char) : charCount (String.utf8EncodeChar c) = 1 := by
  obtain ⟨first, rest, hbytes, hfirst, hrest⟩ := encodeChar_bytes c
  have hnone : rest.countP (fun b => !continues b) = 0 := by
    rw [List.countP_eq_zero]
    intro b hb
    simp [hrest b hb]
  unfold charCount
  rw [hbytes, List.countP_cons, hnone, hfirst]
  rfl

theorem charCount_encode (cs : List Char) : charCount (encode cs) = cs.length := by
  induction cs with
  | nil => rfl
  | cons c cs ih =>
    rw [encode_cons, charCount_append, charCount_char, ih, List.length_cons, Nat.add_comm]

theorem length_encode_cons (c : Char) (cs : List Char) :
    (encode (c :: cs)).length = c.utf8Size + (encode cs).length := by
  rw [encode_cons, List.length_append, String.length_utf8EncodeChar]

/-- **The byte behind the first byte of a character.** -/
theorem isBoundary_next (pre : List Char) (c : Char) (tail : List Char) :
    isBoundary (encode (pre ++ c :: tail)) ((encode pre).length + 1) = true ↔
      c.utf8Size = 1 := by
  constructor
  · intro h
    obtain ⟨pre', suf', heq, hlen⟩ := (isBoundary_encode _ _).mp h
    obtain ⟨x, rfl, hx⟩ | ⟨x, rfl, -⟩ := List.append_eq_append_iff.mp heq
    · rw [encode_append, List.length_append] at hlen
      cases x with
      | nil =>
        rw [encode_nil, List.length_nil] at hlen
        omega
      | cons d x =>
        have hsame : c = d := (List.cons.inj hx).1
        rw [length_encode_cons, ← hsame] at hlen
        have hpos := c.utf8Size_pos
        omega
    · rw [encode_append, List.length_append] at hlen
      omega
  · intro hone
    refine (isBoundary_encode _ _).mpr ⟨pre ++ [c], tail, by simp, ?_⟩
    rw [encode_append, List.length_append, length_encode_cons, hone]
    rfl

/-! ### Line ends -/

/-- The byte of a line end. -/
def newline : UInt8 := 10

theorem newline_mem {cs : List Char} (h : newline ∈ encode cs) : '\n' ∈ cs := by
  obtain ⟨c, hc, hval⟩ := ascii_of_mem h (by decide)
  have heq : c = '\n' := Char.toNat_inj.mp hval
  rw [← heq]
  exact hc

/-- The bytes of a text have its line ends. -/
theorem count_newline (cs : List Char) : (encode cs).count newline = cs.count '\n' := by
  induction cs with
  | nil => rfl
  | cons c cs ih =>
    rw [encode_cons, List.count_append, ih, List.count_cons, Nat.add_comm]
    congr 1
    by_cases heq : c = '\n'
    · rw [heq]
      decide
    · rw [if_neg (by simpa using heq), List.count_eq_zero]
      intro hmem
      have hin : '\n' ∈ [c] := newline_mem (by simpa using hmem)
      exact heq (List.mem_singleton.mp hin).symm

/-! ### The last line -/

/-- The last line of a text. -/
def lastLine (cs : List Char) : List Char := cs.rtakeWhile (· ≠ '\n')

/-- What lies before the last line. -/
def lineHead (cs : List Char) : List Char := cs.rdropWhile (· ≠ '\n')

theorem lineHead_append (cs : List Char) : lineHead cs ++ lastLine cs = cs :=
  List.rdropWhile_append_rtakeWhile

theorem not_mem_lastLine (cs : List Char) : '\n' ∉ lastLine cs := by
  intro hmem
  have hne := List.mem_rtakeWhile_imp hmem
  simp at hne

/-- A text before its last line is empty or ends with a line end. -/
theorem lineHead_cases (cs : List Char) :
    lineHead cs = [] ∨ ∃ front, lineHead cs = front ++ ['\n'] := by
  by_cases hnil : lineHead cs = []
  · exact Or.inl hnil
  · refine Or.inr ⟨(lineHead cs).dropLast, ?_⟩
    have hlast := List.rdropWhile_last_not (fun c => decide (c ≠ '\n')) cs hnil
    have heq : (lineHead cs).getLast hnil = '\n' := by
      by_contra hne
      exact hlast (decide_eq_true hne)
    rw [← heq]
    exact (List.dropLast_append_getLast hnil).symm

/-- `Iterator::rposition`: where the last hit is. -/
def rposition {α : Type} (p : α → Bool) : List α → Option Nat
  | [] => none
  | a :: as =>
    match rposition p as with
    | some i => some (i + 1)
    | none => if p a then some 0 else none

theorem rposition_append_miss {α : Type} {p : α → Bool} (as : List α) {bs : List α}
    (h : ∀ b ∈ bs, p b = false) : rposition p (as ++ bs) = rposition p as := by
  induction as with
  | nil =>
    induction bs with
    | nil => rfl
    | cons b bs ih =>
      have hrest : rposition p bs = none := ih fun b hb => h b (List.mem_cons_of_mem _ hb)
      show rposition p (b :: bs) = none
      rw [rposition, hrest]
      simp [h b List.mem_cons_self]
  | cons a as ih => rw [List.cons_append, rposition, rposition, ih]

theorem rposition_append_hit {α : Type} {p : α → Bool} (as : List α) {a : α} (h : p a = true) :
    rposition p (as ++ [a]) = some as.length := by
  induction as with
  | nil => simp [rposition, h]
  | cons b as ih => rw [List.cons_append, rposition, ih, List.length_cons]

/-- Where the last line starts: behind the last line end. -/
def lineStart (bytes : List UInt8) : Nat :=
  ((rposition (fun b => b = newline) bytes).map (· + 1)).getD 0

/-- **The bytes tell where the last line starts.**  Bytes of a character that has not ended do not
disturb them. -/
theorem lineStart_encode (cs : List Char) {more : List UInt8} (hmore : newline ∉ more) :
    lineStart (encode cs ++ more) = (encode (lineHead cs)).length := by
  have hrest : ∀ b ∈ encode (lastLine cs) ++ more, decide (b = newline) = false := by
    intro b hb
    refine decide_eq_false ?_
    rintro rfl
    rcases List.mem_append.mp hb with hb | hb
    · exact not_mem_lastLine cs (newline_mem hb)
    · exact hmore hb
  have hsplit : encode cs ++ more = encode (lineHead cs) ++ (encode (lastLine cs) ++ more) := by
    rw [← List.append_assoc, ← encode_append, lineHead_append]
  unfold lineStart
  rw [hsplit, rposition_append_miss _ hrest]
  rcases lineHead_cases cs with hnil | ⟨front, hfront⟩
  · rw [hnil]
    rfl
  · have hbytes : encode (lineHead cs) = encode front ++ [newline] := by
      rw [hfront, encode_append]
      rfl
    have hhit := rposition_append_hit (p := fun b => decide (b = newline)) (encode front)
      (decide_eq_true (rfl : newline = newline))
    rw [hbytes, hhit, List.length_append]
    rfl

end Utf8
