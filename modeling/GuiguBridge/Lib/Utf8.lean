import Mathlib.Data.List.Basic
import Mathlib.Tactic.Common

/-!
# Character boundaries

A text in UTF-8 is cut only between two characters.  A reader of the bytes sees where that is: every
byte of a character but its first continues it.

* `encode` — the bytes of characters; `fromUTF8_encode` — they are a text;
* `isBoundary`, `isBoundary_encode` — **the boundaries of a text are the ends of its first
  characters**;
* `backTo` — the last boundary at or before a position; `backTo_split` — it cuts characters off, and
  at least one when the first fits;
* `offsets` — where each of some pieces starts and stops in all of them; `slice` — the bytes between
  two positions; `slice_append` — **the slice of a piece is the piece**.
-/

namespace Utf8

/-! ### Characters -/

/-- Whether a byte continues a character. -/
def continues (b : UInt8) : Bool := 0x80 ≤ b && b < 0xc0

/-- The bytes of characters. -/
def encode (cs : List Char) : List UInt8 := cs.flatMap String.utf8EncodeChar

@[simp] theorem encode_nil : encode [] = [] := rfl

@[simp] theorem encode_cons (c : Char) (cs : List Char) :
    encode (c :: cs) = String.utf8EncodeChar c ++ encode cs := rfl

@[simp] theorem encode_append (cs ds : List Char) : encode (cs ++ ds) = encode cs ++ encode ds :=
  List.flatMap_append

theorem encode_flatten (pieces : List (List Char)) :
    encode pieces.flatten = (pieces.map encode).flatten := by
  induction pieces with
  | nil => rfl
  | cons piece pieces ih =>
    rw [List.flatten_cons, encode_append, ih, List.map_cons, List.flatten_cons]

theorem encode_eq_nil {cs : List Char} : encode cs = [] ↔ cs = [] := by
  constructor
  · intro h
    cases cs with
    | nil => rfl
    | cons c cs =>
      have hlen := congrArg List.length h
      rw [encode_cons, List.length_append, String.length_utf8EncodeChar, List.length_nil] at hlen
      have := c.utf8Size_pos
      omega
  · rintro rfl
    rfl

/-- A character is no wider than a text it stands in. -/
theorem size_le_encode {c : Char} {cs : List Char} (h : c ∈ cs) :
    c.utf8Size ≤ (encode cs).length := by
  induction cs with
  | nil => cases h
  | cons d cs ih =>
    rw [encode_cons, List.length_append, String.length_utf8EncodeChar]
    cases List.mem_cons.mp h with
    | inl heq =>
      subst heq
      omega
    | inr hmem =>
      have := ih hmem
      omega

theorem fromUTF8_encode (cs : List Char) :
    String.fromUTF8? ⟨(encode cs).toArray⟩ = some (String.ofList cs) := by
  have hbytes : (⟨(encode cs).toArray⟩ : ByteArray) = cs.utf8Encode := by
    apply ByteArray.ext
    simp [encode, List.utf8Encode, List.data_toByteArray]
  have hvalid : (⟨(encode cs).toArray⟩ : ByteArray).IsValidUTF8 := hbytes ▸ ⟨cs, rfl⟩
  unfold String.fromUTF8?
  rw [dif_pos hvalid]
  congr 1
  exact String.toByteArray_inj.mp hbytes

/-- What the loop of `ByteArray.toList` has still to add. -/
theorem byteArray_toList_loop (bs : ByteArray) (i : Nat) (acc : List UInt8) :
    ByteArray.toList.loop bs i acc = acc.reverse ++ bs.data.toList.drop i := by
  fun_induction ByteArray.toList.loop bs i acc with
  | case1 i acc hlt ih =>
    have hdata : i < bs.data.toList.length := hlt
    have hbyte : bs.get! i = bs.data.toList[i] := by
      show bs.data[i]! = bs.data.toList[i]
      rw [getElem!_pos bs.data i hlt, Array.getElem_toList]
    rw [ih, List.reverse_cons, List.append_assoc, List.singleton_append, hbyte,
      List.drop_eq_getElem_cons hdata]
  | case2 i acc hge =>
    have hdrop : bs.data.toList.drop i = [] := List.drop_eq_nil_of_le (Nat.le_of_not_lt hge)
    rw [hdrop, List.append_nil]

/-- A text is known by its bytes. -/
theorem toList_toUTF8_injective {s t : String} (h : s.toUTF8.toList = t.toUTF8.toList) :
    s = t := by
  have hdata : ∀ s : String, s.toUTF8.toList = s.toUTF8.data.toList := by
    intro s
    exact byteArray_toList_loop s.toUTF8 0 []
  rw [hdata, hdata] at h
  exact String.toByteArray_inj.mp (ByteArray.ext (Array.toList_inj.mp h))

theorem byte_all {P : UInt8 → Prop} (h : ∀ n : Fin 256, P (UInt8.ofNat n)) (b : UInt8) : P b := by
  have hlt : b.toNat < 256 := b.toNat_lt
  have := h ⟨b.toNat, hlt⟩
  simpa using this

section

set_option maxRecDepth 4096

theorem continues_tail (b : UInt8) : continues (b &&& 0x3f ||| 0x80) = true :=
  byte_all (P := fun b => continues (b &&& 0x3f ||| 0x80) = true) (by decide) b

theorem continues_two (b : UInt8) : continues (b &&& 0x1f ||| 0xc0) = false :=
  byte_all (P := fun b => continues (b &&& 0x1f ||| 0xc0) = false) (by decide) b

theorem continues_three (b : UInt8) : continues (b &&& 0x0f ||| 0xe0) = false :=
  byte_all (P := fun b => continues (b &&& 0x0f ||| 0xe0) = false) (by decide) b

theorem continues_four (b : UInt8) : continues (b &&& 0x07 ||| 0xf0) = false :=
  byte_all (P := fun b => continues (b &&& 0x07 ||| 0xf0) = false) (by decide) b

theorem high_tail (b : UInt8) : 128 ≤ (b &&& 0x3f ||| 0x80).toNat :=
  byte_all (P := fun b => 128 ≤ (b &&& 0x3f ||| 0x80).toNat) (by decide) b

theorem high_two (b : UInt8) : 128 ≤ (b &&& 0x1f ||| 0xc0).toNat :=
  byte_all (P := fun b => 128 ≤ (b &&& 0x1f ||| 0xc0).toNat) (by decide) b

theorem high_three (b : UInt8) : 128 ≤ (b &&& 0x0f ||| 0xe0).toNat :=
  byte_all (P := fun b => 128 ≤ (b &&& 0x0f ||| 0xe0).toNat) (by decide) b

theorem high_four (b : UInt8) : 128 ≤ (b &&& 0x07 ||| 0xf0).toNat :=
  byte_all (P := fun b => 128 ≤ (b &&& 0x07 ||| 0xf0).toNat) (by decide) b

end

/-- A byte below 128 stands for the character of that number and for no part of another. -/
theorem ascii_of_mem {cs : List Char} {b : UInt8} (h : b ∈ encode cs) (hb : b.toNat < 128) :
    ∃ c ∈ cs, c.toNat = b.toNat := by
  obtain ⟨c, hc, hbc⟩ := List.mem_flatMap.mp h
  refine ⟨c, hc, ?_⟩
  obtain hsize | hsize | hsize | hsize := Char.utf8Size_eq c
  · rw [String.utf8EncodeChar_eq_singleton hsize, List.mem_singleton] at hbc
    have hval := UInt32.le_iff_toNat_le.mp (Char.utf8Size_eq_one_iff.mp hsize)
    have h127 : (127 : UInt32).toNat = 127 := rfl
    have hnat : b.toNat = c.val.toNat % 256 := by rw [hbc, UInt32.toNat_toUInt8]
    show c.val.toNat = b.toNat
    omega
  · rw [String.utf8EncodeChar_eq_cons_cons hsize] at hbc
    simp only [List.mem_cons, List.not_mem_nil, or_false] at hbc
    obtain rfl | rfl := hbc
    · exact absurd hb (Nat.not_lt.2 (high_two _))
    · exact absurd hb (Nat.not_lt.2 (high_tail _))
  · rw [String.utf8EncodeChar_eq_cons_cons_cons hsize] at hbc
    simp only [List.mem_cons, List.not_mem_nil, or_false] at hbc
    obtain rfl | rfl | rfl := hbc
    · exact absurd hb (Nat.not_lt.2 (high_three _))
    · exact absurd hb (Nat.not_lt.2 (high_tail _))
    · exact absurd hb (Nat.not_lt.2 (high_tail _))
  · rw [String.utf8EncodeChar_eq_cons_cons_cons_cons hsize] at hbc
    simp only [List.mem_cons, List.not_mem_nil, or_false] at hbc
    obtain rfl | rfl | rfl | rfl := hbc
    · exact absurd hb (Nat.not_lt.2 (high_four _))
    · exact absurd hb (Nat.not_lt.2 (high_tail _))
    · exact absurd hb (Nat.not_lt.2 (high_tail _))
    · exact absurd hb (Nat.not_lt.2 (high_tail _))

/-- The first byte of a character, and the bytes that continue it. -/
theorem encodeChar_bytes (c : Char) : ∃ first rest, String.utf8EncodeChar c = first :: rest ∧
    continues first = false ∧ ∀ b ∈ rest, continues b = true := by
  obtain h | h | h | h := Char.utf8Size_eq c
  · refine ⟨_, _, String.utf8EncodeChar_eq_singleton h, ?_, by simp⟩
    have hval := Char.utf8Size_eq_one_iff.mp h
    have hlt : ¬ (0x80 : UInt8) ≤ c.val.toUInt8 := by
      rw [UInt8.le_iff_toNat_le]
      have := UInt32.le_iff_toNat_le.mp hval
      simp only [UInt32.toNat_toUInt8]
      have h127 : (127 : UInt32).toNat = 127 := rfl
      have h128 : (0x80 : UInt8).toNat = 128 := rfl
      omega
    unfold continues
    rw [decide_eq_false hlt, Bool.false_and]
  · refine ⟨_, _, String.utf8EncodeChar_eq_cons_cons h, continues_two _, ?_⟩
    simp [continues_tail]
  · refine ⟨_, _, String.utf8EncodeChar_eq_cons_cons_cons h, continues_three _, ?_⟩
    simp [continues_tail]
  · refine ⟨_, _, String.utf8EncodeChar_eq_cons_cons_cons_cons h, continues_four _, ?_⟩
    simp [continues_tail]

/-! ### Boundaries -/

/-- `str::is_char_boundary` on the bytes of the text. -/
def isBoundary (bytes : List UInt8) (i : Nat) : Bool :=
  i = 0 || match bytes[i]? with
    | some b => !continues b
    | none => decide (i = bytes.length)

/-- The end of the first characters is a boundary. -/
theorem isBoundary_append (cs ds : List Char) :
    isBoundary (encode (cs ++ ds)) (encode cs).length = true := by
  unfold isBoundary
  rw [encode_append, List.getElem?_append_right (Nat.le_refl _), Nat.sub_self]
  cases ds with
  | nil => simp
  | cons d ds =>
    obtain ⟨first, rest, hbytes, hfirst, -⟩ := encodeChar_bytes d
    rw [encode_cons, hbytes]
    simp [hfirst]

/-- Behind a character the boundaries are those of the rest. -/
theorem isBoundary_behind (c : Char) (cs : List Char) {i : Nat} (hpos : 0 < i)
    (h : isBoundary (encode (c :: cs)) i = true) :
    ∃ j, i = (String.utf8EncodeChar c).length + j ∧ isBoundary (encode cs) j = true := by
  obtain ⟨first, rest, hbytes, -, hrest⟩ := encodeChar_bytes c
  have hne : ¬ i = 0 := by omega
  unfold isBoundary at h
  rw [encode_cons] at h
  by_cases hlt : i < (String.utf8EncodeChar c).length
  · -- a byte that continues the character
    obtain ⟨k, rfl⟩ : ∃ k, i = k + 1 := ⟨i - 1, by omega⟩
    rw [List.getElem?_append_left hlt, hbytes, List.getElem?_cons_succ] at h
    rw [hbytes, List.length_cons] at hlt
    have hk : k < rest.length := by omega
    rw [List.getElem?_eq_getElem hk] at h
    simp [hrest _ (List.getElem_mem hk)] at h
  · obtain ⟨j, rfl⟩ : ∃ j, i = (String.utf8EncodeChar c).length + j :=
      ⟨i - (String.utf8EncodeChar c).length, by omega⟩
    refine ⟨j, rfl, ?_⟩
    rw [List.getElem?_append_right (by omega), Nat.add_sub_cancel_left, List.length_append] at h
    unfold isBoundary
    cases hj : (encode cs)[j]? with
    | some b =>
      rw [hj] at h
      simp only [hne, decide_false, Bool.false_or] at h
      simp [h]
    | none =>
      rw [hj] at h
      simp only [hne, decide_false, Bool.false_or, decide_eq_true_eq] at h
      have hend : j = (encode cs).length := by omega
      simp [hend]

/-- **The boundaries of a text are the ends of its first characters.** -/
theorem isBoundary_encode (cs : List Char) (i : Nat) :
    isBoundary (encode cs) i = true ↔ ∃ pre suf, cs = pre ++ suf ∧ i = (encode pre).length := by
  constructor
  · intro h
    induction cs generalizing i with
    | nil =>
      refine ⟨[], [], rfl, ?_⟩
      by_cases hzero : i = 0
      · exact hzero
      · simp [isBoundary, hzero] at h
    | cons c cs ih =>
      by_cases hzero : i = 0
      · exact ⟨[], c :: cs, rfl, hzero⟩
      · obtain ⟨j, rfl, hj⟩ := isBoundary_behind c cs (by omega) h
        obtain ⟨pre, suf, rfl, rfl⟩ := ih j hj
        refine ⟨c :: pre, suf, rfl, ?_⟩
        rw [encode_cons, List.length_append]
  · rintro ⟨pre, suf, rfl, rfl⟩
    exact isBoundary_append pre suf

/-! ### The last boundary -/

/-- The last boundary at or before a position, and not before `start`. -/
def backTo (bytes : List UInt8) (start : Nat) : Nat → Nat
  | 0 => 0
  | n + 1 => if n + 1 ≤ start ∨ isBoundary bytes (n + 1) = true then n + 1
      else backTo bytes start n

theorem backTo_le (bytes : List UInt8) (start n : Nat) : backTo bytes start n ≤ n := by
  induction n with
  | zero => exact Nat.le_refl 0
  | succ n ih =>
    unfold backTo
    split
    · exact Nat.le_refl _
    · omega

theorem le_backTo (bytes : List UInt8) {start n : Nat} (h : start ≤ n) :
    start ≤ backTo bytes start n := by
  induction n with
  | zero => exact h
  | succ n ih =>
    unfold backTo
    split
    · exact h
    · rename_i hstop
      have hlt : ¬ n + 1 ≤ start := fun hle => hstop (Or.inl hle)
      exact ih (by omega)

theorem backTo_boundary (bytes : List UInt8) {start n : Nat} (h : start ≤ n) :
    backTo bytes start n = start ∨ isBoundary bytes (backTo bytes start n) = true := by
  induction n with
  | zero =>
    left
    show 0 = start
    omega
  | succ n ih =>
    unfold backTo
    split
    · rename_i hstop
      cases hstop with
      | inl hle => exact Or.inl (by omega)
      | inr hb => exact Or.inr hb
    · rename_i hstop
      have hlt : ¬ n + 1 ≤ start := fun hle => hstop (Or.inl hle)
      exact ih (by omega)

/-- No boundary is passed over. -/
theorem boundary_le_backTo (bytes : List UInt8) (start : Nat) {n i : Nat} (hle : i ≤ n)
    (h : isBoundary bytes i = true) : i ≤ backTo bytes start n := by
  induction n with
  | zero => exact hle
  | succ n ih =>
    unfold backTo
    split
    · exact hle
    · rename_i hstop
      have hne : i ≠ n + 1 := by
        rintro rfl
        exact hstop (Or.inr h)
      exact ih (by omega)

/-- **The last boundary cuts characters off**, at least one when the first fits. -/
theorem backTo_split (pre suf : List Char) {n : Nat} (h : (encode pre).length ≤ n) :
    ∃ piece rest, suf = piece ++ rest ∧
      backTo (encode (pre ++ suf)) (encode pre).length n =
        (encode pre).length + (encode piece).length ∧
      (encode pre).length + (encode piece).length ≤ n ∧
      ∀ c tail, suf = c :: tail → (encode pre).length + c.utf8Size ≤ n → piece ≠ [] := by
  have hge := le_backTo (encode (pre ++ suf)) h
  have hle := backTo_le (encode (pre ++ suf)) (encode pre).length n
  -- the characters before the boundary
  obtain ⟨piece, rest, hsplit, hback⟩ : ∃ piece rest, suf = piece ++ rest ∧
      backTo (encode (pre ++ suf)) (encode pre).length n =
        (encode pre).length + (encode piece).length := by
    obtain hstart | hb := backTo_boundary (encode (pre ++ suf)) h
    · exact ⟨[], suf, rfl, hstart⟩
    · obtain ⟨pre', suf', heq, hlen⟩ := (isBoundary_encode _ _).mp hb
      obtain ⟨piece, rfl, rfl⟩ | ⟨x, rfl, rfl⟩ := List.append_eq_append_iff.mp heq
      · refine ⟨piece, suf', rfl, ?_⟩
        rw [hlen, encode_append, List.length_append]
      · -- the boundary is where the text started
        refine ⟨[], suf, rfl, ?_⟩
        rw [encode_nil, List.length_nil]
        have hlen' : (encode (pre' ++ x)).length =
            (encode pre').length + (encode x).length := by
          rw [encode_append, List.length_append]
        omega
  refine ⟨piece, rest, hsplit, hback, by omega, ?_⟩
  rintro c tail rfl hfits rfl
  have hnext : isBoundary (encode (pre ++ c :: tail)) ((encode pre).length + c.utf8Size) = true := by
    have hend := isBoundary_append (pre ++ [c]) tail
    have hlen : (encode (pre ++ [c])).length = (encode pre).length + c.utf8Size := by
      rw [encode_append, List.length_append, encode_cons, encode_nil, List.append_nil,
        String.length_utf8EncodeChar]
    rw [hlen, List.append_assoc] at hend
    exact hend
  have hpast := boundary_le_backTo _ (encode pre).length hfits hnext
  have hsize := c.utf8Size_pos
  rw [hback, encode_nil, List.length_nil] at hpast
  omega

/-! ### Pieces -/

/-- The bytes between two positions. -/
def slice (bytes : List UInt8) (start stop : Nat) : List UInt8 := (bytes.take stop).drop start

/-- Where each piece starts and stops. -/
def offsets : Nat → List (List Char) → List (Nat × Nat)
  | _, [] => []
  | start, piece :: pieces =>
    (start, start + (encode piece).length) :: offsets (start + (encode piece).length) pieces

theorem length_offsets (start : Nat) (pieces : List (List Char)) :
    (offsets start pieces).length = pieces.length := by
  induction pieces generalizing start with
  | nil => rfl
  | cons piece pieces ih =>
    unfold offsets
    rw [List.length_cons, ih, List.length_cons]

/-- Pieces that are not empty are no more than their bytes. -/
theorem length_le_encode {pieces : List (List Char)} (h : ∀ piece ∈ pieces, piece ≠ []) :
    pieces.length ≤ (encode pieces.flatten).length := by
  induction pieces with
  | nil => exact Nat.zero_le _
  | cons piece pieces ih =>
    rw [List.forall_mem_cons] at h
    have hpos := List.length_pos_iff.mpr (mt encode_eq_nil.1 h.1)
    have hrest := ih h.2
    rw [List.flatten_cons, encode_append, List.length_append, List.length_cons]
    omega

theorem slice_append (pre bytes post : List UInt8) :
    slice (pre ++ bytes ++ post) pre.length (pre.length + bytes.length) = bytes := by
  unfold slice
  rw [← List.length_append, List.take_left', List.drop_left']
  · rfl
  · rfl

end Utf8
