import GuiguBridge.Lib.Rfc3339

/-!
# JSON texts

Documents with whole numbers, and the texts that stand for them.

* `Json` — a document; the fields of an object keep their order, and a name may stand twice;
* `Json.render` — the compact text of a document;
* `Json.parse` — the document of a text, white space between tokens allowed;
* `Json.parse_render` — **every document reads back from its text**;
* `Json.render_obj_prefix` — the text of an object is not the beginning of another one's.
-/

open Rfc3339

/-- A JSON document with whole numbers only. -/
inductive Json where
  | null
  | bool (b : Bool)
  | num (n : Int)
  | str (s : String)
  | arr (items : List Json)
  | obj (fields : List (String × Json))
  deriving Inhabited

namespace Json

/-! ### Writing -/

/-- The character of a hexadecimal digit. -/
def hexChar (d : Nat) : Char := if d < 10 then Char.ofNat (48 + d) else Char.ofNat (87 + d)

/-- A character inside a string literal. -/
def escape (c : Char) : List Char :=
  if c = '"' then ['\\', '"']
  else if c = '\\' then ['\\', '\\']
  else if c = '\n' then ['\\', 'n']
  else if c = '\r' then ['\\', 'r']
  else if c = '\t' then ['\\', 't']
  else if c.toNat = 8 then ['\\', 'b']
  else if c.toNat = 12 then ['\\', 'f']
  else if c.toNat < 32 then ['\\', 'u', '0', '0', hexChar (c.toNat / 16), hexChar (c.toNat % 16)]
  else [c]

/-- A string literal. -/
def renderString (s : String) : List Char := '"' :: (s.toList.flatMap escape ++ ['"'])

/-- A whole number. -/
def renderInt (n : Int) : List Char :=
  if n < 0 then '-' :: Nat.toDigits 10 n.natAbs else Nat.toDigits 10 n.natAbs

mutual

/-- The compact text of a document. -/
def render : Json → List Char
  | .null => ['n', 'u', 'l', 'l']
  | .bool true => ['t', 'r', 'u', 'e']
  | .bool false => ['f', 'a', 'l', 's', 'e']
  | .num n => renderInt n
  | .str s => renderString s
  | .arr [] => ['[', ']']
  | .arr (v :: vs) => '[' :: (render v ++ renderItems vs)
  | .obj [] => ['{', '}']
  | .obj ((k, v) :: fs) => '{' :: (renderString k ++ ':' :: (render v ++ renderFields fs))

/-- The items of an array after the first, and its end. -/
def renderItems : List Json → List Char
  | [] => [']']
  | v :: vs => ',' :: (render v ++ renderItems vs)

/-- The fields of an object after the first, and its end. -/
def renderFields : List (String × Json) → List Char
  | [] => ['}']
  | (k, v) :: fs => ',' :: (renderString k ++ ':' :: (render v ++ renderFields fs))

end

/-! ### Reading -/

def isSpace (c : Char) : Bool := c = ' ' || c = '\n' || c = '\t' || c = '\r'

def skipSpace (cs : List Char) : List Char := cs.dropWhile isSpace

/-- The value of a hexadecimal digit. -/
def hexVal (c : Char) : Option Nat :=
  if 48 ≤ c.toNat ∧ c.toNat ≤ 57 then some (c.toNat - 48)
  else if 97 ≤ c.toNat ∧ c.toNat ≤ 102 then some (c.toNat - 87)
  else if 65 ≤ c.toNat ∧ c.toNat ≤ 70 then some (c.toNat - 55)
  else none

/-- The character that follows a backslash. -/
def unescape (c : Char) : Option Char :=
  if c = '"' then some '"'
  else if c = '\\' then some '\\'
  else if c = '/' then some '/'
  else if c = 'n' then some '\n'
  else if c = 'r' then some '\r'
  else if c = 't' then some '\t'
  else if c = 'b' then some (Char.ofNat 8)
  else if c = 'f' then some (Char.ofNat 12)
  else none

/-- The character of four hexadecimal digits; surrogates are refused. -/
def unicode (a b c d : Char) : Option Char := do
  let n := 4096 * (← hexVal a) + 256 * (← hexVal b) + 16 * (← hexVal c) + (← hexVal d)
  if 0xd800 ≤ n ∧ n ≤ 0xdfff then none else some (Char.ofNat n)

/-- The characters of a string literal after its opening quote, and the rest. -/
def readString : List Char → Option (List Char × List Char)
  | [] => none
  | '"' :: cs => some ([], cs)
  | '\\' :: 'u' :: a :: b :: c :: d :: cs => do
    let x ← unicode a b c d
    let (xs, cs) ← readString cs
    some (x :: xs, cs)
  | '\\' :: e :: cs => do
    let x ← unescape e
    let (xs, cs) ← readString cs
    some (x :: xs, cs)
  | c :: cs =>
    if c = '\\' || c.toNat < 32 then none
    else (readString cs).map fun r => (c :: r.1, r.2)

/-- A whole number without leading zeros. -/
def readNat (cs : List Char) : Option (Nat × List Char) :=
  let r := readAllDigits 0 0 cs
  if r.2.1 = 0 ∨ (1 < r.2.1 ∧ cs.head? = some '0') then none else some (r.1, r.2.2)

/-- A given word. -/
def readWord (word : List Char) (v : Json) (cs : List Char) : Option (Json × List Char) :=
  if word.isPrefixOf cs then some (v, cs.drop word.length) else none

mutual

/-- A value, and the rest of the text. -/
def readValue : Nat → List Char → Option (Json × List Char)
  | 0, _ => none
  | fuel + 1, cs =>
    match skipSpace cs with
    | [] => none
    | '"' :: cs => (readString cs).map fun r => (.str (String.ofList r.1), r.2)
    | '[' :: cs =>
      match skipSpace cs with
      | ']' :: cs => some (.arr [], cs)
      | cs => do
        let (v, cs) ← readValue fuel cs
        let (vs, cs) ← readItems fuel cs
        some (.arr (v :: vs), cs)
    | '{' :: cs =>
      match skipSpace cs with
      | '}' :: cs => some (.obj [], cs)
      | cs => do
        let (f, cs) ← readField fuel cs
        let (fs, cs) ← readFields fuel cs
        some (.obj (f :: fs), cs)
    | '-' :: cs => (readNat cs).map fun r => (.num (-(r.1 : Int)), r.2)
    | 'n' :: cs => readWord ['u', 'l', 'l'] .null cs
    | 't' :: cs => readWord ['r', 'u', 'e'] (.bool true) cs
    | 'f' :: cs => readWord ['a', 'l', 's', 'e'] (.bool false) cs
    | c :: cs => (readNat (c :: cs)).map fun r => (.num r.1, r.2)

/-- The items of an array after the first. -/
def readItems : Nat → List Char → Option (List Json × List Char)
  | 0, _ => none
  | fuel + 1, cs =>
    match skipSpace cs with
    | ']' :: cs => some ([], cs)
    | ',' :: cs => do
      let (v, cs) ← readValue fuel cs
      let (vs, cs) ← readItems fuel cs
      some (v :: vs, cs)
    | _ => none

/-- One field of an object. -/
def readField : Nat → List Char → Option ((String × Json) × List Char)
  | 0, _ => none
  | fuel + 1, cs =>
    match skipSpace cs with
    | '"' :: cs => do
      let (k, cs) ← readString cs
      match skipSpace cs with
      | ':' :: cs => do
        let (v, cs) ← readValue fuel cs
        some ((String.ofList k, v), cs)
      | _ => none
    | _ => none

/-- The fields of an object after the first. -/
def readFields : Nat → List Char → Option (List (String × Json) × List Char)
  | 0, _ => none
  | fuel + 1, cs =>
    match skipSpace cs with
    | '}' :: cs => some ([], cs)
    | ',' :: cs => do
      let (f, cs) ← readField fuel cs
      let (fs, cs) ← readFields fuel cs
      some (f :: fs, cs)
    | _ => none

end

/-- The document a whole text stands for. -/
def parse (cs : List Char) : Option Json :=
  match readValue (2 * cs.length + 1) cs with
  | some (v, rest) => if skipSpace rest = [] then some v else none
  | none => none

/-! ### Strings read back -/

theorem readString_short {e x : Char} (hu : e ≠ 'u') (hx : unescape e = some x)
    (cs : List Char) :
    readString ('\\' :: e :: cs) = (readString cs).map fun r => (x :: r.1, r.2) := by
  rw [readString, hx]
  · cases readString cs <;> rfl
  · intro a b c d cs' h
    exact absurd h hu

theorem readString_unicode {a b c d x : Char} (hx : unicode a b c d = some x)
    (cs : List Char) :
    readString ('\\' :: 'u' :: a :: b :: c :: d :: cs) =
      (readString cs).map fun r => (x :: r.1, r.2) := by
  rw [readString, hx]
  cases readString cs <;> rfl

theorem readString_plain {c : Char} (hquote : c ≠ '"') (hslash : c ≠ '\\')
    (hcontrol : ¬ c.toNat < 32) (cs : List Char) :
    readString (c :: cs) = (readString cs).map fun r => (c :: r.1, r.2) := by
  rw [readString]
  · simp [hslash, hcontrol]
  · exact hquote
  · intro _ _ _ _ _ h
    exact absurd h hslash
  · intro _ _ h
    exact absurd h hslash

/-- The control characters without a short form. -/
theorem unicode_control : ∀ n < 32, unicode '0' '0' (hexChar (n / 16)) (hexChar (n % 16)) = some (Char.ofNat n) := by
  intro n hn
  interval_cases n <;> rfl

theorem readString_escape (c : Char) (cs : List Char) :
    readString (escape c ++ cs) = (readString cs).map fun r => (c :: r.1, r.2) := by
  have hof : Char.ofNat c.toNat = c := Char.ofNat_toNat c
  unfold escape
  split
  · rename_i h
    subst h
    exact readString_short (by decide) rfl cs
  split
  · rename_i h
    subst h
    exact readString_short (by decide) rfl cs
  split
  · rename_i h
    subst h
    exact readString_short (by decide) rfl cs
  split
  · rename_i h
    subst h
    exact readString_short (by decide) rfl cs
  split
  · rename_i h
    subst h
    exact readString_short (by decide) rfl cs
  split
  · rename_i h
    rw [← hof, h]
    exact readString_short (by decide) rfl cs
  split
  · rename_i h
    rw [← hof, h]
    exact readString_short (by decide) rfl cs
  split
  · rename_i h
    exact readString_unicode ((unicode_control c.toNat h).trans (congrArg some hof)) cs
  · rename_i hquote hslash _ _ _ _ _ hcontrol
    exact readString_plain hquote hslash hcontrol cs

theorem readString_render (l cs : List Char) :
    readString (l.flatMap escape ++ '"' :: cs) = some (l, cs) := by
  induction l with
  | nil => rfl
  | cons c l ih =>
    rw [List.flatMap_cons, List.append_assoc, readString_escape, ih]
    rfl

/-! ### Numbers read back -/

theorem toDigits_head {n : Nat} (hn : n ≠ 0) (rest : List Char) :
    (Nat.toDigits 10 n ++ rest).head? ≠ some '0' := by
  induction n using Nat.strongRecOn generalizing rest with
  | ind n ih =>
    by_cases hlt : n < 10
    · rw [Nat.toDigits_of_lt_base hlt]
      intro h
      have hzero : n.digitChar = '0' := Option.some.inj h
      interval_cases n
      · exact hn rfl
      all_goals exact absurd hzero (by decide)
    · rw [Nat.toDigits_of_base_le (by omega) (by omega), List.append_assoc]
      exact ih (n / 10) (by omega) (by omega) _

theorem readNat_toDigits (n : Nat) {rest : List Char} (hrest : Ends rest) :
    readNat (Nat.toDigits 10 n ++ rest) = some (n, rest) := by
  have hlen : 0 < (Nat.toDigits 10 n).length := List.length_pos_of_ne_nil Nat.toDigits_ne_nil
  rw [readNat, readAllDigits_toDigits, readAllDigits_ends hrest, Nat.zero_add]
  refine if_neg fun h => ?_
  rcases h with h | ⟨h, hhead⟩
  · exact absurd h (Nat.pos_iff_ne_zero.mp hlen)
  · by_cases hn : n = 0
    · subst hn
      rw [Nat.toDigits_zero] at h
      exact absurd h (by simp)
    · exact toDigits_head hn _ hhead

theorem toDigits_cons (n : Nat) :
    ∃ c cs, Nat.toDigits 10 n = c :: cs ∧ digitVal c ≠ none := by
  induction n using Nat.strongRecOn with
  | ind n ih =>
    by_cases hlt : n < 10
    · refine ⟨_, _, Nat.toDigits_of_lt_base hlt, ?_⟩
      rw [digitVal_natDigitChar hlt]
      exact Option.some_ne_none _
    · obtain ⟨c, cs, hcs, hc⟩ := ih (n / 10) (by omega)
      refine ⟨c, cs ++ [(n % 10).digitChar], ?_, hc⟩
      rw [Nat.toDigits_of_base_le (by omega) (by omega), hcs]
      rfl

/-! ### Documents read back -/

theorem skipSpace_cons {c : Char} (h : isSpace c = false) (cs : List Char) :
    skipSpace (c :: cs) = c :: cs := by
  rw [skipSpace, List.dropWhile_cons, h]
  rfl

/-- A digit is none of the characters that begin or end something else. -/
theorem digit_ne {c x : Char} (hc : digitVal c ≠ none) (hx : digitVal x = none) : c ≠ x :=
  fun h => hc (h ▸ hx)

theorem digit_not_space {c : Char} (hc : digitVal c ≠ none) : isSpace c = false := by
  have h₁ : c ≠ ' ' := digit_ne hc (by decide)
  have h₂ : c ≠ '\n' := digit_ne hc (by decide)
  have h₃ : c ≠ '\t' := digit_ne hc (by decide)
  have h₄ : c ≠ '\r' := digit_ne hc (by decide)
  simp [isSpace, h₁, h₂, h₃, h₄]

/-- How the text of a document begins. -/
theorem render_head (v : Json) :
    ∃ c cs, v.render = c :: cs ∧ isSpace c = false ∧ c ≠ ']' := by
  cases v with
  | null => exact ⟨_, _, rfl, by decide⟩
  | bool b => cases b <;> exact ⟨_, _, rfl, by decide⟩
  | num n =>
    obtain ⟨c, cs, hcs, hc⟩ := toDigits_cons n.natAbs
    by_cases hn : n < 0
    · exact ⟨'-', _, by rw [render, renderInt, if_pos hn], by decide⟩
    · exact ⟨c, cs, by rw [render, renderInt, if_neg hn, hcs], digit_not_space hc,
        digit_ne hc (by decide)⟩
  | str s => exact ⟨_, _, rfl, by decide⟩
  | arr vs => cases vs <;> exact ⟨_, _, rfl, by decide⟩
  | obj fs => cases fs <;> exact ⟨_, _, rfl, by decide⟩

theorem readValue_digit {c : Char} (hc : digitVal c ≠ none) (fuel : Nat) (cs : List Char) :
    readValue (fuel + 1) (c :: cs) = (readNat (c :: cs)).map fun r => (.num r.1, r.2) := by
  rw [readValue, skipSpace_cons (digit_not_space hc)]
  split
  case h_1 heq => cases heq
  case h_9 heq =>
    obtain ⟨rfl, rfl⟩ := List.cons.inj heq
    rfl
  all_goals
    rename_i heq
    exact absurd (List.cons.inj heq).1 (digit_ne hc (by decide))

theorem readValue_num (n : Int) (fuel : Nat) {rest : List Char} (hrest : Ends rest) :
    readValue (fuel + 1) (renderInt n ++ rest) = some (.num n, rest) := by
  by_cases hn : n < 0
  · have habs : -(n.natAbs : Int) = n := by omega
    rw [renderInt, if_pos hn]
    show (readNat (Nat.toDigits 10 n.natAbs ++ rest)).map
      (fun r => (Json.num (-(r.1 : Int)), r.2)) = _
    rw [readNat_toDigits n.natAbs hrest, Option.map_some, habs]
  · have habs : (n.natAbs : Int) = n := by omega
    obtain ⟨c, cs, hcs, hc⟩ := toDigits_cons n.natAbs
    rw [renderInt, if_neg hn, hcs, List.cons_append, readValue_digit hc, ← List.cons_append,
      ← hcs, readNat_toDigits n.natAbs hrest, Option.map_some, habs]

theorem readValue_str (s : String) (fuel : Nat) (rest : List Char) :
    readValue (fuel + 1) (renderString s ++ rest) = some (.str s, rest) := by
  rw [renderString, List.cons_append, List.append_assoc]
  show (readString (s.toList.flatMap escape ++ '"' :: rest)).map
    (fun r => (Json.str (String.ofList r.1), r.2)) = _
  rw [readString_render, Option.map_some, String.ofList_toList]

theorem readValue_arr {fuel : Nat} {v : Json} {vs : List Json} {cs cs' rest : List Char}
    (hv : readValue fuel (v.render ++ cs) = some (v, cs'))
    (hvs : readItems fuel cs' = some (vs, rest)) :
    readValue (fuel + 1) ('[' :: (v.render ++ cs)) = some (.arr (v :: vs), rest) := by
  obtain ⟨c, t, hct, hspace, hc⟩ := render_head v
  rw [readValue, skipSpace_cons (by decide)]
  show (match skipSpace (v.render ++ cs) with
    | ']' :: cs => some (Json.arr [], cs)
    | cs => do
      let (v, cs) ← readValue fuel cs
      let (vs, cs) ← readItems fuel cs
      some (Json.arr (v :: vs), cs)) = _
  rw [hct, List.cons_append] at hv ⊢
  rw [skipSpace_cons hspace]
  split
  · rename_i heq
    exact absurd (List.cons.inj heq).1 hc
  · rw [hv, Option.bind_eq_bind, Option.bind_some]
    show ((readItems fuel cs').bind fun s => some (Json.arr (v :: s.1), s.2)) = _
    rw [hvs, Option.bind_some]

theorem readField_render {k : String} {v : Json} {fuel : Nat} {cs rest : List Char}
    (hv : readValue fuel cs = some (v, rest)) :
    readField (fuel + 1) (renderString k ++ ':' :: cs) = some ((k, v), rest) := by
  rw [renderString, List.cons_append, List.append_assoc]
  show ((readString (k.toList.flatMap escape ++ '"' :: ':' :: cs)).bind fun r =>
    match skipSpace r.2 with
    | ':' :: cs => do
      let (v, cs) ← readValue fuel cs
      some ((String.ofList r.1, v), cs)
    | _ => none) = _
  rw [readString_render, Option.bind_some]
  show ((readValue fuel cs).bind fun r => some ((String.ofList k.toList, r.1), r.2)) = _
  rw [hv, Option.bind_some, String.ofList_toList]

theorem readValue_obj {fuel : Nat} {k : String} {v : Json} {fs : List (String × Json)}
    {cs cs' rest : List Char}
    (hf : readField fuel (renderString k ++ cs) = some ((k, v), cs'))
    (hfs : readFields fuel cs' = some (fs, rest)) :
    readValue (fuel + 1) ('{' :: (renderString k ++ cs)) = some (.obj ((k, v) :: fs), rest) := by
  show ((readField fuel (renderString k ++ cs)).bind fun r =>
    (readFields fuel r.2).bind fun s => some (Json.obj (r.1 :: s.1), s.2)) = _
  rw [hf, Option.bind_some, hfs, Option.bind_some]

theorem renderItems_ends (vs : List Json) (rest : List Char) : Ends (renderItems vs ++ rest) := by
  cases vs <;> intro c hc <;> cases hc <;> decide

theorem renderFields_ends (fs : List (String × Json)) (rest : List Char) :
    Ends (renderFields fs ++ rest) := by
  cases fs <;> intro c hc <;> cases hc <;> decide

mutual

/-- A document reads back from its text with what follows left over.  Each character of the
text pays for one step. -/
theorem readValue_render (v : Json) (fuel : Nat) (rest : List Char)
    (hfuel : v.render.length ≤ fuel) (hrest : Ends rest) :
    readValue fuel (v.render ++ rest) = some (v, rest) := by
  obtain ⟨c, cs, hcs, -, -⟩ := render_head v
  obtain ⟨fuel, rfl⟩ : ∃ k, fuel = k + 1 := by
    rw [hcs, List.length_cons] at hfuel
    exact ⟨fuel - 1, by omega⟩
  match v with
  | .null => rfl
  | .bool true => rfl
  | .bool false => rfl
  | .num n => exact readValue_num n fuel hrest
  | .str s => exact readValue_str s fuel rest
  | .arr [] => rfl
  | .arr (v :: vs) =>
    simp only [render, List.length_cons, List.length_append] at hfuel
    simp only [render, List.cons_append, List.append_assoc]
    exact readValue_arr
      (readValue_render v fuel _ (by omega) (renderItems_ends vs rest))
      (readItems_render vs fuel rest (by omega))
  | .obj [] => rfl
  | .obj ((k, v) :: fs) =>
    simp only [render, List.length_cons, List.length_append] at hfuel
    simp only [render, List.cons_append, List.append_assoc]
    obtain ⟨fuel, rfl⟩ : ∃ k, fuel = k + 1 := ⟨fuel - 1, by omega⟩
    exact readValue_obj
      (readField_render (readValue_render v fuel _ (by omega) (renderFields_ends fs rest)))
      (readFields_render fs (fuel + 1) rest (by omega))

theorem readItems_render (vs : List Json) (fuel : Nat) (rest : List Char)
    (hfuel : (renderItems vs).length ≤ fuel) :
    readItems fuel (renderItems vs ++ rest) = some (vs, rest) := by
  match vs with
  | [] =>
    obtain ⟨fuel, rfl⟩ : ∃ k, fuel = k + 1 := ⟨fuel - 1, by simp [renderItems] at hfuel; omega⟩
    rfl
  | v :: vs =>
    simp only [renderItems, List.length_cons, List.length_append] at hfuel
    obtain ⟨fuel, rfl⟩ : ∃ k, fuel = k + 1 := ⟨fuel - 1, by omega⟩
    simp only [renderItems, List.cons_append, List.append_assoc]
    show ((readValue fuel (v.render ++ (renderItems vs ++ rest))).bind fun r =>
      (readItems fuel r.2).bind fun s => some (r.1 :: s.1, s.2)) = _
    rw [readValue_render v fuel _ (by omega) (renderItems_ends vs rest), Option.bind_some,
      readItems_render vs fuel rest (by omega)]
    rfl

theorem readFields_render (fs : List (String × Json)) (fuel : Nat) (rest : List Char)
    (hfuel : (renderFields fs).length ≤ fuel) :
    readFields fuel (renderFields fs ++ rest) = some (fs, rest) := by
  match fs with
  | [] =>
    obtain ⟨fuel, rfl⟩ : ∃ k, fuel = k + 1 := ⟨fuel - 1, by simp [renderFields] at hfuel; omega⟩
    rfl
  | (k, v) :: fs =>
    simp only [renderFields, List.length_cons, List.length_append] at hfuel
    obtain ⟨fuel, rfl⟩ : ∃ k, fuel = k + 2 := ⟨fuel - 2, by omega⟩
    simp only [renderFields, List.cons_append, List.append_assoc]
    show ((readField (fuel + 1) (renderString k ++ ':' :: (v.render ++ (renderFields fs ++ rest)))).bind
      fun r => (readFields (fuel + 1) r.2).bind fun s => some (r.1 :: s.1, s.2)) = _
    rw [readField_render
        (readValue_render v fuel _ (by omega) (renderFields_ends fs rest)),
      Option.bind_some, readFields_render fs (fuel + 1) rest (by omega)]
    rfl

end

/-- An object ends where its text ends, whatever follows. -/
theorem readValue_render_obj (fs : List (String × Json)) (fuel : Nat) (rest : List Char)
    (hfuel : (Json.obj fs).render.length ≤ fuel) :
    readValue fuel ((Json.obj fs).render ++ rest) = some (.obj fs, rest) := by
  match fs with
  | [] =>
    obtain ⟨fuel, rfl⟩ : ∃ k, fuel = k + 1 := ⟨fuel - 1, by simp [render] at hfuel; omega⟩
    rfl
  | (k, v) :: fs =>
    simp only [render, List.length_cons, List.length_append] at hfuel
    obtain ⟨fuel, rfl⟩ : ∃ k, fuel = k + 2 := ⟨fuel - 2, by omega⟩
    simp only [render, List.cons_append, List.append_assoc]
    exact readValue_obj
      (readField_render (readValue_render v fuel _ (by omega) (renderFields_ends fs rest)))
      (readFields_render fs (fuel + 1) rest (by omega))

/-- The text of an object is not the beginning of another one's. -/
theorem render_obj_prefix {fs fs' : List (String × Json)}
    (h : (Json.obj fs').render <+: (Json.obj fs).render) : fs' = fs := by
  obtain ⟨rest, hrest⟩ := h
  have hlen := congrArg List.length hrest
  rw [List.length_append] at hlen
  have hread := readValue_render_obj fs' (Json.obj fs).render.length rest (by omega)
  have hread' := readValue_render_obj fs (Json.obj fs).render.length [] le_rfl
  rw [hrest] at hread
  rw [List.append_nil, hread] at hread'
  obtain ⟨hobj, -⟩ := Prod.mk.inj (Option.some.inj hread')
  exact Json.obj.inj hobj

/-- **Every document reads back from its text.** -/
theorem parse_render (v : Json) : parse v.render = some v := by
  have h := readValue_render v (2 * v.render.length + 1) [] (by omega) (by intro c hc; cases hc)
  rw [List.append_nil] at h
  rw [parse, h]
  rfl
end Json
