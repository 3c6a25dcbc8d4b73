import GuiguBridge.Lib.Search
import GuiguBridge.ReferenceLaws
import GuiguBridge.Storage.WorkflowParser

/-!
# The grammar of a workflow envelope

`parse_workflow` learns from the text of an error whether a key was repeated
(`src/src/models/workflow.rs`).

* `word_in_root` — the error of the first pass says `duplicate key` where a key is repeated, and
  where the text is a string that says so;
* `LawfulSerde` — what `serde_json` documents; `Reference.lawfulSerde` — a reader that does so;
* `InGrammar` — the grammar; `parseWorkflow_ok_iff` — **the parser accepts exactly its grammar**;
* `parseWorkflow_duplicate_iff` — when it reports a duplicate field;
* `parseWorkflow_text` — **it reads what was written**;
* `parses_exactly_iff` — an array that repeats a key, which the first pass does not read, and a
  string that says `duplicate key` are the only texts whose error tells something else;
* `parses_objects` — **the grammar, the report on objects and the round trip**.
-/

namespace GuiguBridge

open JsonStream

/-! ### The word in the error -/

/-- What the first pass looks for. -/
def word : List Char := "duplicate key".toList

theorem word_def : "duplicate key".toList = word := rfl

theorem word_ne_nil : word ≠ [] := by decide

theorem not_word_of_no_d {text : List Char} (h : 'd' ∉ text) : ¬ word <:+: text := by
  have hword : word = 'd' :: "uplicate key".toList := by decide
  rw [hword]
  exact Search.not_infix_of_first h

theorem digits_no_d (n : Nat) : 'd' ∉ Nat.toDigits 10 n := by
  intro hmem
  have hdigit := Nat.isDigit_of_mem_toDigits (by omega) (by omega) hmem
  revert hdigit
  decide

theorem position_no_d (line column : Nat) : 'd' ∉ position line column := by
  have hline : 'd' ∉ " at line ".toList := by decide
  have hcolumn : 'd' ∉ " column ".toList := by decide
  unfold position
  rw [List.mem_append, List.mem_append, List.mem_append]
  rintro (((h | h) | h) | h)
  · exact hline h
  · exact digits_no_d line h
  · exact hcolumn h
  · exact digits_no_d column h

theorem word_in_custom (line column : Nat) : word <:+: duplicateKey.text line column := by
  rw [duplicateKey, SerdeError.text_custom, word_def]
  exact List.infix_append_of_infix_left (List.infix_refl word)

/-- The text of a wrong type says the word only in what it found. -/
theorem word_in_invalidType (found : List Char) (line column : Nat) :
    word <:+: (SerdeError.invalidType found).text line column ↔ word <:+: ' ' :: found := by
  have hfront : "invalid type: ".toList = "invalid type".toList ++ [':', ' '] := by
    decide
  have hback : ", expected a JSON object".toList =
      ',' :: (" e".toList ++ 'x' :: ("pected a ".toList ++ 'J' :: "SON object".toList)) := by
    decide
  have htext : (SerdeError.invalidType found).text line column =
      "invalid type".toList ++ ':' :: (' ' :: found ++
        ',' :: (" e".toList ++ 'x' :: ("pected a ".toList ++
          'J' :: ("SON object".toList ++ position line column)))) := by
    rw [SerdeError.text_invalidType, hfront, hback]
    generalize "invalid type".toList = front, "SON object".toList = back, " e".toList = e,
      "pected a ".toList = a
    simp only [List.append_assoc, List.cons_append, List.nil_append]
  have hobject : 'd' ∉ "SON object".toList := by decide
  have hend : 'd' ∉ "SON object".toList ++ position line column := by
    rw [List.mem_append, not_or]
    exact ⟨hobject, position_no_d line column⟩
  have hcolon : ':' ∉ word := by decide
  have hcomma : ',' ∉ word := by decide
  have hx : 'x' ∉ word := by decide
  have hJ : 'J' ∉ word := by decide
  have hshort : ¬ word <:+: "invalid type".toList ∧ ¬ word <:+: " e".toList ∧
      ¬ word <:+: "pected a ".toList := by decide
  rw [htext, Search.infix_split word_ne_nil hcolon, Search.infix_split word_ne_nil hcomma,
    Search.infix_split word_ne_nil hx, Search.infix_split word_ne_nil hJ]
  constructor
  · rintro (h | h | h | h | h)
    · exact absurd h hshort.1
    · exact h
    · exact absurd h hshort.2.1
    · exact absurd h hshort.2.2
    · exact absurd h (not_word_of_no_d hend)
  · intro h
    exact .inr (.inl h)

section

variable [Externals] [SerdeJson]

/-- A value without parts, as a reader hands it over. -/
def scalarDoc : Json → Option (Doc SerdeJson.Number)
  | .null => some .null
  | .str s => some (.str s)
  | _ => none

/-- What `serde_json` and the standard library document. -/
structure LawfulSerde : Prop where
  /-- The texts of syntax errors are fixed. -/
  malformedText : ∀ raw error, (SerdeJson.read raw).doc.Says error → ¬ word <:+: error.toList
  /-- Numbers are written with digits, a sign, a point and an exponent, after the word `integer`
  or the words `floating point`. -/
  unexpectedNumber : ∀ n, 'd' ∉ (SerdeJson.unexpectedNumber n).toList
  /-- Printable ASCII stands for itself, but for the quotation mark and the backslash. -/
  escapePlain : ∀ c : Char, 32 ≤ c.toNat → c.toNat < 127 → c ≠ '"' → c ≠ '\\' →
    SerdeJson.escapeDebug c = [c]
  /-- Every other character stands for itself or is escaped by a letter or a number. -/
  escapeOther : ∀ c, SerdeJson.escapeDebug c = [c] ∨
    (∃ x ∈ ['0', 't', 'r', 'n', '"', '\\'], SerdeJson.escapeDebug c = ['\\', x]) ∨
    ∃ hex : List Char, (∀ x ∈ hex, x ∈ "0123456789abcdef".toList) ∧
      SerdeJson.escapeDebug c = '\\' :: 'u' :: '{' :: (hex ++ ['}'])
  /-- A decoded string is not longer than its literal. -/
  shorter : ∀ raw fields stop key s, (SerdeJson.read raw).doc = .obj fields stop →
    (key, .str s) ∈ fields → s.utf8ByteSize ≤ raw.utf8ByteSize
  /-- An object of strings and nulls reads back from its text. -/
  readBack : ∀ (fields : List (String × Json)) (docs : List (String × Doc SerdeJson.Number)),
    (fields.map (·.1)).Nodup →
    (fields.mapM fun f => (scalarDoc f.2).map fun d => (f.1, d)) = some docs →
    (SerdeJson.read (Externals.jsonText (.obj fields))).doc = .obj docs none ∧
      (SerdeJson.read (Externals.jsonText (.obj fields))).trailing = false
  uuidText : ∀ u, Externals.parseUuid (Externals.uuidText u) = some u

end

/-! ### A reader that does so -/

namespace Reference

mutual

/-- A document, as a reader hands it over. -/
def docOf : Json → Doc Int
  | .null => .null
  | .bool b => .bool b
  | .num n => .num n
  | .str s => .str s
  | .arr items => .arr (docsOf items) none
  | .obj fields => .obj (fieldDocs fields) none

def docsOf : List Json → List (Doc Int)
  | [] => []
  | v :: vs => docOf v :: docsOf vs

def fieldDocs : List (String × Json) → List (String × Doc Int)
  | [] => []
  | (key, v) :: fields => (key, docOf v) :: fieldDocs fields

end

/-- No string of the object is longer than the text. -/
def fits (raw : String) : Doc Int → Bool
  | .obj fields _ => fields.all fun
    | (_, .str s) => s.utf8ByteSize ≤ raw.utf8ByteSize
    | _ => true
  | _ => true

/-- The documents of the compact texts, and of every other text an error. -/
def readDoc (raw : String) : Doc Int :=
  match Json.parse raw.toList with
  | some v => if fits raw (docOf v) then docOf v else .broken "expected value"
  | none => .broken "expected value"

/-- `char::escape_debug`, as `Debug` of a string calls it. -/
def escapeDebug (c : Char) : List Char :=
  if c = '"' then ['\\', '"']
  else if c = '\\' then ['\\', '\\']
  else if c = '\n' then ['\\', 'n']
  else if c = '\r' then ['\\', 'r']
  else if c = '\t' then ['\\', 't']
  else if c.toNat = 0 then ['\\', '0']
  else if c.toNat < 16 then ['\\', 'u', '\x7b', Json.hexChar (c.toNat % 16), '\x7d']
  else if c.toNat < 32 then
    ['\\', 'u', '\x7b', Json.hexChar (c.toNat / 16 % 16), Json.hexChar (c.toNat % 16), '\x7d']
  else if c.toNat = 127 then ['\\', 'u', '\x7b', '7', 'f', '\x7d']
  else [c]

/-- A reader of compact texts. -/
instance serde : SerdeJson where
  Number := Int
  read raw := ⟨readDoc raw, false, 1, raw.length⟩
  unexpectedNumber n := String.ofList ("integer ".toList ++ '`' :: (Json.renderInt n ++ ['`']))
  escapeDebug := escapeDebug

theorem read_doc (raw : String) : (SerdeJson.read raw).doc = readDoc raw := rfl

theorem fieldDocs_eq (fields : List (String × Json)) :
    fieldDocs fields = fields.map fun f => (f.1, docOf f.2) := by
  induction fields with
  | nil => rfl
  | cons f fields ih =>
    rw [fieldDocs, ih]
    rfl

theorem docsOf_eq (items : List Json) : docsOf items = items.map docOf := by
  induction items with
  | nil => rfl
  | cons v items ih =>
    rw [docsOf, ih]
    rfl

/-- A finished document says no error. -/
theorem docOf_quiet {d : Doc Int} {error : String} (h : d.Says error) : ∀ v, d ≠ docOf v := by
  induction h with
  | broken error => intro v; cases v <;> exact fun h => nomatch h
  | arrStop items error => intro v; cases v <;> exact fun h => nomatch h
  | objStop fields error => intro v; cases v <;> exact fun h => nomatch h
  | item hd h ih =>
    intro v hv
    cases v with
    | arr items =>
      rw [docOf, docsOf_eq] at hv
      rw [(Doc.arr.inj hv).1] at hd
      obtain ⟨x, -, hx⟩ := List.mem_map.mp hd
      exact ih x hx.symm
    | _ => cases hv
  | field hf h ih =>
    intro v hv
    cases v with
    | obj fields =>
      rw [docOf, fieldDocs_eq] at hv
      rw [(Doc.obj.inj hv).1] at hf
      obtain ⟨x, -, rfl⟩ := List.mem_map.mp hf
      exact ih x.2 rfl
    | _ => cases hv

theorem readDoc_cases (raw : String) :
    readDoc raw = .broken "expected value" ∨
      ∃ v, readDoc raw = docOf v ∧ fits raw (docOf v) = true := by
  rw [readDoc]
  split
  · split
    · rename_i v _ hfits
      exact .inr ⟨v, rfl, hfits⟩
    · exact .inl rfl
  · exact .inl rfl

/-! #### Sizes -/

theorem utf8ByteSize_ofList_append (front back : List Char) :
    (String.ofList (front ++ back)).utf8ByteSize =
      (String.ofList front).utf8ByteSize + (String.ofList back).utf8ByteSize := by
  rw [String.ofList_append, String.utf8ByteSize_append]

theorem utf8ByteSize_part {part whole : List Char} (h : part <:+: whole) :
    (String.ofList part).utf8ByteSize ≤ (String.ofList whole).utf8ByteSize := by
  obtain ⟨front, back, rfl⟩ := h
  rw [utf8ByteSize_ofList_append, utf8ByteSize_ofList_append]
  omega

theorem utf8Size_of_ascii {c : Char} (h : c.toNat < 128) : c.utf8Size = 1 :=
  Char.utf8Size_eq_one_iff.mpr (UInt32.le_iff_toNat_le.mpr (Nat.le_of_lt_succ h))

theorem utf8ByteSize_char (c : Char) : (String.ofList [c]).utf8ByteSize = c.utf8Size := by
  rw [← String.singleton_eq_ofList, String.utf8ByteSize_singleton]

/-- A literal is not shorter than its character. -/
theorem escape_ne_nil (c : Char) : Json.escape c ≠ [] := by
  unfold Json.escape
  iterate 8 refine iteInduction (motive := (· ≠ [])) (fun _ => List.cons_ne_nil _ _) fun _ => ?_
  exact List.cons_ne_nil _ _

/-- Only an `ascii` character is escaped. -/
theorem escape_wide {c : Char} (h : ¬ c.toNat < 128) : Json.escape c = [c] := by
  have hne : ∀ d : Char, d.toNat < 128 → c ≠ d := fun d hd heq => h (heq ▸ hd)
  rw [Json.escape, if_neg (hne _ (by decide)), if_neg (hne _ (by decide)),
    if_neg (hne _ (by decide)), if_neg (hne _ (by decide)), if_neg (hne _ (by decide)),
    if_neg (by omega), if_neg (by omega), if_neg (by omega)]

theorem escape_size (c : Char) :
    c.utf8Size ≤ (String.ofList (Json.escape c)).utf8ByteSize := by
  by_cases h : c.toNat < 128
  · obtain ⟨x, xs, hescape⟩ := List.exists_cons_of_ne_nil (escape_ne_nil c)
    have hlen := (utf8ByteSize_bounds (x :: xs)).1
    rw [List.length_cons] at hlen
    rw [utf8Size_of_ascii h, hescape]
    omega
  · rw [escape_wide h, utf8ByteSize_char]

theorem flatMap_escape_size (cs : List Char) :
    (String.ofList cs).utf8ByteSize ≤ (String.ofList (cs.flatMap Json.escape)).utf8ByteSize := by
  induction cs with
  | nil => rfl
  | cons c cs ih =>
    have hc := escape_size c
    rw [List.flatMap_cons, ← List.singleton_append, utf8ByteSize_ofList_append,
      utf8ByteSize_ofList_append, utf8ByteSize_char]
    omega

/-- A string literal is not shorter than its string. -/
theorem renderString_size (s : String) :
    s.utf8ByteSize ≤ (String.ofList (Json.renderString s)).utf8ByteSize := by
  have hescaped := flatMap_escape_size s.toList
  rw [String.ofList_toList] at hescaped
  refine hescaped.trans (utf8ByteSize_part ?_)
  exact ⟨['"'], ['"'], by simp [Json.renderString]⟩

theorem renderFields_part {fields : List (String × Json)} {key s : String}
    (h : (key, .str s) ∈ fields) : Json.renderString s <:+: Json.renderFields fields := by
  induction fields with
  | nil => cases h
  | cons f fields ih =>
    obtain ⟨name, v⟩ := f
    rw [Json.renderFields]
    obtain heq | h := List.mem_cons.mp h
    · obtain ⟨rfl, rfl⟩ := Prod.mk.inj heq
      rw [Json.render]
      exact ⟨',' :: (Json.renderString key ++ [':']), Json.renderFields fields, by simp⟩
    · exact (ih h).trans ⟨',' :: (Json.renderString name ++ ':' :: Json.render v), [], by simp⟩

theorem render_part {fields : List (String × Json)} {key s : String}
    (h : (key, .str s) ∈ fields) : Json.renderString s <:+: (Json.obj fields).render := by
  cases fields with
  | nil => cases h
  | cons f fields =>
    obtain ⟨name, v⟩ := f
    have hin := renderFields_part h
    rw [Json.renderFields] at hin
    rw [Json.render]
    -- a literal does not begin with the comma
    obtain hhead | hin := List.infix_cons_iff.mp hin
    · rw [Json.renderString] at hhead
      exact absurd (List.cons_prefix_cons.mp hhead).1 (by decide)
    · exact List.infix_cons hin

/-- A written object fits. -/
theorem fits_render (fields : List (String × Json)) :
    fits (String.ofList (Json.obj fields).render) (docOf (.obj fields)) = true := by
  rw [docOf, fieldDocs_eq, fits, List.all_map, List.all_eq_true]
  rintro ⟨key, v⟩ hmem
  cases v with
  | str s =>
    have hsize := (renderString_size s).trans (utf8ByteSize_part (render_part hmem))
    exact decide_eq_true hsize
  | _ => rfl

theorem readDoc_render (fields : List (String × Json)) :
    readDoc (String.ofList (Json.obj fields).render) = docOf (.obj fields) := by
  rw [readDoc, String.toList_ofList, Json.parse_render]
  exact if_pos (fits_render fields)

/-! #### Texts -/

theorem integer_no_d (n : Int) :
    'd' ∉ (String.ofList ("integer ".toList ++ '`' :: (Json.renderInt n ++ ['`']))).toList := by
  have hfront : 'd' ∉ "integer ".toList := by decide
  rw [String.toList_ofList]
  intro hmem
  obtain hmem | hmem := List.mem_append.mp hmem
  · exact hfront hmem
  obtain hmem | hmem := List.mem_cons.mp hmem
  · exact absurd hmem (by decide)
  obtain hmem | hmem := List.mem_append.mp hmem
  · rw [Json.renderInt] at hmem
    split at hmem
    · obtain hmem | hmem := List.mem_cons.mp hmem
      · exact absurd hmem (by decide)
      · exact digits_no_d _ hmem
    · exact digits_no_d _ hmem
  · exact absurd (List.mem_singleton.mp hmem) (by decide)

theorem hexChar_mem (n : Nat) : Json.hexChar (n % 16) ∈ "0123456789abcdef".toList := by
  have hlt : n % 16 < 16 := Nat.mod_lt n (by omega)
  have hall : ∀ d < 16, Json.hexChar d ∈ "0123456789abcdef".toList := by decide
  exact hall _ hlt

/-- The texts that a character can be escaped to. -/
def EscapesTo (c : Char) (out : List Char) : Prop :=
  out = [c] ∨ (∃ x ∈ ['0', 't', 'r', 'n', '"', '\\'], out = ['\\', x]) ∨
    ∃ hex : List Char, (∀ x ∈ hex, x ∈ "0123456789abcdef".toList) ∧
      out = '\\' :: 'u' :: '\x7b' :: (hex ++ ['\x7d'])

theorem escapesTo_letter (c : Char) {x : Char} (h : x ∈ ['0', 't', 'r', 'n', '"', '\\']) :
    EscapesTo c ['\\', x] := .inr (.inl ⟨x, h, rfl⟩)

theorem escapesTo_digits (c : Char) {x y : Char} (hx : x ∈ "0123456789abcdef".toList)
    (hy : y ∈ "0123456789abcdef".toList) :
    EscapesTo c ['\\', 'u', '\x7b', x, y, '\x7d'] := by
  refine .inr (.inr ⟨[x, y], ?_, rfl⟩)
  intro z hz
  obtain rfl | hz := List.mem_cons.mp hz
  · exact hx
  · exact List.mem_singleton.mp hz ▸ hy

theorem escapeDebug_cases (c : Char) : EscapesTo c (escapeDebug c) := by
  unfold escapeDebug
  refine iteInduction (motive := EscapesTo c) (fun _ => escapesTo_letter c (by decide)) fun _ => ?_
  refine iteInduction (motive := EscapesTo c) (fun _ => escapesTo_letter c (by decide)) fun _ => ?_
  refine iteInduction (motive := EscapesTo c) (fun _ => escapesTo_letter c (by decide)) fun _ => ?_
  refine iteInduction (motive := EscapesTo c) (fun _ => escapesTo_letter c (by decide)) fun _ => ?_
  refine iteInduction (motive := EscapesTo c) (fun _ => escapesTo_letter c (by decide)) fun _ => ?_
  refine iteInduction (motive := EscapesTo c) (fun _ => escapesTo_letter c (by decide)) fun _ => ?_
  refine iteInduction (motive := EscapesTo c) (fun _ => ?_) fun _ => ?_
  · refine .inr (.inr ⟨[Json.hexChar (c.toNat % 16)], ?_, rfl⟩)
    intro x hx
    rw [List.mem_singleton.mp hx]
    exact hexChar_mem _
  refine iteInduction (motive := EscapesTo c)
    (fun _ => escapesTo_digits c (hexChar_mem _) (hexChar_mem _)) fun _ => ?_
  refine iteInduction (motive := EscapesTo c)
    (fun _ => escapesTo_digits c (hexChar_mem 7) (hexChar_mem 15)) fun _ => ?_
  exact .inl rfl

theorem escapeDebug_plain (c : Char) (hlow : 32 ≤ c.toNat) (hhigh : c.toNat < 127)
    (hquote : c ≠ '"') (hslash : c ≠ '\\') : escapeDebug c = [c] := by
  have hspace : c ≠ '\n' ∧ c ≠ '\r' ∧ c ≠ '\t' := by
    refine ⟨?_, ?_, ?_⟩
    · rintro rfl
      exact absurd hlow (by decide)
    · rintro rfl
      exact absurd hlow (by decide)
    · rintro rfl
      exact absurd hlow (by decide)
  rw [escapeDebug, if_neg hquote, if_neg hslash, if_neg hspace.1, if_neg hspace.2.1,
    if_neg hspace.2.2, if_neg (by omega), if_neg (by omega), if_neg (by omega),
    if_neg (by omega)]

theorem scalarDoc_docOf {v : Json} {d : Doc Int} (h : scalarDoc v = some d) : d = docOf v := by
  cases v with
  | null => exact (Option.some.inj h).symm
  | str s => exact (Option.some.inj h).symm
  | bool b => cases h
  | num n => cases h
  | arr items => cases h
  | obj fields => cases h

theorem mapM_scalarDoc {fields : List (String × Json)} {docs : List (String × Doc Int)}
    (h : (fields.mapM fun f => (scalarDoc f.2).map fun d => (f.1, d)) = some docs) :
    docs = fieldDocs fields := by
  induction fields generalizing docs with
  | nil => exact (Option.some.inj h).symm
  | cons f fields ih =>
    rw [List.mapM_cons] at h
    obtain ⟨g, hg, h⟩ := Option.bind_eq_some_iff.mp h
    obtain ⟨rest, hrest, h⟩ := Option.bind_eq_some_iff.mp h
    obtain ⟨d, hd, rfl⟩ := Option.map_eq_some_iff.mp hg
    rw [← Option.some.inj h, fieldDocs, ih hrest, scalarDoc_docOf hd]

/-- **The reader does what is documented.** -/
theorem lawfulSerde : LawfulSerde where
  malformedText raw error hsays := by
    obtain hbroken | ⟨v, hv, -⟩ := readDoc_cases raw
    · have hread : Doc.Says (.broken "expected value" : Doc Int) error := hbroken ▸ hsays
      cases hread
      decide
    · exact absurd hv (docOf_quiet hsays v)
  unexpectedNumber := integer_no_d
  escapePlain := escapeDebug_plain
  escapeOther := escapeDebug_cases
  shorter raw fields stop key s hdoc hmem := by
    have hdoc : readDoc raw = .obj fields stop := hdoc
    obtain hbroken | ⟨v, hv, hfits⟩ := readDoc_cases raw
    · rw [hdoc] at hbroken
      cases hbroken
    · rw [← hv, hdoc, fits, List.all_eq_true] at hfits
      exact of_decide_eq_true (hfits _ hmem)
  readBack fields docs _ hdocs := by
    refine ⟨?_, rfl⟩
    show readDoc (String.ofList (Json.obj fields).render) = _
    rw [readDoc_render, mapM_scalarDoc hdocs]
    rfl
  uuidText := parseUuid_uuidText

end Reference

section

variable [Externals] [SerdeJson]

/-- **A quoted string says the word exactly when the string does.** -/
theorem word_in_escaped (laws : LawfulSerde) (cs : List Char) :
    word <:+: cs.flatMap SerdeJson.escapeDebug ↔ word <:+: cs := by
  have hplain : ∀ c ∈ word, 32 ≤ c.toNat ∧ c.toNat < 127 ∧ c ≠ '"' ∧ c ≠ '\\' := by
    have hall : word.all (fun c =>
        decide (32 ≤ c.toNat ∧ c.toNat < 127 ∧ c ≠ '"' ∧ c ≠ '\\')) = true := by
      decide
    intro c hc
    exact of_decide_eq_true (List.all_eq_true.mp hall c hc)
  have hback : '\\' ∉ word := by decide
  obtain ⟨rest, hword⟩ : ∃ rest, word = 'd' :: 'u' :: rest :=
    ⟨"plicate key".toList, by decide⟩
  refine Search.infix_flatMap_iff word_ne_nil ?_ ?_ cs
  · intro c hc
    obtain ⟨hlow, hhigh, hquote, hslash⟩ := hplain c hc
    exact laws.escapePlain c hlow hhigh hquote hslash
  · intro c
    obtain hself | ⟨x, hx, hescape⟩ | ⟨hex, hhex, hescape⟩ := laws.escapeOther c
    · exact .inl hself
    · refine .inr ⟨'\\', [x], hescape, hback, ?_⟩
      have hfree : ∀ x ∈ ['0', 't', 'r', 'n', '"', '\\'], 'u' ∉ [x] ∧ [x].getLast? ≠ some 'd' := by
        simp
      rw [hword]
      exact fun rest' => Search.infix_skip rest' [x] (hfree x hx).1 (hfree x hx).2
    · refine .inr ⟨'\\', 'u' :: '{' :: (hex ++ ['}']), hescape, hback, fun rest' hin => ?_⟩
      have hu : 'u' ∉ '{' :: (hex ++ ['}']) := by
        have hnot : 'u' ∉ "0123456789abcdef".toList := by decide
        intro hmem
        obtain h | hmem := List.mem_cons.mp hmem
        · exact absurd h (by decide)
        · obtain hmem | hmem := List.mem_append.mp hmem
          · exact hnot (hhex _ hmem)
          · exact absurd (List.mem_singleton.mp hmem) (by decide)
      have hlast : ('{' :: (hex ++ ['}'])).getLast? ≠ some 'd' := by
        rw [← List.cons_append, List.getLast?_concat]
        decide
      rw [hword] at hin ⊢
      -- the word does not begin with the `u` of the escape
      rw [List.cons_append] at hin
      obtain hhead | hin := List.infix_cons_iff.mp hin
      · exact absurd (List.cons_prefix_cons.mp hhead).1 (by decide)
      · exact Search.infix_skip rest' _ hu hlast hin

/-- The text of a wrong type says the word exactly when it quotes a string that does. -/
theorem word_in_unexpected (laws : LawfulSerde) (d : Doc SerdeJson.Number) :
    word <:+: ' ' :: unexpected d ↔ ∃ s, d = .str s ∧ word <:+: s.toList := by
  have hplain : ∀ {found : List Char}, 'd' ∉ found → ¬ word <:+: ' ' :: found := by
    intro found h
    refine not_word_of_no_d fun hmem => ?_
    obtain heq | hmem := List.mem_cons.mp hmem
    · exact absurd heq (by decide)
    · exact h hmem
  have hother : ∀ {found : List Char}, 'd' ∉ found → (∀ s, d ≠ .str s) →
      (word <:+: ' ' :: found ↔ ∃ s, d = .str s ∧ word <:+: s.toList) := by
    intro found hfound hd
    exact iff_of_false (hplain hfound) fun ⟨s, hs, _⟩ => hd s hs
  cases d with
  | null =>
    have hfree : 'd' ∉ "null".toList := by decide
    exact hother hfree fun _ h => by cases h
  | bool b =>
    cases b with
    | false =>
      have hfree : 'd' ∉ "boolean `false`".toList := by decide
      exact hother hfree fun _ h => by cases h
    | true =>
      have hfree : 'd' ∉ "boolean `true`".toList := by decide
      exact hother hfree fun _ h => by cases h
  | num n => exact hother (laws.unexpectedNumber n) fun _ h => by cases h
  | arr items stop =>
    have hfree : 'd' ∉ "sequence".toList := by decide
    exact hother hfree fun _ h => by cases h
  | obj fields stop =>
    have hfree : 'd' ∉ "map".toList := by decide
    exact hother hfree fun _ h => by cases h
  | broken error =>
    have hfree : 'd' ∉ ([] : List Char) := by decide
    exact hother hfree fun _ h => by cases h
  | str s =>
    have hquote : '"' ∉ word := by decide
    have hfront : ¬ word <:+: ' ' :: "string ".toList := by decide
    have hback : ¬ word <:+: ([] : List Char) := by decide
    show word <:+: (' ' :: "string ".toList) ++
      '"' :: (s.toList.flatMap SerdeJson.escapeDebug ++ '"' :: []) ↔ _
    rw [Search.infix_split word_ne_nil hquote, Search.infix_split word_ne_nil hquote,
      word_in_escaped laws]
    constructor
    · rintro (h | h | h)
      · exact absurd h hfront
      · exact ⟨s, rfl, h⟩
      · exact absurd h hback
    · rintro ⟨s', hs, h⟩
      obtain rfl := Doc.str.inj hs
      exact .inr (.inl h)

/-! ### The first pass of the parser -/

omit [Externals] in
theorem root_obj (fields : List (String × Doc SerdeJson.Number)) (stop : Option String) :
    root (.obj fields stop) = (nested (.obj fields stop)).map fun _ => () := by
  have hfields := rootFields_eq [] fields
  rw [List.map_nil] at hfields
  rw [root, nested, hfields]
  cases nestedFields [] fields with
  | error error => rfl
  | ok out => cases stop <;> rfl

omit [Externals] in
/-- The first pass accepts sound objects. -/
theorem root_ok_iff (d : Doc SerdeJson.Number) :
    root d = .ok () ↔ ∃ fields, d = .obj fields none ∧ d.Sound := by
  cases d with
  | obj fields stop =>
    rw [root_obj]
    constructor
    · intro h
      cases hn : nested (.obj fields stop) with
      | error error =>
        rw [hn] at h
        cases h
      | ok v =>
        have hsound := ((nested_ok_iff _ v).mp hn).1
        cases stop with
        | none => exact ⟨fields, rfl, hsound⟩
        | some text => cases hsound
    · rintro ⟨fields', -, hsound⟩
      rw [nested_of_sound hsound]
      rfl
  | null => exact iff_of_false (fun h => nomatch h) fun ⟨_, h, _⟩ => nomatch h
  | bool b => exact iff_of_false (fun h => nomatch h) fun ⟨_, h, _⟩ => nomatch h
  | num n => exact iff_of_false (fun h => nomatch h) fun ⟨_, h, _⟩ => nomatch h
  | str s => exact iff_of_false (fun h => nomatch h) fun ⟨_, h, _⟩ => nomatch h
  | arr items stop => exact iff_of_false (fun h => nomatch h) fun ⟨_, h, _⟩ => nomatch h
  | broken error => exact iff_of_false (fun h => nomatch h) fun ⟨_, h, _⟩ => nomatch h

/-- What the first pass reports as a duplicate field. -/
def ToldDuplicate (d : Doc SerdeJson.Number) : Prop :=
  (∃ fields stop, d = .obj fields stop ∧ d.Repeats) ∨ ∃ s, d = .str s ∧ word <:+: s.toList

omit [Externals] in
theorem not_told_of_sound {d : Doc SerdeJson.Number} (h : d.Sound)
    (hstr : ∀ s, d ≠ .str s) : ¬ ToldDuplicate d := by
  rintro (⟨fields, stop, -, hrepeats⟩ | ⟨s, hs, -⟩)
  · have hok := nested_of_sound h
    rw [nested_of_repeats hrepeats] at hok
    cases hok
  · exact hstr s hs

/-- **The error of the first pass says the word exactly when a duplicate is reported.** -/
theorem word_in_root (laws : LawfulSerde) {raw : String} {error : SerdeError}
    (h : root (SerdeJson.read raw).doc = .error error) (line column : Nat) :
    word <:+: error.text line column ↔ ToldDuplicate (SerdeJson.read raw).doc := by
  have hmalformed := laws.malformedText raw
  generalize (SerdeJson.read raw).doc = d at h hmalformed ⊢
  have hwrong : ∀ found, error = .invalidType found → found = unexpected d →
      (∀ fields stop, d ≠ .obj fields stop) →
      (word <:+: error.text line column ↔ ToldDuplicate d) := by
    rintro _ rfl rfl hobj
    rw [word_in_invalidType, word_in_unexpected laws]
    exact ⟨.inr, fun htold => htold.resolve_left fun ⟨_, _, hd, _⟩ => hobj _ _ hd⟩
  cases d with
  | obj fields stop =>
    rw [root_obj] at h
    cases hn : nested (.obj fields stop) with
    | ok v =>
      rw [hn] at h
      cases h
    | error first =>
      rw [hn] at h
      obtain rfl := Except.error.inj h
      obtain ⟨rfl, hrepeats⟩ | ⟨text, rfl, hsays⟩ := (nested_cases _).2 _ hn
      · exact iff_of_true (word_in_custom line column) (.inl ⟨fields, stop, rfl, hrepeats⟩)
      · refine iff_of_false (hmalformed text hsays) ?_
        rintro (⟨_, _, -, hrepeats⟩ | ⟨s, hs, -⟩)
        · rw [nested_of_repeats hrepeats] at hn
          cases hn
        · cases hs
  | broken text =>
    obtain rfl := Except.error.inj h
    refine iff_of_false (hmalformed text (.broken text)) ?_
    rintro (⟨_, _, hobj, -⟩ | ⟨s, hs, -⟩)
    · cases hobj
    · cases hs
  | null => exact hwrong _ (Except.error.inj h).symm rfl fun _ _ h => nomatch h
  | bool b => exact hwrong _ (Except.error.inj h).symm rfl fun _ _ h => nomatch h
  | num n => exact hwrong _ (Except.error.inj h).symm rfl fun _ _ h => nomatch h
  | str s => exact hwrong _ (Except.error.inj h).symm rfl fun _ _ h => nomatch h
  | arr items stop => exact hwrong _ (Except.error.inj h).symm rfl fun _ _ h => nomatch h

omit [Externals] in
theorem rejectDuplicateKeys_ok_iff (raw : String) : rejectDuplicateKeys raw = .ok () ↔
    ∃ fields, (SerdeJson.read raw).doc = .obj fields none ∧ (SerdeJson.read raw).doc.Sound := by
  rw [← root_ok_iff, rejectDuplicateKeys]
  cases root (SerdeJson.read raw).doc with
  | ok u => exact iff_of_true rfl rfl
  | error error =>
    refine iff_of_false ?_ fun h => nomatch h
    dsimp only
    split
    · exact fun h => nomatch h
    · exact fun h => nomatch h

theorem rejectDuplicateKeys_duplicate_iff (laws : LawfulSerde) (raw : String) :
    rejectDuplicateKeys raw = .error .duplicateField ↔
      ToldDuplicate (SerdeJson.read raw).doc := by
  rw [rejectDuplicateKeys, word_def]
  cases hroot : root (SerdeJson.read raw).doc with
  | ok u =>
    refine iff_of_false (fun h => nomatch h) ?_
    obtain ⟨fields, hd, hsound⟩ := (root_ok_iff _).mp hroot
    refine not_told_of_sound hsound fun s hs => ?_
    rw [hd] at hs
    cases hs
  | error error =>
    have hword := word_in_root laws hroot (SerdeJson.read raw).line (SerdeJson.read raw).column
    dsimp only
    split
    · rename_i hin
      exact iff_of_true rfl (hword.mp hin)
    · rename_i hnot
      exact iff_of_false (fun h => nomatch h) fun htold => hnot (hword.mpr htold)

/-! ### What the parser accepts -/

/-- The grammar of an envelope: one object that repeats no key at any depth, with fields of an
envelope only, of the schema, and with its identities. -/
structure InGrammar (raw : String) (e : ParsedEnvelope) : Prop where
  size : raw.utf8ByteSize ≤ maxWorkflowBytes
  reads : ∃ fields, (SerdeJson.read raw).doc = .obj fields none ∧
    (SerdeJson.read raw).doc.Sound ∧ (SerdeJson.read raw).trailing = false ∧
    (∀ f ∈ fields, f.1 ∈ allowed) ∧ decodeEnvelope (fieldVals fields) = some e
  schema : e.schema = workflowSchema
  message_id : e.message_id ≠ ""
  correlation_id : e.correlation_id ≠ ""
  idempotency_key : e.idempotency_key ≠ ""

omit [SerdeJson] in
theorem decodeEnvelope_body {ν : Type} {fields : List (String × Val ν)} {e : ParsedEnvelope}
    (h : decodeEnvelope fields = some e) : (field "body" fields).bind text = some e.body := by
  unfold decodeEnvelope at h
  -- nine fields stand before the body
  iterate 9 obtain ⟨_, -, h⟩ := Option.bind_eq_some_iff.mp h
  obtain ⟨body, hbody, h⟩ := Option.bind_eq_some_iff.mp h
  obtain ⟨_, -, h⟩ := Option.bind_eq_some_iff.mp h
  obtain rfl := Option.some.inj h
  exact hbody

/-- A decoded body is not longer than the text. -/
theorem body_le (laws : LawfulSerde) {raw : String} {fields : List (String × Doc SerdeJson.Number)}
    {e : ParsedEnvelope} (hd : (SerdeJson.read raw).doc = .obj fields none)
    (h : decodeEnvelope (fieldVals fields) = some e) :
    e.body.utf8ByteSize ≤ raw.utf8ByteSize := by
  obtain ⟨v, hfield, htext⟩ := Option.bind_eq_some_iff.mp (decodeEnvelope_body h)
  obtain ⟨f, hf, rfl⟩ := Option.map_eq_some_iff.mp hfield
  obtain ⟨d, hmem, hval⟩ := mem_fieldVals (List.mem_of_find?_eq_some hf)
  rw [hval] at htext
  cases d with
  | str s =>
    have hs : s = e.body := Option.some.inj htext
    rw [← hs]
    exact laws.shorter raw fields none f.1 s hd hmem
  | null => cases htext
  | bool b => cases htext
  | num n => cases htext
  | arr items stop => cases htext
  | obj fields stop => cases htext
  | broken error => cases htext

omit [Externals] in
/-- What the second pass reads of a text that the first one accepted. -/
theorem fromStr_of_sound {raw : String} {fields : List (String × Doc SerdeJson.Number)}
    (hd : (SerdeJson.read raw).doc = .obj fields none)
    (hsound : (SerdeJson.read raw).doc.Sound) :
    fromStr raw = if (SerdeJson.read raw).trailing then none else
      some (.obj (fieldVals fields)) := by
  rw [fromStr, value_of_sound hsound, hd]
  rfl

omit [Externals] in
theorem any_unknown_iff (fields : List (String × Doc SerdeJson.Number)) :
    (fieldVals fields).any (fun f => !allowed.contains f.1) = true ↔
      ¬ ∀ f ∈ fields, f.1 ∈ allowed := by
  have hkeys : (fieldVals fields).any (fun f => !allowed.contains f.1) =
      (fields.map (·.1)).any fun key => !allowed.contains key := by
    rw [← fieldVals_keys, List.any_map]
    rfl
  rw [hkeys]
  simp

/-- **The parser accepts exactly its grammar.** -/
theorem parseWorkflow_ok_iff (laws : LawfulSerde) (raw : String) (e : ParsedEnvelope) :
    parseWorkflow raw = .ok e ↔ InGrammar raw e := by
  unfold parseWorkflow
  by_cases hsize : maxWorkflowBytes < raw.utf8ByteSize
  · rw [if_pos hsize]
    exact iff_of_false (fun h => nomatch h) fun h => absurd h.size (Nat.not_le.mpr hsize)
  rw [if_neg hsize]
  have hfirst := rejectDuplicateKeys_ok_iff raw
  cases hreject : rejectDuplicateKeys raw with
  | error error =>
    refine iff_of_false (fun h => nomatch h) fun h => ?_
    obtain ⟨fields, hd, hsound, -⟩ := h.reads
    rw [hfirst.mpr ⟨fields, hd, hsound⟩] at hreject
    cases hreject
  | ok u =>
    obtain ⟨fields, hd, hsound⟩ := hfirst.mp hreject
    have hfields : ∀ fields', (SerdeJson.read raw).doc = .obj fields' none → fields' = fields := by
      intro fields' hd'
      exact (Doc.obj.inj (hd'.symm.trans hd)).1
    dsimp only
    rw [fromStr_of_sound hd hsound]
    by_cases htrailing : (SerdeJson.read raw).trailing = true
    · rw [if_pos htrailing]
      refine iff_of_false (fun h => nomatch h) fun h => ?_
      obtain ⟨_, -, -, hnone, -⟩ := h.reads
      rw [htrailing] at hnone
      cases hnone
    rw [if_neg htrailing]
    dsimp only
    by_cases hknown : ∀ f ∈ fields, f.1 ∈ allowed
    · rw [if_neg fun h => (any_unknown_iff fields).mp h hknown]
      cases hdecode : decodeEnvelope (fieldVals fields) with
      | none =>
        refine iff_of_false (fun h => nomatch h) fun h => ?_
        obtain ⟨fields', hd', -, -, -, hsome⟩ := h.reads
        rw [hfields fields' hd', hdecode] at hsome
        cases hsome
      | some envelope =>
        have hbody := body_le laws hd hdecode
        dsimp only
        constructor
        · intro h
          split at h
          · rename_i hgood
            obtain rfl := Except.ok.inj h
            obtain ⟨hschema, hmessage, hcorrelation, hkey, -⟩ := of_decide_eq_true hgood
            exact ⟨Nat.not_lt.1 hsize, ⟨fields, hd, hsound, by simpa using htrailing, hknown,
              hdecode⟩, hschema, hmessage, hcorrelation, hkey⟩
          · cases h
        · intro h
          obtain ⟨fields', hd', -, -, -, hsome⟩ := h.reads
          rw [hfields fields' hd', hdecode] at hsome
          obtain rfl := Option.some.inj hsome
          have hgood : envelope.acceptable = true :=
            decide_eq_true ⟨h.schema, h.message_id, h.correlation_id, h.idempotency_key,
              hbody.trans (Nat.not_lt.1 hsize)⟩
          rw [if_pos hgood]
    · rw [if_pos ((any_unknown_iff fields).mpr hknown)]
      refine iff_of_false (fun h => nomatch h) fun h => ?_
      obtain ⟨fields', hd', -, -, hknown', -⟩ := h.reads
      rw [hfields fields' hd'] at hknown'
      exact hknown hknown'

/-- When the parser reports a duplicate field. -/
theorem parseWorkflow_duplicate_iff (laws : LawfulSerde) (raw : String) :
    parseWorkflow raw = .error .duplicateField ↔
      raw.utf8ByteSize ≤ maxWorkflowBytes ∧ ToldDuplicate (SerdeJson.read raw).doc := by
  rw [← rejectDuplicateKeys_duplicate_iff laws]
  unfold parseWorkflow
  by_cases hsize : maxWorkflowBytes < raw.utf8ByteSize
  · rw [if_pos hsize]
    exact iff_of_false (fun h => nomatch h) fun h => absurd h.1 (Nat.not_le.mpr hsize)
  rw [if_neg hsize]
  cases hreject : rejectDuplicateKeys raw with
  | error error =>
    constructor
    · intro h
      have herror : error = .duplicateField := Except.error.inj h
      rw [herror]
      exact ⟨Nat.not_lt.1 hsize, rfl⟩
    · rintro ⟨-, h⟩
      have herror : error = .duplicateField := Except.error.inj h
      rw [herror]
  | ok u =>
    refine iff_of_false ?_ fun h => nomatch h.2
    dsimp only
    -- the second pass has errors of its own
    split
    · exact fun h => nomatch h
    · split
      · exact fun h => nomatch h
      · split
        · exact fun h => nomatch h
        · split
          · exact fun h => nomatch h
          · exact fun h => nomatch h
    · exact fun h => nomatch h

end

/-! ### Round trip -/

section

variable {ν : Type}

theorem field_cons (key name : String) (v : Val ν) (fields : List (String × Val ν)) :
    field key ((name, v) :: fields) = if name = key then some v else field key fields := by
  unfold field
  by_cases h : name = key
  · rw [if_pos h, List.find?_cons_of_pos (by simpa using h)]
    rfl
  · rw [if_neg h, List.find?_cons_of_neg (by simpa using h)]

theorem WorkflowKind.read_name (kind : WorkflowKind) :
    WorkflowKind.read (.str kind.name : Val ν) = some kind := by
  cases kind <;> rfl

theorem WorkflowState.read_name (state : WorkflowState) :
    WorkflowState.read (.str state.name : Val ν) = some state := by
  cases state <;> rfl

/-- A string, or a null for none. -/
def optionalDoc : Option String → Doc ν
  | none => .null
  | some s => .str s

theorem optional_text (mention : Option String) :
    optional text (some (optionalDoc mention : Doc ν).val) = some mention := by
  cases mention <;> rfl

theorem optional_state (state : Option WorkflowState) :
    optional WorkflowState.read (some (optionalDoc (state.map (·.name)) : Doc ν).val) =
      some state := by
  cases state with
  | none => rfl
  | some state =>
    show ((WorkflowState.read (.str state.name : Val ν)).map some) = _
    rw [WorkflowState.read_name]
    rfl

theorem optionalDoc_sound (s : Option String) : (optionalDoc s : Doc ν).Sound := by
  cases s with
  | none => exact .null
  | some s => exact .str s

theorem allowed_nodup : allowed.Nodup := by decide

variable [Externals]

/-- A written envelope, as a reader hands it over. -/
def ParsedEnvelope.docs (e : ParsedEnvelope) : List (String × Doc ν) :=
  [("schema", .str e.schema), ("kind", .str e.kind.name), ("message_id", .str e.message_id),
    ("from", .str (Externals.uuidText e.sender.uuid)),
    ("to", .str (Externals.uuidText e.recipient.uuid)),
    ("task_id", .str (Externals.uuidText e.task_id.uuid)),
    ("correlation_id", .str e.correlation_id), ("idempotency_key", .str e.idempotency_key),
    ("state", optionalDoc (e.state.map (·.name))), ("body", .str e.body),
    ("mention", optionalDoc e.mention)]

theorem ParsedEnvelope.fields_keys (e : ParsedEnvelope) : e.fields.map (·.1) = allowed := rfl

theorem ParsedEnvelope.docs_keys (e : ParsedEnvelope) :
    (e.docs : List (String × Doc ν)).map (·.1) = allowed := rfl

theorem ParsedEnvelope.docs_sound (e : ParsedEnvelope) :
    ∀ f ∈ (e.docs : List (String × Doc ν)), f.2.Sound := by
  unfold ParsedEnvelope.docs
  simp only [List.forall_mem_cons, List.not_mem_nil, false_implies, implies_true, and_true]
  exact ⟨.str _, .str _, .str _, .str _, .str _, .str _, .str _, .str _, optionalDoc_sound _,
    .str _, optionalDoc_sound _⟩

variable [SerdeJson]

/-- What was written decodes to itself. -/
theorem decodeEnvelope_docs (laws : LawfulSerde) (e : ParsedEnvelope) :
    decodeEnvelope (fieldVals (e.docs : List (String × Doc ν))) = some e := by
  have hidentity : ∀ u : Uuid, identity (.str (Externals.uuidText u) : Val ν) = some u :=
    laws.uuidText
  unfold decodeEnvelope ParsedEnvelope.docs
  simp only [fieldVals, field_cons, String.reduceEq, if_true, if_false, Doc.val, text,
    Option.bind_some, Option.bind_eq_bind, hidentity, WorkflowKind.read_name]
  rw [optional_text, optional_state]
  rfl

theorem ParsedEnvelope.docs_of_fields (e : ParsedEnvelope) :
    (e.fields.mapM fun f => (scalarDoc f.2).map fun d => (f.1, d)) = some e.docs := by
  unfold ParsedEnvelope.fields ParsedEnvelope.docs
  cases e.state <;> cases e.mention <;> rfl

/-- **The parser reads what was written.** -/
theorem parseWorkflow_text (laws : LawfulSerde) {e : ParsedEnvelope}
    (hschema : e.schema = workflowSchema) (hmessage : e.message_id ≠ "")
    (hcorrelation : e.correlation_id ≠ "") (hkey : e.idempotency_key ≠ "")
    (hfits : e.text.utf8ByteSize ≤ maxWorkflowBytes) : parseWorkflow e.text = .ok e := by
  have hnodup : (e.fields.map (·.1)).Nodup := by
    rw [e.fields_keys]
    exact allowed_nodup
  obtain ⟨hdoc, htrailing⟩ := laws.readBack e.fields e.docs hnodup e.docs_of_fields
  refine (parseWorkflow_ok_iff laws _ e).mpr ⟨hfits, ⟨e.docs, hdoc, ?_, htrailing, ?_,
    decodeEnvelope_docs laws e⟩, hschema, hmessage, hcorrelation, hkey⟩
  · show ((SerdeJson.read (Externals.jsonText (.obj e.fields))).doc).Sound
    rw [hdoc]
    refine .obj e.docs_sound ?_
    rw [e.docs_keys]
    exact allowed_nodup
  · intro f hf
    have hkeys : (e.docs : List (String × Doc SerdeJson.Number)).map (·.1) = allowed :=
      e.docs_keys
    rw [← hkeys]
    exact List.mem_map_of_mem hf

/-! ### What the parser is for -/

/-- The parser on one text: it accepts exactly the grammar, reports a duplicate field exactly
where a key is repeated, and reads what was written. -/
structure ParsesExactly (raw : String) : Prop where
  accepts : ∀ e, parseWorkflow raw = .ok e ↔ InGrammar raw e
  duplicate : parseWorkflow raw = .error .duplicateField ↔
    raw.utf8ByteSize ≤ maxWorkflowBytes ∧ (SerdeJson.read raw).doc.Repeats
  readsBack : ∀ e : ParsedEnvelope, e.text = raw → e.schema = workflowSchema →
    e.message_id ≠ "" → e.correlation_id ≠ "" → e.idempotency_key ≠ "" →
    raw.utf8ByteSize ≤ maxWorkflowBytes → parseWorkflow raw = .ok e

/-- A text whose error tells something else: a string that says the word, or an array that repeats
a key. -/
def Mistold (d : Doc SerdeJson.Number) : Prop :=
  (∃ s, d = .str s ∧ word <:+: s.toList) ∨ ∃ items stop, d = .arr items stop ∧ d.Repeats

omit [Externals] in
/-- Elsewhere the report is right. -/
theorem told_iff (d : Doc SerdeJson.Number) :
    (ToldDuplicate d ↔ d.Repeats) ↔ ¬ Mistold d := by
  constructor
  · rintro h (⟨s, rfl, hword⟩ | ⟨items, stop, rfl, hrepeats⟩)
    · have hrepeats := h.mp (.inr ⟨s, rfl, hword⟩)
      obtain ⟨_, _, heq⟩ | ⟨_, _, heq⟩ := hrepeats.compound
      · cases heq
      · cases heq
    · obtain ⟨_, _, heq, -⟩ | ⟨_, heq, -⟩ := h.mpr hrepeats
      · cases heq
      · cases heq
  · intro h
    constructor
    · rintro (⟨_, _, -, hrepeats⟩ | hstr)
      · exact hrepeats
      · exact absurd (.inl hstr) h
    · intro hrepeats
      obtain ⟨items, stop, heq⟩ | ⟨fields, stop, heq⟩ := hrepeats.compound
      · exact absurd (.inr ⟨items, stop, heq, hrepeats⟩) h
      · exact .inl ⟨fields, stop, heq, hrepeats⟩

/-- **The parser does what it is for exactly on the texts that are not mistold.** -/
theorem parses_exactly_iff (laws : LawfulSerde) (raw : String) : ParsesExactly raw ↔
    ¬ (raw.utf8ByteSize ≤ maxWorkflowBytes ∧ Mistold (SerdeJson.read raw).doc) := by
  have hduplicate := parseWorkflow_duplicate_iff laws raw
  constructor
  · rintro h ⟨hsize, hmistold⟩
    refine (told_iff _).mp ?_ hmistold
    constructor
    · intro htold
      exact (h.duplicate.mp (hduplicate.mpr ⟨hsize, htold⟩)).2
    · intro hrepeats
      exact (hduplicate.mp (h.duplicate.mpr ⟨hsize, hrepeats⟩)).2
  · intro h
    refine ⟨parseWorkflow_ok_iff laws raw, ?_, ?_⟩
    · rw [hduplicate]
      refine and_congr_right fun hsize => ?_
      exact (told_iff _).mpr fun hmistold => h ⟨hsize, hmistold⟩
    · rintro e rfl hschema hmessage hcorrelation hkey hfits
      exact parseWorkflow_text laws hschema hmessage hcorrelation hkey hfits

/-- **What the parser does by design**: it accepts exactly its grammar, an object that repeats a
key is told to be a duplicate field, and what was written is read. -/
theorem parses_objects (laws : LawfulSerde) (raw : String) :
    (∀ e, parseWorkflow raw = .ok e ↔ InGrammar raw e) ∧
      ((∀ s, (SerdeJson.read raw).doc = .str s → ¬ word <:+: s.toList) →
        (parseWorkflow raw = .error .duplicateField ↔ raw.utf8ByteSize ≤ maxWorkflowBytes ∧
          ∃ fields stop, (SerdeJson.read raw).doc = .obj fields stop ∧
            (SerdeJson.read raw).doc.Repeats)) ∧
      ∀ e : ParsedEnvelope, e.schema = workflowSchema → e.message_id ≠ "" →
        e.correlation_id ≠ "" → e.idempotency_key ≠ "" →
        e.text.utf8ByteSize ≤ maxWorkflowBytes → parseWorkflow e.text = .ok e := by
  refine ⟨parseWorkflow_ok_iff laws raw, fun hother => ?_,
    fun e hschema hmessage hcorrelation hkey hfits =>
      parseWorkflow_text laws hschema hmessage hcorrelation hkey hfits⟩
  rw [parseWorkflow_duplicate_iff laws]
  refine and_congr_right fun _ => ?_
  constructor
  · rintro (hobj | ⟨s, hs, hword⟩)
    · exact hobj
    · exact absurd hword (hother s hs)
  · exact .inl

end

/-- An object that repeats a field is told to be a duplicate field. -/
theorem parses_objects_repeated :
    parseWorkflow "\x7b\"kind\":\"ack\",\"kind\":\"ack\"\x7d" = .error .duplicateField := by
  have htext : "\x7b\"kind\":\"ack\",\"kind\":\"ack\"\x7d" =
      String.ofList (Json.obj [("kind", .str "ack"), ("kind", .str "ack")]).render := by
    decide
  have hsize : ("\x7b\"kind\":\"ack\",\"kind\":\"ack\"\x7d" : String).utf8ByteSize ≤
      maxWorkflowBytes := by
    decide
  have hdoc := Reference.readDoc_render [("kind", .str "ack"), ("kind", .str "ack")]
  rw [← htext, ← Reference.read_doc] at hdoc
  refine ((parses_objects Reference.lawfulSerde _).2.1 ?_).mpr ⟨hsize, _, _, hdoc, ?_⟩
  · intro s hs
    rw [hdoc] at hs
    cases hs
  · have hrepeats : Doc.Repeats (.obj ([("kind", .str "ack")] ++ ("kind", .str "ack") :: []) none :
        Doc Int) := by
      refine .key ?_ (List.nodup_singleton _) (List.mem_singleton.mpr rfl)
      intro f hf
      rw [List.mem_singleton.mp hf]
      exact .str _
    rw [hdoc]
    exact hrepeats

/-- An array of an object that repeats a key is not told to be a duplicate field, and a text that
is one string is. -/
theorem array_and_string_mistold :
    (parseWorkflow "[\x7b\"a\":1,\"a\":1\x7d]" ≠ .error .duplicateField ∧
      ¬ ParsesExactly "[\x7b\"a\":1,\"a\":1\x7d]") ∧
    parseWorkflow "\"duplicate key\"" = .error .duplicateField ∧
      ¬ ParsesExactly "\"duplicate key\"" := by
  have harrText : "[\x7b\"a\":1,\"a\":1\x7d]".toList =
      (Json.arr [.obj [("a", .num 1), ("a", .num 1)]]).render := by decide
  have hstrText : "\"duplicate key\"".toList = (Json.str "duplicate key").render := by
    decide
  have hsize : ("[\x7b\"a\":1,\"a\":1\x7d]" : String).utf8ByteSize ≤ maxWorkflowBytes ∧
      ("\"duplicate key\"" : String).utf8ByteSize ≤ maxWorkflowBytes := by decide
  have harr : (SerdeJson.read "[\x7b\"a\":1,\"a\":1\x7d]").doc =
      .arr [.obj [("a", .num (1 : Int)), ("a", .num (1 : Int))] none] none := by
    rw [Reference.read_doc, Reference.readDoc, harrText, Json.parse_render]
    rfl
  have hstr : (SerdeJson.read "\"duplicate key\"").doc = .str "duplicate key" := by
    rw [Reference.read_doc, Reference.readDoc, hstrText, Json.parse_render]
    rfl
  have hrepeats : Doc.Repeats
      (.obj ([("a", .num 1)] ++ ("a", .num 1) :: []) none : Doc Int) := by
    refine .key ?_ (List.nodup_singleton _) (List.mem_singleton.mpr rfl)
    intro f hf
    rw [List.mem_singleton.mp hf]
    exact .num _
  have hinner : Doc.Repeats
      (.arr ([] ++ [.obj [("a", .num 1), ("a", .num 1)] none]) none : Doc Int) :=
    .item (by simp) hrepeats
  refine ⟨⟨?_, ?_⟩, ?_, ?_⟩
  · rw [Ne, parseWorkflow_duplicate_iff Reference.lawfulSerde, harr]
    rintro ⟨-, ⟨_, _, hobj, -⟩ | ⟨_, hs, -⟩⟩
    · cases hobj
    · cases hs
  · rw [parses_exactly_iff Reference.lawfulSerde, harr, not_not]
    exact ⟨hsize.1, .inr ⟨_, _, rfl, hinner⟩⟩
  · rw [parseWorkflow_duplicate_iff Reference.lawfulSerde, hstr]
    exact ⟨hsize.2, .inr ⟨_, rfl, List.infix_refl _⟩⟩
  · rw [parses_exactly_iff Reference.lawfulSerde, hstr, not_not]
    exact ⟨hsize.2, .inl ⟨_, rfl, List.infix_refl _⟩⟩

end GuiguBridge
