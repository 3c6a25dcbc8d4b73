import GuiguBridge.Config.Secrets
import GuiguBridge.Lib.Lines

/-!
# Loading a configuration

`parse_and_build` parses the text, checks the secrets, substitutes the environment and builds the
configuration.  It tells the place of a syntax error by line and column, which `line_col_at` finds
for the byte offset that the parser reports.

* `parseAndBuild` — the pipeline, over a parser and a builder; `none` is a panic;
* `parse_and_build_panics` — **it panics exactly where `line_col_at` does**;
* `parse_and_build_secrets` — what is built has its secrets by reference;
* `lineColAt` — the place of an offset; `none` is the panic of a slice that cuts a character;
* `CharAt`, `placeOf` — **the character that starts at an offset, and its line and column**;
* `line_col_at_iff` — the function returns, and returns that place, for exactly the offsets of
  one-byte characters and the end of the text.
-/

namespace GuiguBridge

open Utf8

/-! ### The place of a syntax error -/

/-- `&input[start..=stop]`: both ends have to be boundaries. -/
def sliceInclusive (bytes : List UInt8) (start stop : Nat) : Option (List UInt8) :=
  if start ≤ stop + 1 ∧ stop + 1 ≤ bytes.length ∧ isBoundary bytes start = true ∧
      isBoundary bytes (stop + 1) = true then
    some (slice bytes start (stop + 1))
  else none

/-- `line_col_at`. -/
def lineColAt (input : String) (byte_index : Nat) : Option (Nat × Nat) :=
  let bytes := encode input.toList
  if bytes = [] then some (0, 0)
  else
    let idx := min byte_index (bytes.length - 1)
    let before := bytes.take idx
    let line := before.count newline + 1
    let line_start := lineStart before
    (sliceInclusive bytes line_start idx).map fun chars => (line, charCount chars)

/-- The character that starts at a byte offset, behind the characters `pre`. -/
def CharAt (input : String) (i : Nat) (pre : List Char) (c : Char) : Prop :=
  ∃ tail, input.toList = pre ++ c :: tail ∧ (encode pre).length = i

/-- The offset tells the character, and what lies before it. -/
theorem CharAt.unique {input : String} {i : Nat} {pre pre' : List Char} {c c' : Char}
    (h : CharAt input i pre c) (h' : CharAt input i pre' c') : pre' = pre ∧ c' = c := by
  obtain ⟨tail, hinput, hlen⟩ := h
  obtain ⟨tail', hinput', hlen'⟩ := h'
  have hsame : pre' = pre := by
    have hsplit := hinput'.symm.trans hinput
    obtain ⟨x, rfl, -⟩ | ⟨x, rfl, -⟩ := List.append_eq_append_iff.mp hsplit
    · rw [encode_append, List.length_append] at hlen
      have hx : x = [] := encode_eq_nil.1 (List.length_eq_zero_iff.mp (by omega))
      rw [hx, List.append_nil]
    · rw [encode_append, List.length_append] at hlen'
      have hx : x = [] := encode_eq_nil.1 (List.length_eq_zero_iff.mp (by omega))
      rw [hx, List.append_nil]
  subst hsame
  have htails := List.append_cancel_left (hinput'.symm.trans hinput)
  exact ⟨rfl, (List.cons.inj htails).1⟩

/-- The line and the column behind some characters, both counted from 1. -/
def placeOf (pre : List Char) : Nat × Nat := (pre.count '\n' + 1, (lastLine pre).length + 1)

theorem encode_split (pre : List Char) :
    encode pre = encode (lineHead pre) ++ encode (lastLine pre) := by
  rw [← encode_append, lineHead_append]

/-- Where the last line starts is a boundary. -/
theorem isBoundary_lineHead (pre suf : List Char) :
    isBoundary (encode (pre ++ suf)) (encode (lineHead pre)).length = true := by
  have hsplit : pre ++ suf = lineHead pre ++ (lastLine pre ++ suf) := by
    rw [← List.append_assoc, lineHead_append]
  rw [hsplit]
  exact isBoundary_append _ _

/-- At a character the slice ends behind its first byte. -/
theorem lineColAt_char {input : String} {pre tail : List Char} {c : Char}
    (h : input.toList = pre ++ c :: tail) :
    lineColAt input (encode pre).length =
      (sliceInclusive (encode (pre ++ c :: tail)) (encode (lineHead pre)).length
        (encode pre).length).map fun chars => (pre.count '\n' + 1, charCount chars) := by
  have hlen : (encode (pre ++ c :: tail)).length =
      (encode pre).length + (c.utf8Size + (encode tail).length) := by
    rw [encode_append, List.length_append, length_encode_cons]
  have hpos := c.utf8Size_pos
  have hne : encode (pre ++ c :: tail) ≠ [] := by
    intro hnil
    rw [hnil, List.length_nil] at hlen
    omega
  have hidx : min (encode pre).length ((encode (pre ++ c :: tail)).length - 1) =
      (encode pre).length := by omega
  have htake : (encode (pre ++ c :: tail)).take (encode pre).length = encode pre := by
    rw [encode_append]
    exact List.take_left
  have hstart := lineStart_encode pre (List.not_mem_nil (a := newline))
  rw [List.append_nil] at hstart
  unfold lineColAt
  simp only [h]
  rw [if_neg hne, hidx, htake, hstart, count_newline]

/-- **A character of one byte**: its place. -/
theorem lineColAt_ascii {input : String} {pre tail : List Char} {c : Char}
    (h : input.toList = pre ++ c :: tail) (hc : c.utf8Size = 1) :
    lineColAt input (encode pre).length = some (placeOf pre) := by
  rw [lineColAt_char h]
  have hparts : (encode pre).length =
      (encode (lineHead pre)).length + (encode (lastLine pre)).length := by
    rw [encode_split pre, List.length_append]
  have hlen : (encode (pre ++ c :: tail)).length =
      (encode pre).length + (c.utf8Size + (encode tail).length) := by
    rw [encode_append, List.length_append, length_encode_cons]
  have hslice : sliceInclusive (encode (pre ++ c :: tail)) (encode (lineHead pre)).length
      (encode pre).length = some (encode (lastLine pre ++ [c])) := by
    unfold sliceInclusive
    rw [if_pos ⟨by omega, by omega, isBoundary_lineHead _ _, (isBoundary_next _ _ _).mpr hc⟩]
    have hbytes : encode (pre ++ c :: tail) =
        encode (lineHead pre) ++ encode (lastLine pre ++ [c]) ++ encode tail := by
      rw [← encode_append, ← encode_append, ← List.append_assoc, lineHead_append,
        List.append_assoc]
      rfl
    have hstop : (encode pre).length + 1 =
        (encode (lineHead pre)).length + (encode (lastLine pre ++ [c])).length := by
      rw [encode_append, List.length_append, length_encode_cons, encode_nil, List.length_nil]
      omega
    rw [hbytes, hstop, slice_append]
  rw [hslice, Option.map_some, charCount_encode, List.length_append]
  rfl

/-- A wider character: the slice would end inside it. -/
theorem lineColAt_wide {input : String} {pre tail : List Char} {c : Char}
    (h : input.toList = pre ++ c :: tail) (hc : c.utf8Size ≠ 1) :
    lineColAt input (encode pre).length = none := by
  rw [lineColAt_char h]
  unfold sliceInclusive
  rw [if_neg fun ⟨_, _, _, hstop⟩ => hc ((isBoundary_next _ _ _).mp hstop)]
  rfl

/-- The end of the text: the slice takes the last character whole. -/
theorem lineColAt_end (input : String) :
    ∃ found, lineColAt input (encode input.toList).length = some found := by
  unfold lineColAt
  dsimp only
  rcases List.eq_nil_or_concat input.toList with hnil | ⟨pre, c, hcs⟩
  · rw [hnil, encode_nil, if_pos rfl]
    exact ⟨_, rfl⟩
  · rw [List.concat_eq_append] at hcs
    rw [hcs]
    have hlen : (encode (pre ++ [c])).length = (encode pre).length + c.utf8Size := by
      rw [encode_append, List.length_append, length_encode_cons]
      rfl
    have hpos := c.utf8Size_pos
    have hne : encode (pre ++ [c]) ≠ [] := by
      intro hnil
      rw [hnil, List.length_nil] at hlen
      omega
    have hidx : min (encode (pre ++ [c])).length ((encode (pre ++ [c])).length - 1) =
        (encode pre).length + (c.utf8Size - 1) := by omega
    -- the first bytes of the last character hold no line end
    have hmore : newline ∉ (encode [c]).take (c.utf8Size - 1) := by
      intro hmem
      have heq : c = '\n' :=
        (List.mem_singleton.mp (newline_mem (List.mem_of_mem_take hmem))).symm
      rw [heq] at hmem
      cases hmem
    have htake : (encode (pre ++ [c])).take ((encode pre).length + (c.utf8Size - 1)) =
        encode pre ++ (encode [c]).take (c.utf8Size - 1) := by
      rw [encode_append, List.take_length_add_append]
    have hhead : (encode pre).length =
        (encode (lineHead pre)).length + (encode (lastLine pre)).length := by
      rw [encode_split pre, List.length_append]
    have hend := isBoundary_append (pre ++ [c]) []
    rw [List.append_nil, hlen] at hend
    have hstop : (encode pre).length + (c.utf8Size - 1) + 1 =
        (encode pre).length + c.utf8Size := by omega
    rw [if_neg hne, hidx, htake, lineStart_encode pre hmore]
    unfold sliceInclusive
    rw [hstop, if_pos ⟨by omega, by omega, isBoundary_lineHead _ _, hend⟩]
    exact ⟨_, rfl⟩

/-- At a boundary there is a character of one byte, a wider one, or the end. -/
theorem lineColAt_cases (input : String) (i : Nat)
    (h : isBoundary (encode input.toList) i = true) :
    (∃ pre c, CharAt input i pre c ∧ c.utf8Size = 1 ∧ lineColAt input i = some (placeOf pre)) ∨
    (∃ pre c, CharAt input i pre c ∧ c.utf8Size ≠ 1 ∧ lineColAt input i = none) ∨
    ((∀ pre c, ¬ CharAt input i pre c) ∧ ∃ found, lineColAt input i = some found) := by
  obtain ⟨pre, suf, hinput, rfl⟩ := (isBoundary_encode _ _).mp h
  cases suf with
  | nil =>
    have hend := lineColAt_end input
    rw [List.append_nil] at hinput
    rw [hinput] at hend
    refine Or.inr (Or.inr ⟨?_, hend⟩)
    rintro pre' c ⟨tail, hsplit, hlen⟩
    have hlonger := congrArg (fun cs => (encode cs).length) (hinput.symm.trans hsplit)
    have hpos := c.utf8Size_pos
    simp only [encode_append, List.length_append, length_encode_cons] at hlonger
    omega
  | cons c tail =>
    have hat : CharAt input (encode pre).length pre c := ⟨tail, hinput, rfl⟩
    by_cases hone : c.utf8Size = 1
    · exact Or.inl ⟨pre, c, hat, hone, lineColAt_ascii hinput hone⟩
    · exact Or.inr (Or.inl ⟨pre, c, hat, hone, lineColAt_wide hinput hone⟩)

/-- **When the place of a syntax error is told.**  For every text and every boundary in it, the end
included, `line_col_at` returns, and returns the line and the column of the character that starts
there, exactly when no character of more than one byte does. -/
theorem line_col_at_iff (input : String) (i : Nat)
    (h : isBoundary (encode input.toList) i = true) :
    (∃ found, lineColAt input i = some found ∧
      ∀ pre c, CharAt input i pre c → found = placeOf pre) ↔
    ∀ pre c, CharAt input i pre c → c.utf8Size = 1 := by
  rcases lineColAt_cases input i h with ⟨pre, c, hat, hone, hplace⟩ | ⟨pre, c, hat, hwide, hnone⟩ |
    ⟨hend, found, hfound⟩
  · refine ⟨fun _ pre' c' hat' => ?_, fun _ => ⟨placeOf pre, hplace, fun pre' c' hat' => ?_⟩⟩
    · rw [(hat.unique hat').2]
      exact hone
    · rw [(hat.unique hat').1]
  · refine iff_of_false ?_ fun hall => hwide (hall pre c hat)
    rintro ⟨found, hfound, -⟩
    exact nomatch hfound.symm.trans hnone
  · exact ⟨fun _ pre c hat => absurd hat (hend pre c),
      fun _ => ⟨found, hfound, fun pre c hat => absurd hat (hend pre c)⟩⟩

/-- The second line of two. -/
theorem line_col_at_second_line :
    isBoundary (encode "a\nb".toList) 2 = true ∧
    ((∃ found, lineColAt "a\nb" 2 = some found ∧
        ∀ pre c, CharAt "a\nb" 2 pre c → found = placeOf pre) ↔
      ∀ pre c, CharAt "a\nb" 2 pre c → c.utf8Size = 1) :=
  ⟨by decide, line_col_at_iff "a\nb" 2 (by decide)⟩

/-- A key that starts with a character of two bytes. -/
theorem line_col_at_wide_key :
    isBoundary (encode "é = 1".toList) 0 = true ∧ lineColAt "é = 1" 0 = none :=
  ⟨by decide, by decide⟩

/-! ### The pipeline -/

open Toml

/-- `toml::de::Error`: where its span starts, and its message. -/
structure TomlError where
  start : Option Nat
  message : String

variable {γ : Type}

/-- The place that `parse_and_build` tells. -/
def errorPlace (text : String) (e : TomlError) : Option (Nat × Nat) :=
  match e.start with
  | some start => lineColAt text start
  | none => some (0, 0)

/-- `parse_and_build`; `parse` is the parser of the language, and `build` has the later stages. -/
def parseAndBuild (parse : String → Except TomlError Value) (build : Value → Except ConfigError γ)
    (text : String) (path : Option String) (lookup : String → Option String) :
    Option (Except ConfigError γ) :=
  match parse text with
  | .error e =>
    (errorPlace text e).map fun (line, col) =>
      .error (.parse (path.getD "<string>") line col e.message)
  | .ok value =>
    some (do
      enforceSecretReferences value
      let value ← substituteInValue lookup "" value
      build value)

variable {parse : String → Except TomlError Value} {build : Value → Except ConfigError γ}
  {text : String} {path : Option String} {lookup : String → Option String}

/-- **Loading panics on the syntax errors at characters of more than one byte**, where the parser
reports boundaries, and on nothing else. -/
theorem parse_and_build_panics
    (hparse : ∀ e start, parse text = .error e → e.start = some start →
      isBoundary (encode text.toList) start = true) :
    parseAndBuild parse build text path lookup = none ↔
      ∃ e start pre c, parse text = .error e ∧ e.start = some start ∧
        CharAt text start pre c ∧ c.utf8Size ≠ 1 := by
  unfold parseAndBuild
  cases htext : parse text with
  | ok value => exact iff_of_false (fun h => nomatch h) fun ⟨_, _, _, _, h, _⟩ => nomatch h
  | error e =>
    show Option.map _ (errorPlace text e) = none ↔ _
    rw [Option.map_eq_none_iff]
    unfold errorPlace
    cases hstart : e.start with
    | none =>
      refine iff_of_false (fun h => nomatch h) ?_
      rintro ⟨e', start, _, _, he, hs, -⟩
      cases he
      exact nomatch hs.symm.trans hstart
    | some start =>
      dsimp only
      constructor
      · intro hnone
        rcases lineColAt_cases text start (hparse e start htext hstart) with
          ⟨_, _, _, _, hsome⟩ | ⟨pre, c, hat, hwide, -⟩ | ⟨_, _, hsome⟩
        · exact nomatch hnone.symm.trans hsome
        · exact ⟨e, start, pre, c, rfl, hstart, hat, hwide⟩
        · exact nomatch hnone.symm.trans hsome
      · rintro ⟨e', start', pre, c, he, hs, ⟨tail, hsplit, rfl⟩, hwide⟩
        cases he
        obtain rfl := Option.some.inj (hs.symm.trans hstart)
        exact lineColAt_wide hsplit hwide

/-- **What is built has its secrets by reference**: the document it is built from passed the check
and was then substituted. -/
theorem parse_and_build_secrets {config : γ}
    (h : parseAndBuild parse build text path lookup = some (.ok config)) :
    ∃ v v', parse text = .ok v ∧ build v' = .ok config ∧
      (∀ token, matrixToken v' = some token → token = "" ∨
        ∃ ref, matrixToken v = some ref ∧ ValueOfReference lookup ref token) ∧
      ∀ peers', a2aPeers v' = some peers' → ∀ peer fields', (peer, fields') ∈ peers' →
        ∀ token, peerToken fields' = some token →
          ∃ peers fields ref, a2aPeers v = some peers ∧ (peer, fields) ∈ peers ∧
            peerToken fields = some ref ∧ ValueOfReference lookup ref token := by
  unfold parseAndBuild at h
  cases htext : parse text with
  | error e =>
    rw [htext] at h
    obtain ⟨place, -, hplace⟩ := Option.map_eq_some_iff.mp h
    cases hplace
  | ok v =>
    rw [htext] at h
    obtain ⟨⟨⟩, henforce, h⟩ := except_bind_ok (Option.some.inj h)
    obtain ⟨v', hsub, hbuild⟩ := except_bind_ok h
    obtain ⟨⟨⟩, hmatrix, hpeers⟩ := except_bind_ok henforce
    exact ⟨v, v', rfl, hbuild, fun token => matrix_token_source hmatrix hsub,
      fun peers' htable peer fields' hmem token => peer_token_source hpeers hsub htable hmem⟩

end GuiguBridge
