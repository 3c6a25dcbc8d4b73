import GuiguBridge.Acp.JsonRpc
import GuiguBridge.Lib.Framing
import GuiguBridge.Lib.Json
import GuiguBridge.Lib.Utf8

/-!
# Lines of JSON, whatever the reads

The bytes of a line may come in any number of reads, and several lines in one
(`src/src/acp/framing.rs`).

* `FrameReader.reader` — the frame reader as a reader that is fed in chunks: a frame, a refusal
  and a wait are stable under bytes that arrive later;
* `FrameReader.readAll` — the chunks of a stream pushed one by one, the frames drained after
  each;
* `Value.text`, `writeFrame` — the compact text of a value, and its line;
* `framing_chunk_independent` — **the frames, the first error and the verdict at the end do not
  depend on the cuts**, no state holds more than the limit and one chunk, and written values
  are read back.
-/

namespace GuiguBridge

namespace Acp

namespace FrameReader

/-! ### The search for a line -/

section

variable [WireCrates] {limit : Nat}

/-- Bytes without a line feed join the line that is being read. -/
theorem scan_line (line : Bytes) {bytes : Bytes} (hbytes : 10 ∉ bytes) (rest : Bytes) :
    scan limit line (bytes ++ rest) = scan limit (line ++ bytes) rest := by
  induction bytes generalizing line with
  | nil => rw [List.nil_append, List.append_nil]
  | cons byte bytes ih =>
    have hbyte : byte ≠ 10 := fun h => hbytes (h ▸ List.mem_cons_self)
    rw [List.cons_append, scan, if_neg hbyte,
      ih (line ++ [byte]) fun h => hbytes (List.mem_cons_of_mem byte h), List.append_assoc]
    rfl

/-- A line above the limit is refused whether it ends or not. -/
theorem scan_long {line : Bytes} (hline : limit < line.length) (rest : Bytes) :
    (scan limit line rest).1 = .error (.tooLarge limit) := by
  induction rest generalizing line with
  | nil => rw [scan, if_pos hline]
  | cons byte rest ih =>
    by_cases hbyte : byte = 10
    · rw [scan, if_pos hbyte, if_pos hline]
    · rw [scan, if_neg hbyte]
      refine ih ?_
      rw [List.length_append]
      omega

/-- What a search leaves: no more bytes than there were, under the same limit. -/
theorem scan_leaves (limit : Nat) (line rest : Bytes) :
    (scan limit line rest).2.partialLine.length ≤ line.length + rest.length ∧
      (scan limit line rest).2.max_frame_bytes = limit := by
  induction rest generalizing line with
  | nil =>
    rw [scan]
    split
    · exact ⟨Nat.le_refl _, rfl⟩
    · exact ⟨Nat.le_refl _, rfl⟩
  | cons byte rest ih =>
    have hcons : (byte :: rest).length = rest.length + 1 := rfl
    rw [scan]
    split
    · split
      · refine ⟨?_, rfl⟩
        show (line ++ byte :: rest).length ≤ _
        rw [List.length_append]
      · split
        · refine ⟨?_, rfl⟩
          show rest.length ≤ _
          omega
        · split
          · obtain ⟨hlength, hlimit⟩ := ih []
            have hnil : ([] : Bytes).length = 0 := rfl
            exact ⟨by omega, hlimit⟩
          · refine ⟨?_, rfl⟩
            show rest.length ≤ _
            omega
    · obtain ⟨hlength, hlimit⟩ := ih (line ++ [byte])
      rw [List.length_append] at hlength
      have hone : [byte].length = 1 := rfl
      exact ⟨by omega, hlimit⟩

/-- What one search can come to, whatever bytes arrive later. -/
inductive Search (limit : Nat) (line rest : Bytes) : Prop where
  | tooLong (h : ∀ more, (scan limit line (rest ++ more)).1 = .error (.tooLarge limit))
  | lineOver (x : Except FrameError (Option Value)) (tail : Bytes) (hx : x ≠ .ok none)
      (hshorter : tail.length < line.length + rest.length)
      (h : ∀ more, scan limit line (rest ++ more) = (x, ⟨tail ++ more, limit⟩))
  | waits (tail : Bytes) (htail : 10 ∉ tail) (hlimit : tail.length ≤ limit)
      (h : ∀ more, scan limit line (rest ++ more) = scan limit tail more)

theorem scan_search (line rest : Bytes) (hline : 10 ∉ line) : Search limit line rest := by
  induction rest generalizing line with
  | nil =>
    by_cases hlong : limit < line.length
    · exact .tooLong fun more => scan_long hlong more
    · exact .waits line hline (Nat.le_of_not_lt hlong) fun more => rfl
  | cons byte rest ih =>
    have hcons : (byte :: rest).length = rest.length + 1 := rfl
    by_cases hbyte : byte = 10
    · by_cases hlong : limit < line.length
      · exact .tooLong fun more => scan_long hlong _
      · cases htext : fromUtf8 line with
        | none =>
          refine .lineOver (.error .notUtf8) rest (by simp) (by omega) fun more => ?_
          simp only [List.cons_append, scan, if_pos hbyte, if_neg hlong, htext]
        | some text =>
          have hstep : ∀ more, scan limit line (byte :: rest ++ more) =
              if Text.isBlank text.toList then scan limit [] (rest ++ more)
              else (readLine (Text.trim text.toList), ⟨rest ++ more, limit⟩) := by
            intro more
            simp only [List.cons_append, scan, if_pos hbyte, if_neg hlong, htext]
          by_cases hblank : Text.isBlank text.toList = true
          · have hskip : ∀ more, scan limit line (byte :: rest ++ more) =
                scan limit [] (rest ++ more) := by
              intro more
              rw [hstep]
              exact if_pos hblank
            -- a blank line is dropped, and the search goes on behind it
            cases ih [] List.not_mem_nil with
            | tooLong h => exact .tooLong fun more => by rw [hskip, h]
            | lineOver x tail hx hshorter h =>
              have hnil : ([] : Bytes).length = 0 := rfl
              exact .lineOver x tail hx (by omega) fun more => by rw [hskip, h]
            | waits tail htail hlimit h =>
              exact .waits tail htail hlimit fun more => by rw [hskip, h]
          · refine .lineOver (readLine (Text.trim text.toList)) rest ?_ (by omega) fun more => ?_
            · unfold readLine
              split
              · simp
              · simp
            · rw [hstep]
              exact if_neg hblank
    · have hjoin : ∀ more, scan limit line (byte :: rest ++ more) =
          scan limit (line ++ [byte]) (rest ++ more) := by
        intro more
        rw [List.cons_append, scan, if_neg hbyte]
      have hline' : 10 ∉ line ++ [byte] := by
        intro h
        obtain h | h := List.mem_append.mp h
        · exact hline h
        · exact hbyte (List.mem_singleton.mp h).symm
      cases ih (line ++ [byte]) hline' with
      | tooLong h => exact .tooLong fun more => by rw [hjoin, h]
      | lineOver x tail hx hshorter h =>
        rw [List.length_append] at hshorter
        have hone : [byte].length = 1 := rfl
        exact .lineOver x tail hx (by omega) fun more => by rw [hjoin, h]
      | waits tail htail hlimit h =>
        exact .waits tail htail hlimit fun more => by rw [hjoin, h]

/-- A line that is not over and not too long is waited for. -/
theorem scan_waiting {tail : Bytes} (h : tail.length ≤ limit) :
    scan limit tail [] = (.ok none, ⟨tail, limit⟩) := by
  rw [scan, if_neg (Nat.not_lt.2 h)]

/-- `nextFrame` by its three outcomes. -/
theorem nextFrame_search (r : FrameReader) : Search r.max_frame_bytes [] r.partialLine :=
  scan_search [] r.partialLine List.not_mem_nil

end

/-! ### The reader of chunks -/

section

variable [WireCrates]

theorem nextFrame_push (r : FrameReader) (c : Bytes) :
    (r.push c).nextFrame = scan r.max_frame_bytes [] (r.partialLine ++ c) := rfl

theorem nextFrame_eq (r : FrameReader) :
    r.nextFrame = scan r.max_frame_bytes [] (r.partialLine ++ []) := by
  rw [List.append_nil]
  rfl

/-- A frame leaves fewer bytes, and what arrives later stands behind them. -/
theorem nextFrame_frame {r r' : FrameReader} {value : Value}
    (h : r.nextFrame = (.ok (some value), r')) :
    r'.partialLine.length < r.partialLine.length ∧
      ∀ c, (r.push c).nextFrame = (.ok (some value), r'.push c) := by
  cases nextFrame_search r with
  | tooLong hs =>
    have hrefused := hs []
    rw [← nextFrame_eq, h] at hrefused
    cases hrefused
  | lineOver x tail hx hshorter hs =>
    have hfound := hs []
    rw [← nextFrame_eq, h, List.append_nil] at hfound
    cases hfound
    refine ⟨by simpa using hshorter, fun c => ?_⟩
    rw [nextFrame_push, hs]
    rfl
  | waits tail htail hlimit hs =>
    have hwait := hs []
    rw [← nextFrame_eq, h, scan_waiting hlimit] at hwait
    cases hwait

theorem nextFrame_error {r r' : FrameReader} {e : FrameError} (c : Bytes)
    (h : r.nextFrame = (.error e, r')) : (r.push c).nextFrame.1 = .error e := by
  cases nextFrame_search r with
  | tooLong hs =>
    have hrefused := hs []
    rw [← nextFrame_eq, h] at hrefused
    rw [nextFrame_push, hs]
    exact hrefused.symm
  | lineOver x tail hx hshorter hs =>
    have hfound := hs []
    rw [← nextFrame_eq, h] at hfound
    rw [nextFrame_push, hs]
    exact (congrArg Prod.fst hfound).symm
  | waits tail htail hlimit hs =>
    have hwait := hs []
    rw [← nextFrame_eq, h, scan_waiting hlimit] at hwait
    cases hwait

/-- A wait holds no more than the limit, and what was dropped stays dropped. -/
theorem nextFrame_wait {r r' : FrameReader} (h : r.nextFrame = (.ok none, r')) :
    r'.partialLine.length ≤ r.max_frame_bytes ∧
      ∀ c, (r.push c).nextFrame = (r'.push c).nextFrame := by
  cases nextFrame_search r with
  | tooLong hs =>
    have hrefused := hs []
    rw [← nextFrame_eq, h] at hrefused
    cases hrefused
  | lineOver x tail hx hshorter hs =>
    have hfound := hs []
    rw [← nextFrame_eq, h] at hfound
    exact absurd (congrArg Prod.fst hfound).symm hx
  | waits tail htail hlimit hs =>
    have hwait := hs []
    rw [← nextFrame_eq, h, scan_waiting hlimit] at hwait
    cases hwait
    refine ⟨hlimit, fun c => ?_⟩
    rw [nextFrame_push, nextFrame_push, hs, scan_line [] htail]
    rfl

/-- The frame reader as a reader that is fed in chunks. -/
def reader : Framing.Reader FrameReader UInt8 Value FrameError where
  push := push
  next := nextFrame
  size r := r.partialLine.length
  push_nil r := by rw [push, List.append_nil]
  push_push c d r := by rw [push, push, push, List.append_assoc]
  size_push c r := List.length_append
  size_next r := by
    have := (scan_leaves r.max_frame_bytes [] r.partialLine).1
    rwa [List.length_nil, Nat.zero_add] at this
  size_frame r r' value h := (nextFrame_frame h).1
  frame_push c r r' value h := (nextFrame_frame h).2 c
  error_push c r r' e h := nextFrame_error c h
  wait_push c r r' h := (nextFrame_wait h).2 c

/-- The chunks of a stream, the frames drained after each: the frames, and the first error or
what `finish` says of the rest. -/
def readAll (limit : Nat) (chunks : List Bytes) :
    List Value × Except FrameError (Except FrameError Unit) :=
  let (frames, result) := reader.read ⟨[], limit⟩ chunks
  (frames, result.map finish)

end

end FrameReader

/-! ### Writing -/

/-- The characters of the numbers that `serde_json` prints. -/
def isNumberChar (c : Char) : Bool :=
  c.isDigit || c = '-' || c = '+' || c = '.' || c = 'e'

/-- The text of a number. -/
def Number.text : Number → List Char
  | .posInt n => Nat.toDigits 10 n
  | .negInt n => Json.renderInt n
  | .float text => text.toList

/-- A float is kept by a text that a number can have. -/
def Number.valid : Number → Bool
  | .float text => !text.toList.isEmpty && text.toList.all isNumberChar
  | _ => true

namespace Value

mutual

/-- `serde_json::to_string`. -/
def text : Value → List Char
  | .null => ['n', 'u', 'l', 'l']
  | .bool true => ['t', 'r', 'u', 'e']
  | .bool false => ['f', 'a', 'l', 's', 'e']
  | .number n => n.text
  | .string s => Json.renderString s
  | .array [] => ['[', ']']
  | .array (v :: vs) => '[' :: (text v ++ itemsText vs)
  | .object [] => ['{', '}']
  | .object ((k, v) :: fs) => '{' :: (Json.renderString k ++ ':' :: (text v ++ fieldsText fs))

/-- The items of an array after the first, and its end. -/
def itemsText : List Value → List Char
  | [] => [']']
  | v :: vs => ',' :: (text v ++ itemsText vs)

/-- The fields of an object after the first, and its end. -/
def fieldsText : List (String × Value) → List Char
  | [] => ['}']
  | (k, v) :: fs => ',' :: (Json.renderString k ++ ':' :: (text v ++ fieldsText fs))

end

mutual

/-- Every number of a value is valid. -/
def valid : Value → Bool
  | .number n => n.valid
  | .array vs => validItems vs
  | .object fs => validFields fs
  | _ => true

def validItems : List Value → Bool
  | [] => true
  | v :: vs => valid v && validItems vs

def validFields : List (String × Value) → Bool
  | [] => true
  | (_, v) :: fs => valid v && validFields fs

end

end Value

/-- The bytes that `write_frame` writes. -/
def writeFrame (value : Value) : Bytes := Utf8.encode value.text ++ [10]

/-! ### What the text of a value looks like -/

/-- A character of a number ends no line and is not trimmed. -/
theorem isNumberChar_plain {c : Char} (h : isNumberChar c = true) :
    c ≠ '\n' ∧ Text.isWhitespace c = false := by
  simp only [isNumberChar, Bool.or_eq_true, decide_eq_true_eq] at h
  obtain (((h | rfl) | rfl) | rfl) | rfl := h
  · have hrange : 48 ≤ c.toNat ∧ c.toNat ≤ 57 := by
      simp only [Char.isDigit, Bool.and_eq_true, decide_eq_true_eq] at h
      exact ⟨UInt32.le_iff_toNat_le.mp h.1, UInt32.le_iff_toNat_le.mp h.2⟩
    refine ⟨?_, ?_⟩
    · rintro rfl
      exact absurd hrange.1 (by decide)
    · rw [Text.isWhitespace, decide_eq_false_iff_not]
      omega
  · decide
  · decide
  · decide
  · decide

theorem hexChar_no_newline : ∀ n < 32,
    '\n' ∉ [Json.hexChar (n / 16), Json.hexChar (n % 16)] := by
  decide

/-- A line feed in a string is escaped. -/
theorem escape_no_newline (c : Char) : '\n' ∉ Json.escape c := by
  unfold Json.escape
  split
  · decide
  · split
    · decide
    · split
      · decide
      · split
        · decide
        · split
          · decide
          · split
            · decide
            · split
              · decide
              · split
                · next hcontrol =>
                  have hhex := hexChar_no_newline c.toNat hcontrol
                  simpa using hhex
                · next h _ _ _ _ _ =>
                  exact fun hc => h (List.mem_singleton.mp hc).symm

theorem renderString_no_newline (s : String) : '\n' ∉ Json.renderString s := by
  intro h
  rw [Json.renderString] at h
  obtain h | h := List.mem_cons.mp h
  · exact absurd h (by decide)
  · obtain h | h := List.mem_append.mp h
    · obtain ⟨c, -, hc⟩ := List.mem_flatMap.mp h
      exact escape_no_newline c hc
    · exact absurd h (by decide)

theorem toDigits_chars (n : Nat) : ∀ c ∈ Nat.toDigits 10 n, isNumberChar c = true := by
  intro c hc
  have := Nat.isDigit_of_mem_toDigits (by decide) (by decide) hc
  rw [isNumberChar, this]
  rfl

theorem Number.text_chars {n : Number} (h : n.valid = true) :
    n.text ≠ [] ∧ ∀ c ∈ n.text, isNumberChar c = true := by
  cases n with
  | posInt n => exact ⟨Nat.toDigits_ne_nil, toDigits_chars n⟩
  | negInt n =>
    rw [text, Json.renderInt]
    split
    · refine ⟨by simp, fun c hc => ?_⟩
      obtain rfl | hc := List.mem_cons.mp hc
      · rfl
      · exact toDigits_chars _ c hc
    · exact ⟨Nat.toDigits_ne_nil, toDigits_chars _⟩
  | float text =>
    simp only [valid, Bool.and_eq_true, Bool.not_eq_true', List.isEmpty_eq_false_iff,
      List.all_eq_true] at h
    exact h

namespace Value

mutual

/-- A text of one line. -/
theorem text_no_newline : ∀ v : Value, v.valid = true → '\n' ∉ v.text
  | .null, _ => by decide
  | .bool true, _ => by decide
  | .bool false, _ => by decide
  | .number n, h => fun hc =>
    (isNumberChar_plain ((Number.text_chars (n := n) h).2 _ hc)).1 rfl
  | .string s, _ => renderString_no_newline s
  | .array [], _ => by decide
  | .array (v :: vs), h => by
    rw [valid, validItems, Bool.and_eq_true] at h
    have hv := text_no_newline v h.1
    have hvs := itemsText_no_newline vs h.2
    simp [text, hv, hvs]
  | .object [], _ => by decide
  | .object ((k, v) :: fs), h => by
    rw [valid, validFields, Bool.and_eq_true] at h
    have hk := renderString_no_newline k
    have hv := text_no_newline v h.1
    have hfs := fieldsText_no_newline fs h.2
    simp [text, hk, hv, hfs]

theorem itemsText_no_newline : ∀ vs, validItems vs = true → '\n' ∉ itemsText vs
  | [], _ => by decide
  | v :: vs, h => by
    rw [validItems, Bool.and_eq_true] at h
    have hv := text_no_newline v h.1
    have hvs := itemsText_no_newline vs h.2
    simp [itemsText, hv, hvs]

theorem fieldsText_no_newline : ∀ fs, validFields fs = true → '\n' ∉ fieldsText fs
  | [], _ => by decide
  | (k, v) :: fs, h => by
    rw [validFields, Bool.and_eq_true] at h
    have hk := renderString_no_newline k
    have hv := text_no_newline v h.1
    have hfs := fieldsText_no_newline fs h.2
    simp [fieldsText, hk, hv, hfs]

end

theorem itemsText_ends (vs : List Value) : ∃ front, itemsText vs = front ++ [']'] := by
  induction vs with
  | nil => exact ⟨[], rfl⟩
  | cons v vs ih =>
    obtain ⟨front, hfront⟩ := ih
    exact ⟨',' :: (v.text ++ front), by simp [itemsText, hfront]⟩

theorem fieldsText_ends (fs : List (String × Value)) : ∃ front, fieldsText fs = front ++ ['}'] := by
  induction fs with
  | nil => exact ⟨[], rfl⟩
  | cons f fs ih =>
    obtain ⟨front, hfront⟩ := ih
    obtain ⟨k, v⟩ := f
    exact ⟨',' :: (Json.renderString k ++ ':' :: (v.text ++ front)), by simp [fieldsText, hfront]⟩

/-- A text begins and ends with something that is not trimmed. -/
theorem text_ends (v : Value) (h : v.valid = true) :
    ∃ first back front last, v.text = first :: back ∧ v.text = front ++ [last] ∧
      Text.isWhitespace first = false ∧ Text.isWhitespace last = false := by
  cases v with
  | null => exact ⟨'n', ['u', 'l', 'l'], ['n', 'u', 'l'], 'l', rfl, rfl, by decide, by decide⟩
  | bool b =>
    cases b with
    | true => exact ⟨'t', ['r', 'u', 'e'], ['t', 'r', 'u'], 'e', rfl, rfl, by decide, by decide⟩
    | false =>
      exact ⟨'f', ['a', 'l', 's', 'e'], ['f', 'a', 'l', 's'], 'e', rfl, rfl, by decide, by decide⟩
  | number n =>
    obtain ⟨hne, hchars⟩ := Number.text_chars (n := n) h
    have hplain : ∀ c ∈ n.text, Text.isWhitespace c = false := fun c hc =>
      (isNumberChar_plain (hchars c hc)).2
    refine ⟨n.text.head hne, n.text.tail, n.text.dropLast, n.text.getLast hne,
      (List.cons_head_tail hne).symm, (List.dropLast_concat_getLast hne).symm,
      hplain _ (List.head_mem hne), hplain _ (List.getLast_mem hne)⟩
  | string s =>
    exact ⟨'"', _, '"' :: s.toList.flatMap Json.escape, '"', rfl, rfl, by decide, by decide⟩
  | array vs =>
    cases vs with
    | nil => exact ⟨'[', [']'], ['['], ']', rfl, rfl, by decide, by decide⟩
    | cons v vs =>
      obtain ⟨front, hfront⟩ := itemsText_ends vs
      exact ⟨'[', _, '[' :: (v.text ++ front), ']', rfl, by simp [text, hfront], by decide,
        by decide⟩
  | object fs =>
    cases fs with
    | nil => exact ⟨'{', ['}'], ['{'], '}', rfl, rfl, by decide, by decide⟩
    | cons f fs =>
      obtain ⟨k, v⟩ := f
      obtain ⟨front, hfront⟩ := fieldsText_ends fs
      exact ⟨'{', _, '{' :: (Json.renderString k ++ ':' :: (v.text ++ front)), '}', rfl,
        by simp [text, hfront], by decide, by decide⟩

theorem trim_text (v : Value) (h : v.valid = true) : Text.trim v.text = v.text := by
  obtain ⟨first, back, front, last, hfirst, hlast, hf, hl⟩ := text_ends v h
  exact Text.trim_of_ends hfirst hlast hf hl

theorem text_not_blank (v : Value) (h : v.valid = true) : Text.isBlank v.text = false := by
  obtain ⟨first, back, -, -, hfirst, -⟩ := text_ends v h
  rw [Text.isBlank, trim_text v h, hfirst]
  rfl

end Value

/-! ### The crates, computed -/

namespace Reference

mutual

/-- The value of a document; of a name that stands twice the last field counts. -/
def valueOf : Json → Value
  | .null => .null
  | .bool b => .bool b
  | .num n => .int n
  | .str s => .string s
  | .arr vs => .array (itemsOf vs)
  | .obj fs => .object (fieldsOf fs)

def itemsOf : List Json → List Value
  | [] => []
  | v :: vs => valueOf v :: itemsOf vs

def fieldsOf : List (String × Json) → List (String × Value)
  | [] => []
  | (k, v) :: fs =>
    if fs.any (fun f => decide (f.1 = k)) then fieldsOf fs else (k, valueOf v) :: fieldsOf fs

end

def contentBlock (v : Value) : Option ContentBlock := do
  let kind ← (v.get "type").bind Value.asStr
  if kind = "text" then
    let text ← (v.get "text").bind Value.asStr
    some (.text text)
  else some .other

def sessionUpdate (v : Value) : Option SessionUpdate := do
  let kind ← (v.get "sessionUpdate").bind Value.asStr
  if kind = "agent_message_chunk" then
    let content ← (v.get "content").bind contentBlock
    some (.agentMessageChunk content)
  else some .other

def permissionOption (v : Value) : Option PermissionOption := do
  let option_id ← (v.get "optionId").bind Value.asStr
  let kind ← (v.get "kind").bind Value.asStr
  some { option_id, kind }

/-- Of the looser forms that `serde` also decodes (a struct as an array) it takes none. -/
instance wire : WireCrates where
  fromStr text :=
    match Json.parse text.toList with
    | some document => .ok (valueOf document)
    | none => .error "expected value"
  sessionNotification params := do
    let session_id ← (params.get "sessionId").bind Value.asStr
    let update ← (params.get "update").bind sessionUpdate
    some { session_id, update }
  permissionOptions params :=
    match params.get "options" with
    | none => params.asObject.map fun _ => []
    | some (.array options) => options.mapM permissionOption
    | some _ => none

/-- The reader takes the text of a document for its value. -/
theorem fromStr_render (document : Json) {value : Value} (hvalue : valueOf document = value)
    (htext : value.text = document.render) :
    WireCrates.fromStr (String.ofList value.text) = .ok value := by
  show (match Json.parse (String.ofList value.text).toList with
    | some document => Except.ok (valueOf document)
    | none => .error "expected value") = _
  rw [String.toList_ofList, htext, Json.parse_render, ← hvalue]

end Reference

/-! ### Streams -/

namespace FrameReader

section

variable [WireCrates]

/-- The line of a value in front of everything else is that value. -/
theorem nextFrame_written {limit : Nat} {value : Value} (hvalid : value.valid = true)
    (hlimit : (Utf8.encode value.text).length ≤ limit)
    (hparse : WireCrates.fromStr (String.ofList value.text) = .ok value) (rest : Bytes) :
    nextFrame ⟨writeFrame value ++ rest, limit⟩ = (.ok (some value), ⟨rest, limit⟩) := by
  have hline : 10 ∉ Utf8.encode value.text := by
    intro h
    obtain ⟨c, hc, hnat⟩ := Utf8.ascii_of_mem h (by decide)
    have hnewline : c = '\n' := Char.toNat_inj.mp hnat
    exact value.text_no_newline hvalid (hnewline ▸ hc)
  have hutf8 : fromUtf8 (Utf8.encode value.text) = some (String.ofList value.text) :=
    Utf8.fromUTF8_encode value.text
  show scan limit [] (writeFrame value ++ rest) = _
  rw [writeFrame, List.append_assoc, scan_line [] hline, List.nil_append, List.singleton_append,
    scan, if_pos rfl, if_neg (Nat.not_lt.2 hlimit)]
  simp only [hutf8, String.toList_ofList, value.text_not_blank hvalid, value.trim_text hvalid,
    Bool.false_eq_true, if_false, readLine, hparse]

theorem drain_new (limit : Nat) :
    reader.drain ⟨[], limit⟩ = ([], .ok (⟨[], limit⟩ : FrameReader)) := by
  have h : scan limit [] [] = (.ok none, ⟨[], limit⟩) := scan_waiting (Nat.zero_le limit)
  exact Framing.Reader.drain_wait h

end

end FrameReader

/-- **The frames of a stream do not depend on how it is cut**: two ways of cutting it give the
same frames, the same first error and the same verdict at the end; no state holds more than the
limit and the chunk that came last; and the lines of written values are read as these values. -/
theorem framing_chunk_independent [WireCrates] (limit : Nat) :
    (∀ chunks chunks' : List Bytes, chunks.flatten = chunks'.flatten →
      FrameReader.readAll limit chunks = FrameReader.readAll limit chunks') ∧
    (∀ chunks : List Bytes, ∀ p ∈ FrameReader.reader.visited ⟨[], limit⟩ chunks,
      p.2.partialLine.length ≤ limit + p.1.length) ∧
    ∀ (values : List Value) (chunks : List Bytes),
      (∀ value ∈ values, value.valid = true ∧ (Utf8.encode value.text).length ≤ limit ∧
        WireCrates.fromStr (String.ofList value.text) = .ok value) →
      chunks.flatten = values.flatMap writeFrame →
      FrameReader.readAll limit chunks = (values, .ok (.ok ())) := by
  refine ⟨fun chunks chunks' h => ?_, fun chunks p hp => ?_, fun values chunks hvalues h => ?_⟩
  · rw [FrameReader.readAll, FrameReader.readAll,
      Framing.Reader.read_flatten (FrameReader.drain_new limit) h]
  · exact Framing.Reader.visited_size_le FrameReader.max_frame_bytes (fun _ _ => rfl)
      (fun r => (FrameReader.scan_leaves _ [] r.partialLine).2)
      (fun _ _ h => (FrameReader.nextFrame_wait h).1) (Nat.zero_le limit) chunks p hp
  · have hdrain := Framing.Reader.drain_written writeFrame
      (FrameReader.drain_new limit) values fun value hvalue rest => by
        obtain ⟨hvalid, hlimit, hparse⟩ := hvalues value hvalue
        exact FrameReader.nextFrame_written hvalid hlimit hparse rest
    rw [← h] at hdrain
    rw [FrameReader.readAll, Framing.Reader.read_eq_drain (FrameReader.drain_new limit), hdrain]
    rfl

/-- Two written values in three reads, cut inside the first value and behind the second. -/
theorem framing_chunk_independent_written :
    FrameReader.readAll 8 [Utf8.encode ['[', '1', ','], Utf8.encode ['2', ']', '\n', 'n', 'u'],
        Utf8.encode ['l', 'l', '\n']] =
      ([.array [.int 1, .int 2], .null], .ok (.ok ())) := by
  refine (framing_chunk_independent 8).2.2 [.array [.int 1, .int 2], .null] _ ?_ (by decide)
  intro value hvalue
  obtain rfl | rfl := by simpa using hvalue
  · exact ⟨by decide, by decide, by rfl⟩
  · exact ⟨by decide, by decide, by rfl⟩

end Acp

end GuiguBridge
