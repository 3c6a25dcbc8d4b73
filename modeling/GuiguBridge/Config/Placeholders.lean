import GuiguBridge.Lib.Template

/-!
# Environment placeholders

The strings of a configuration may refer to environment variables.  `substitute_string` resolves
the references of a string, and `check_placeholders_well_formed` scans the same string on its own,
before anything is resolved.

* `ConfigError` — the errors of loading;
* `checkPlaceholdersWellFormed`, `substituteString`, `isWholeEnvReference` — the two scans and the
  test for one reference;
* `envMarks` — **a string that both scans accept is a template of these marks**;
* `check_iff` — the check accepts exactly the templates;
* `substitute_template` — what the substitution makes of a template: **its literals with every
  reference replaced once**, or the first variable that is not set.
-/

namespace GuiguBridge

open Text

inductive ConfigError where
  | io (path source : String)
  | parse (path : String) (line col : Nat) (message : String)
  | envVarMissing (var field : String)
  | envVarMalformed (field snippet : String)
  | pathExpansion (field reason : String)
  | deserialize (message : String)
  | validation (field message : String)
  deriving DecidableEq

/-! ### The scans -/

/-- `PREFIX`. -/
def envPrefix : List Char := ['{', 'e', 'n', 'v', ':']

/-- `is_valid_env_var_name`. -/
def isValidEnvVarName : List Char → Bool
  | [] => false
  | c :: cs =>
    (c.isAlpha || c == '_') && cs.all fun c => c.isAlphanum || c == '_'

/-- The loop of `check_placeholders_well_formed`. -/
def checkPlaceholdersWellFormed (rest : List Char) (field : String) (redact_snippet : Bool) :
    Except ConfigError Unit :=
  match _hfind : findText envPrefix rest with
  | none => .ok ()
  | some (_, after_prefix) =>
    match _hclose : splitOnce '}' after_prefix with
    | some (var_name, behind) =>
      if isValidEnvVarName var_name then
        checkPlaceholdersWellFormed behind field redact_snippet
      else
        .error (.envVarMalformed field (if redact_snippet then "<redacted>"
          else String.ofList (envPrefix ++ (var_name ++ ['}']))))
    | none =>
      .error (.envVarMalformed field (if redact_snippet then "<redacted>"
        else String.ofList (envPrefix ++ after_prefix)))
termination_by rest.length
decreasing_by exact scan_length _hfind _hclose

/-- The loop of `substitute_string`. -/
def substituteLoop (lookup : String → Option String) (field : String) (result rest : List Char) :
    Except ConfigError (List Char) :=
  match _hfind : findText envPrefix rest with
  | none => .ok (result ++ rest)
  | some (before, after_prefix) =>
    match _hclose : splitOnce '}' after_prefix with
    | some (var_name, behind) =>
      if isValidEnvVarName var_name then
        match lookup (String.ofList var_name) with
        | some value => substituteLoop lookup field (result ++ before ++ value.toList) behind
        | none => .error (.envVarMissing (String.ofList var_name) field)
      else
        .error (.envVarMalformed field (String.ofList (envPrefix ++ (var_name ++ ['}']))))
    | none => .error (.envVarMalformed field (String.ofList (envPrefix ++ after_prefix)))
termination_by rest.length
decreasing_by exact scan_length _hfind _hclose

/-- `substitute_string`. -/
def substituteString (lookup : String → Option String) (s field : String) :
    Except ConfigError String :=
  (substituteLoop lookup field [] s.toList).map String.ofList

/-- `str::strip_suffix` of a character. -/
def stripLast (last : Char) (cs : List Char) : Option (List Char) :=
  if cs.getLast? = some last then some cs.dropLast else none

/-- `is_whole_env_reference`. -/
def isWholeEnvReference (s : List Char) : Bool :=
  isValidEnvVarName (((stripPrefix envPrefix s).bind (stripLast '}')).getD [])

/-! ### Templates -/

theorem not_name_char {c : Char} (h : c = '}' ∨ c = '{') :
    (c.isAlphanum || c == '_') = false := by
  rcases h with rfl | rfl <;> decide

/-- A name holds no brace. -/
theorem name_plain {name : List Char} (h : isValidEnvVarName name = true) {c : Char}
    (hc : c = '}' ∨ c = '{') : c ∉ name := by
  have hno := not_name_char hc
  rw [Bool.or_eq_false_iff] at hno
  obtain ⟨halnum, hunder⟩ := hno
  have halpha : c.isAlpha = false := by
    rw [Char.isAlphanum, Bool.or_eq_false_iff] at halnum
    exact halnum.1
  intro hmem
  cases name with
  | nil => cases hmem
  | cons a name =>
    rw [isValidEnvVarName, Bool.and_eq_true, List.all_eq_true] at h
    rcases List.mem_cons.mp hmem with rfl | hmem
    · rw [halpha, hunder] at h
      exact nomatch h.1
    · have hin := h.2 c hmem
      rw [halnum, hunder] at hin
      cases hin

/-- References to environment variables. -/
def envMarks : Marks where
  first := '{'
  tail := ['e', 'n', 'v', ':']
  fresh := by decide
  close := '}'
  isName := isValidEnvVarName
  closed := fun _ h => name_plain h (Or.inl rfl)

/-- A string with its references. -/
abbrev EnvTemplate := Template envMarks

/-- **The check accepts exactly the templates.** -/
theorem check_iff (s : List Char) (field : String) (redact_snippet : Bool) :
    checkPlaceholdersWellFormed s field redact_snippet = .ok () ↔
      ∃ t : EnvTemplate, t.text = s := by
  fun_induction checkPlaceholdersWellFormed s field redact_snippet with
  | case1 rest hfind => exact ⟨fun _ => Template.text_of_none hfind, fun _ => rfl⟩
  | case2 rest before after_prefix hfind var_name behind hclose hname ih =>
    rw [ih]
    constructor
    · rintro ⟨t, ht⟩
      exact ⟨_, Template.text_of_find (m := envMarks) hfind hclose hname t ht⟩
    · rintro ⟨t, rfl⟩
      obtain ⟨lit, name, rest, rfl, -, hscan⟩ := Template.find_cases (m := envMarks) hfind
      obtain ⟨-, hbehind⟩ := Prod.mk.inj (Option.some.inj (hclose.symm.trans hscan))
      exact ⟨rest, hbehind.symm⟩
  | case3 rest before after_prefix hfind var_name behind hclose hname =>
    refine iff_of_false (fun h => nomatch h) ?_
    rintro ⟨t, rfl⟩
    obtain ⟨lit, name, rest, rfl, -, hscan⟩ := Template.find_cases (m := envMarks) hfind
    obtain ⟨heq, -⟩ := Prod.mk.inj (Option.some.inj (hclose.symm.trans hscan))
    exact hname (heq ▸ name.valid)
  | case4 rest before after_prefix hfind hclose =>
    refine iff_of_false (fun h => nomatch h) ?_
    rintro ⟨t, rfl⟩
    obtain ⟨lit, name, rest, rfl, -, hscan⟩ := Template.find_cases (m := envMarks) hfind
    exact nomatch hclose.symm.trans hscan

/-! ### The substitution -/

/-- What the environment has for a name. -/
def valueOf (lookup : String → Option String) (name : List Char) : List Char :=
  ((lookup (String.ofList name)).getD "").toList

/-- Whether a variable is not set. -/
def unset (lookup : String → Option String) (name : List Char) : Bool :=
  (lookup (String.ofList name)).isNone

/-- **The substitution of a template**: the first variable that is not set, or its literals with
every reference replaced once. -/
theorem substitute_template (lookup : String → Option String) (field : String) (t : EnvTemplate)
    (result : List Char) :
    substituteLoop lookup field result t.text =
      match t.names.find? (unset lookup) with
      | some name => .error (.envVarMissing (String.ofList name) field)
      | none => .ok (result ++ t.fill (valueOf lookup)) := by
  induction t generalizing result with
  | last lit =>
    have hfind : findText envPrefix lit.chars = none := Template.find_last lit
    show substituteLoop lookup field result lit.chars = .ok (result ++ lit.chars)
    unfold substituteLoop
    split
    · rfl
    · rename_i hsome
      rw [hfind] at hsome
      cases hsome
  | ref lit name rest ih =>
    obtain ⟨hfind, hclose⟩ := Template.find_ref lit name rest
    have hnext : substituteLoop lookup field result (Template.ref lit name rest).text =
        match lookup (String.ofList name.chars) with
        | some value =>
          substituteLoop lookup field (result ++ lit.chars ++ value.toList) rest.text
        | none => .error (.envVarMissing (String.ofList name.chars) field) := by
      rw [substituteLoop]
      split
      · rename_i hnone
        exact nomatch hnone.symm.trans hfind
      · rename_i before after_prefix hsome
        obtain ⟨rfl, rfl⟩ := Prod.mk.inj (Option.some.inj (hsome.symm.trans hfind))
        split
        · rename_i var_name behind hscan
          obtain ⟨rfl, rfl⟩ := Prod.mk.inj (Option.some.inj (hscan.symm.trans hclose))
          exact if_pos name.valid
        · rename_i hnone
          exact nomatch hnone.symm.trans hclose
    rw [hnext]
    show _ = match (name.chars :: rest.names).find? (unset lookup) with
      | some name => Except.error (ConfigError.envVarMissing (String.ofList name) field)
      | none => Except.ok (result ++ (lit.chars ++ (valueOf lookup name.chars ++ rest.fill _)))
    cases hvalue : lookup (String.ofList name.chars) with
    | none =>
      have hunset : unset lookup name.chars = true := by
        unfold unset
        rw [hvalue]
        rfl
      rw [List.find?_cons_of_pos hunset]
    | some value =>
      have hset : ¬ unset lookup name.chars = true := by
        unfold unset
        rw [hvalue]
        exact fun h => nomatch h
      have hfill : valueOf lookup name.chars = value.toList := by
        unfold valueOf
        rw [hvalue]
        rfl
      rw [List.find?_cons_of_neg hset, hfill]
      dsimp only
      rw [ih]
      simp only [List.append_assoc]

/-- What is not a template is refused. -/
theorem template_of_substitute {lookup : String → Option String} {field : String}
    {result rest r : List Char} (h : substituteLoop lookup field result rest = .ok r) :
    ∃ t : EnvTemplate, t.text = rest := by
  fun_induction substituteLoop lookup field result rest with
  | case1 result rest hfind => exact Template.text_of_none hfind
  | case2 result rest before after_prefix hfind var_name behind hclose hname value hvalue ih =>
    obtain ⟨t, ht⟩ := ih h
    exact ⟨_, Template.text_of_find (m := envMarks) hfind hclose hname t ht⟩
  | _ => cases h

/-! ### Both scans together -/

/-- The substitution succeeds on the templates whose variables are set, and on nothing else. -/
theorem substitute_ok_iff (lookup : String → Option String) (s field : String) :
    (∃ r, substituteString lookup s field = .ok r) ↔
      ∃ t : EnvTemplate, t.text = s.toList ∧
        ∀ name ∈ t.names, (lookup (String.ofList name)).isSome = true := by
  unfold substituteString
  constructor
  · rintro ⟨r, hr⟩
    cases hloop : substituteLoop lookup field [] s.toList with
    | error e =>
      rw [hloop] at hr
      cases hr
    | ok out =>
      obtain ⟨t, ht⟩ := template_of_substitute hloop
      refine ⟨t, ht, ?_⟩
      rw [← ht, substitute_template] at hloop
      intro name hname
      by_contra hnone
      cases hfind : t.names.find? (unset lookup) with
      | none =>
        have hset := List.find?_eq_none.mp hfind name hname
        unfold unset at hset
        rw [Bool.not_eq_true, Option.isSome_eq_false_iff] at hnone
        exact hset hnone
      | some first =>
        rw [hfind] at hloop
        cases hloop
  · rintro ⟨t, ht, hset⟩
    have hnone : t.names.find? (unset lookup) = none := by
      rw [List.find?_eq_none]
      intro name hname hunset
      have hsome := hset name hname
      unfold unset at hunset
      rw [Option.isNone_iff_eq_none] at hunset
      rw [hunset] at hsome
      cases hsome
    rw [← ht, substitute_template, hnone]
    exact ⟨_, rfl⟩

/-- What a substitution returns. -/
theorem substitute_value {lookup : String → Option String} {s field r : String}
    (h : substituteString lookup s field = .ok r) {t : EnvTemplate} (ht : t.text = s.toList) :
    r = String.ofList (t.fill (valueOf lookup)) := by
  unfold substituteString at h
  rw [← ht, substitute_template] at h
  split at h
  · cases h
  · exact (Except.ok.inj h).symm

/-! ### One reference -/

theorem stripLast_eq_some {last : Char} {cs front : List Char} :
    stripLast last cs = some front ↔ cs = front ++ [last] := by
  unfold stripLast
  constructor
  · intro h
    split at h
    · rename_i hlast
      obtain ⟨front', rfl⟩ := List.getLast?_eq_some_iff.mp hlast
      rw [List.dropLast_concat] at h
      rw [Option.some.inj h]
    · cases h
  · rintro rfl
    rw [List.getLast?_concat, if_pos rfl, List.dropLast_concat]

/-- The text `{env:NAME}`. -/
def reference (name : List Char) : List Char := envPrefix ++ (name ++ ['}'])

theorem isWholeEnvReference_iff (s : List Char) :
    isWholeEnvReference s = true ↔ ∃ name, isValidEnvVarName name = true ∧ s = reference name := by
  unfold isWholeEnvReference
  constructor
  · intro h
    cases hinner : (stripPrefix envPrefix s).bind (stripLast '}') with
    | none =>
      rw [hinner] at h
      cases h
    | some name =>
      rw [hinner] at h
      refine ⟨name, h, ?_⟩
      obtain ⟨rest, hrest, hlast⟩ := Option.bind_eq_some_iff.mp hinner
      unfold stripPrefix at hrest
      split at hrest
      · rename_i hbegins
        obtain ⟨tail, rfl⟩ := List.isPrefixOf_iff_prefix.mp hbegins
        rw [List.drop_left] at hrest
        rw [Option.some.inj hrest, stripLast_eq_some.1 hlast]
        rfl
      · cases hrest
  · rintro ⟨name, hname, rfl⟩
    have hstrip : stripPrefix envPrefix (reference name) = some (name ++ ['}']) := by
      unfold stripPrefix reference
      rw [if_pos (List.isPrefixOf_iff_prefix.mpr (List.prefix_append _ _)), List.drop_left]
    rw [hstrip]
    show isValidEnvVarName ((stripLast '}' (name ++ ['}'])).getD []) = true
    rw [stripLast_eq_some.2 rfl]
    exact hname

/-- The template that is one reference. -/
def referenceTemplate (name : Name envMarks) : EnvTemplate :=
  .ref ⟨[], by decide⟩ name (.last ⟨[], by decide⟩)

/-- **One reference becomes the value of its variable.** -/
theorem substitute_reference {lookup : String → Option String} {name : List Char}
    {s field r : String} (hname : isValidEnvVarName name = true) (hs : s.toList = reference name)
    (h : substituteString lookup s field = .ok r) : lookup (String.ofList name) = some r := by
  have htext : (referenceTemplate ⟨name, hname⟩).text = s.toList := hs.symm
  obtain ⟨t, ht, hset⟩ := (substitute_ok_iff lookup s field).mp ⟨r, h⟩
  rw [Template.text_injective (ht.trans htext.symm)] at hset
  obtain ⟨value, hvalue⟩ := Option.isSome_iff_exists.mp (hset name List.mem_cons_self)
  have hr : r = String.ofList ([] ++ (valueOf lookup name ++ [])) := substitute_value h htext
  unfold valueOf at hr
  rw [hvalue, List.nil_append, List.append_nil] at hr
  rw [hvalue, hr, Option.getD_some, String.ofList_toList]

end GuiguBridge
