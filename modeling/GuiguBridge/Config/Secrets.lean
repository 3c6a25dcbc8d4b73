import GuiguBridge.Config.Placeholders

/-!
# Secrets come by reference

The document of a configuration before it is given its types.  `enforce_secret_references` looks at
the secrets while their text is still the one that was written; `substitute_in_value` then resolves
every string of the document.

* `Toml.Value` — a document; a table has its entries in the order in which they are visited;
* `enforceSecretReferences`, `substituteInValue` — the two passes;
* `substitute_get`, `substitute_entry` — what the second pass leaves was at the same place before;
* `SecretField`, `errorClass` — the two kinds of secrets, and the errors their texts may give;
* `secrets_by_reference` — **exact substitution, secrets that are the value of one variable, and
  errors that do not tell the secret**.
-/

namespace GuiguBridge

open Text

namespace Toml

/-- `toml::Value`. -/
inductive Value where
  | string (s : String)
  | integer (i : Int)
  | float (bits : UInt64)
  | boolean (b : Bool)
  | datetime (text : String)
  | array (items : List Value)
  | table (entries : List (String × Value))

namespace Value

/-- `Value::get` of a key. -/
def get (key : String) : Value → Option Value
  | .table entries => (entries.find? fun e => e.1 = key).map Prod.snd
  | _ => none

/-- `Value::as_str`. -/
def asStr : Value → Option String
  | .string s => some s
  | _ => none

/-- `Value::as_table`. -/
def asTable : Value → Option (List (String × Value))
  | .table entries => some entries
  | _ => none

end Value

end Toml

open Toml

/-! ### The two passes -/

/-- The message of a secret that is not a reference. -/
def wholeValueMessage : String :=
  "must be a whole-value \x7benv:VAR\x7d reference; literal or embedded credentials are not allowed"

/-- What both kinds of secrets are held to: well-formed placeholders, and one whole reference. -/
def requireReference (token field : String) : Except ConfigError Unit := do
  checkPlaceholdersWellFormed token.toList field true
  if isWholeEnvReference token.toList then .ok ()
  else .error (.validation field wholeValueMessage)

/-- `value.get("transports")?.get("matrix")?.get("access_token")?.as_str()`. -/
def matrixToken (value : Value) : Option String :=
  (((value.get "transports").bind (Value.get "matrix")).bind (Value.get "access_token")).bind
    Value.asStr

/-- `value.get("transports")?.get("a2a")?.get("peers")?.as_table()`. -/
def a2aPeers (value : Value) : Option (List (String × Value)) :=
  (((value.get "transports").bind (Value.get "a2a")).bind (Value.get "peers")).bind Value.asTable

/-- `fields.get("token").and_then(as_str)`. -/
def peerToken (fields : Value) : Option String := (fields.get "token").bind Value.asStr

def matrixField : String := "transports.matrix.access_token"

def peerField (peer : String) : String := "transports.a2a.peers." ++ peer ++ ".token"

/-- The first half of `enforce_secret_references`. -/
def enforceMatrixToken : Option String → Except ConfigError Unit
  | none => .ok ()
  | some token => if token.isEmpty then .ok () else requireReference token matrixField

/-- The loop of `enforce_secret_references`. -/
def enforcePeerTokens : List (String × Value) → Except ConfigError Unit
  | [] => .ok ()
  | (peer, fields) :: peers =>
    match peerToken fields with
    | none => enforcePeerTokens peers
    | some token => do
      requireReference token (peerField peer)
      enforcePeerTokens peers

/-- `enforce_secret_references`. -/
def enforceSecretReferences (value : Value) : Except ConfigError Unit := do
  enforceMatrixToken (matrixToken value)
  enforcePeerTokens ((a2aPeers value).getD [])

/-- `item_path` of a table. -/
def itemPath (path key : String) : String := if path.isEmpty then key else path ++ "." ++ key

variable (lookup : String → Option String)

mutual

/-- `substitute_in_value`. -/
def substituteInValue (path : String) : Value → Except ConfigError Value
  | .string s => (substituteString lookup s path).map .string
  | .array items => (substituteItems path 0 items).map .array
  | .table entries => (substituteEntries path entries).map .table
  | .integer i => .ok (.integer i)
  | .float bits => .ok (.float bits)
  | .boolean b => .ok (.boolean b)
  | .datetime text => .ok (.datetime text)

def substituteItems (path : String) (i : Nat) : List Value → Except ConfigError (List Value)
  | [] => .ok []
  | item :: items => do
    let item ← substituteInValue (path ++ "[" ++ toString i ++ "]") item
    let items ← substituteItems path (i + 1) items
    return item :: items

def substituteEntries (path : String) :
    List (String × Value) → Except ConfigError (List (String × Value))
  | [] => .ok []
  | (key, item) :: entries => do
    let item ← substituteInValue (itemPath path key) item
    let entries ← substituteEntries path entries
    return (key, item) :: entries

end

/-! ### Places in a document -/

variable {lookup : String → Option String}

theorem except_bind_ok {ε α β : Type} {x : Except ε α} {f : α → Except ε β} {b : β}
    (h : (x >>= f) = .ok b) : ∃ a, x = .ok a ∧ f a = .ok b := by
  cases x with
  | error e => cases h
  | ok a => exact ⟨a, rfl, h⟩

theorem except_map_ok {ε α β : Type} {x : Except ε α} {f : α → β} {b : β}
    (h : x.map f = .ok b) : ∃ a, x = .ok a ∧ f a = b := by
  cases x with
  | error e => cases h
  | ok a => exact ⟨a, rfl, Except.ok.inj h⟩

/-- The string that a string was. -/
theorem substitute_string {path : String} {v v' : Value} {s' : String}
    (h : substituteInValue lookup path v = .ok v') (hs : v'.asStr = some s') :
    ∃ s, v.asStr = some s ∧ substituteString lookup s path = .ok s' := by
  cases v with
  | string s =>
    obtain ⟨r, hr, rfl⟩ := except_map_ok h
    exact ⟨s, rfl, hr.trans (congrArg _ (Option.some.inj hs))⟩
  | array items =>
    obtain ⟨r, -, rfl⟩ := except_map_ok h
    cases hs
  | table entries =>
    obtain ⟨r, -, rfl⟩ := except_map_ok h
    cases hs
  | _ =>
    cases h
    cases hs

/-- The table that a table was. -/
theorem substitute_table {path : String} {v v' : Value} {entries' : List (String × Value)}
    (h : substituteInValue lookup path v = .ok v') (ht : v'.asTable = some entries') :
    ∃ entries, v.asTable = some entries ∧
      substituteEntries lookup path entries = .ok entries' := by
  cases v with
  | string s =>
    obtain ⟨r, -, rfl⟩ := except_map_ok h
    cases ht
  | array items =>
    obtain ⟨r, -, rfl⟩ := except_map_ok h
    cases ht
  | table entries =>
    obtain ⟨r, hr, rfl⟩ := except_map_ok h
    exact ⟨entries, rfl, hr.trans (congrArg _ (Option.some.inj ht))⟩
  | _ =>
    cases h
    cases ht

theorem substituteEntries_cons {path key : String} {item : Value}
    {entries entries' : List (String × Value)}
    (h : substituteEntries lookup path ((key, item) :: entries) = .ok entries') :
    ∃ path' item' rest', substituteInValue lookup path' item = .ok item' ∧
      substituteEntries lookup path entries = .ok rest' ∧ entries' = (key, item') :: rest' := by
  rw [substituteEntries] at h
  obtain ⟨item', hitem, h⟩ := except_bind_ok h
  obtain ⟨rest', hrest, h⟩ := except_bind_ok h
  exact ⟨_, item', rest', hitem, hrest, (Except.ok.inj h).symm⟩

/-- **Every entry of a substituted table was an entry before.** -/
theorem substitute_entry {path : String} {entries entries' : List (String × Value)}
    (h : substituteEntries lookup path entries = .ok entries') {key : String} {item' : Value}
    (hmem : (key, item') ∈ entries') :
    ∃ path' item, (key, item) ∈ entries ∧ substituteInValue lookup path' item = .ok item' := by
  induction entries generalizing entries' with
  | nil =>
    cases h
    cases hmem
  | cons e entries ih =>
    obtain ⟨k, item⟩ := e
    obtain ⟨path', item₁, rest', hitem, hrest, rfl⟩ := substituteEntries_cons h
    rcases List.mem_cons.mp hmem with heq | hmem
    · obtain ⟨rfl, rfl⟩ := Prod.mk.inj heq
      exact ⟨path', item, List.mem_cons_self, hitem⟩
    · obtain ⟨path', item, hin, hsub⟩ := ih hrest hmem
      exact ⟨path', item, List.mem_cons_of_mem _ hin, hsub⟩

theorem substitute_find {path key : String} {entries entries' : List (String × Value)}
    (h : substituteEntries lookup path entries = .ok entries') {w' : Value}
    (hfind : (entries'.find? fun e => e.1 = key).map Prod.snd = some w') :
    ∃ path' w, (entries.find? fun e => e.1 = key).map Prod.snd = some w ∧
      substituteInValue lookup path' w = .ok w' := by
  induction entries generalizing entries' with
  | nil =>
    cases h
    cases hfind
  | cons e entries ih =>
    obtain ⟨k, item⟩ := e
    obtain ⟨path', item₁, rest', hitem, hrest, rfl⟩ := substituteEntries_cons h
    by_cases hk : k = key
    · rw [List.find?_cons_of_pos (by simpa using hk)] at hfind
      refine ⟨path', item, ?_, hitem.trans (congrArg _ (Option.some.inj hfind))⟩
      rw [List.find?_cons_of_pos (by simpa using hk)]
      rfl
    · rw [List.find?_cons_of_neg (by simpa using hk)] at hfind
      obtain ⟨path', w, hw, hsub⟩ := ih hrest hfind
      refine ⟨path', w, ?_, hsub⟩
      rw [List.find?_cons_of_neg (by simpa using hk)]
      exact hw

/-- **What stands under a key of a substituted document stood there before.** -/
theorem substitute_get {path key : String} {v v' w' : Value}
    (h : substituteInValue lookup path v = .ok v') (hget : v'.get key = some w') :
    ∃ path' w, v.get key = some w ∧ substituteInValue lookup path' w = .ok w' := by
  cases v' with
  | table entries' =>
    obtain ⟨entries, hentries, hsub⟩ := substitute_table h rfl
    cases v with
    | table _ =>
      cases hentries
      exact substitute_find hsub hget
    | _ => cases hentries
  | _ => cases hget

/-! ### Where the secrets come from -/

/-- A text is the value of the one variable that `token` refers to. -/
def ValueOfReference (lookup : String → Option String) (token text : String) : Prop :=
  ∃ name, isValidEnvVarName name = true ∧ token.toList = reference name ∧
    lookup (String.ofList name) = some text

theorem requireReference_ok {token field : String} (h : requireReference token field = .ok ()) :
    isWholeEnvReference token.toList = true := by
  unfold requireReference at h
  obtain ⟨-, -, h⟩ := except_bind_ok h
  split at h
  · assumption
  · cases h

/-- A whole reference becomes the value of its variable. -/
theorem value_of_reference {path token text : String}
    (hwhole : isWholeEnvReference token.toList = true)
    (h : substituteString lookup token path = .ok text) : ValueOfReference lookup token text := by
  obtain ⟨name, hname, htext⟩ := (isWholeEnvReference_iff _).mp hwhole
  exact ⟨name, hname, htext, substitute_reference hname htext h⟩

theorem matrix_token_source {v v' : Value} {path text : String}
    (hok : enforceMatrixToken (matrixToken v) = .ok ())
    (h : substituteInValue lookup path v = .ok v') (htext : matrixToken v' = some text) :
    text = "" ∨ ∃ token, matrixToken v = some token ∧ ValueOfReference lookup token text := by
  unfold matrixToken at htext
  simp only [Option.bind_eq_some_iff] at htext
  obtain ⟨w₃, ⟨w₂, ⟨w₁, h₁, h₂⟩, h₃⟩, hstr⟩ := htext
  obtain ⟨_, u₁, hu₁, hsub₁⟩ := substitute_get h h₁
  obtain ⟨_, u₂, hu₂, hsub₂⟩ := substitute_get hsub₁ h₂
  obtain ⟨_, u₃, hu₃, hsub₃⟩ := substitute_get hsub₂ h₃
  obtain ⟨token, htoken, hsub⟩ := substitute_string hsub₃ hstr
  have hmatrix : matrixToken v = some token := by
    unfold matrixToken
    simp only [Option.bind_eq_some_iff]
    exact ⟨u₃, ⟨u₂, ⟨u₁, hu₁, hu₂⟩, hu₃⟩, htoken⟩
  rw [hmatrix] at hok
  unfold enforceMatrixToken at hok
  dsimp only at hok
  split at hok
  · rename_i hempty
    have hnil : token = "" := String.isEmpty_iff.mp hempty
    rw [hnil] at hsub
    exact Or.inl (substitute_value (t := .last ⟨[], by decide⟩) hsub rfl)
  · exact Or.inr ⟨token, hmatrix, value_of_reference (requireReference_ok hok) hsub⟩

theorem enforcePeerTokens_ok {peers : List (String × Value)} (h : enforcePeerTokens peers = .ok ())
    {peer : String} {fields : Value} (hmem : (peer, fields) ∈ peers) {token : String}
    (htoken : peerToken fields = some token) : isWholeEnvReference token.toList = true := by
  induction peers with
  | nil => cases hmem
  | cons e peers ih =>
    obtain ⟨p, f⟩ := e
    rw [enforcePeerTokens] at h
    rcases List.mem_cons.mp hmem with heq | hmem
    · obtain ⟨rfl, rfl⟩ := Prod.mk.inj heq
      rw [htoken] at h
      obtain ⟨⟨⟩, hfirst, -⟩ := except_bind_ok h
      exact requireReference_ok hfirst
    · refine ih ?_ hmem
      cases hfirst : peerToken f with
      | none =>
        rw [hfirst] at h
        exact h
      | some first =>
        rw [hfirst] at h
        obtain ⟨-, -, hrest⟩ := except_bind_ok h
        exact hrest

theorem peer_token_source {v v' : Value} {path : String} {peers' : List (String × Value)}
    (hok : enforcePeerTokens ((a2aPeers v).getD []) = .ok ())
    (h : substituteInValue lookup path v = .ok v') (hpeers : a2aPeers v' = some peers')
    {peer text : String} {fields' : Value} (hmem : (peer, fields') ∈ peers')
    (htext : peerToken fields' = some text) :
    ∃ peers fields token, a2aPeers v = some peers ∧ (peer, fields) ∈ peers ∧
      peerToken fields = some token ∧ ValueOfReference lookup token text := by
  unfold a2aPeers at hpeers
  simp only [Option.bind_eq_some_iff] at hpeers
  obtain ⟨w₃, ⟨w₂, ⟨w₁, h₁, h₂⟩, h₃⟩, htable⟩ := hpeers
  obtain ⟨_, u₁, hu₁, hsub₁⟩ := substitute_get h h₁
  obtain ⟨_, u₂, hu₂, hsub₂⟩ := substitute_get hsub₁ h₂
  obtain ⟨_, u₃, hu₃, hsub₃⟩ := substitute_get hsub₂ h₃
  obtain ⟨peers, hpeers, hsub⟩ := substitute_table hsub₃ htable
  obtain ⟨_, fields, hin, hfields⟩ := substitute_entry hsub hmem
  obtain ⟨w, hw, hstr⟩ := Option.bind_eq_some_iff.mp htext
  obtain ⟨_, u, hu, hsubToken⟩ := substitute_get hfields hw
  obtain ⟨token, htoken, hsubText⟩ := substitute_string hsubToken hstr
  have ha2a : a2aPeers v = some peers := by
    unfold a2aPeers
    simp only [Option.bind_eq_some_iff]
    exact ⟨u₃, ⟨u₂, ⟨u₁, hu₁, hu₂⟩, hu₃⟩, hpeers⟩
  have hpeer : peerToken fields = some token := Option.bind_eq_some_iff.mpr ⟨u, hu, htoken⟩
  rw [ha2a] at hok
  exact ⟨peers, fields, token, ha2a, hin, hpeer,
    value_of_reference (enforcePeerTokens_ok hok hin hpeer) hsubText⟩

/-! ### What an error tells -/

/-- The two kinds of secrets. -/
inductive SecretField where
  | accessToken
  | peerToken (peer : String)
  deriving DecidableEq

/-- Where a secret stands. -/
def SecretField.path : SecretField → List String
  | accessToken => ["transports", "matrix", "access_token"]
  | peerToken peer => ["transports", "a2a", "peers", peer, "token"]

/-- The errors that the text of a secret may give. -/
inductive ErrorClass where
  | malformed
  | notReference
  deriving DecidableEq

/-- Which of them a text gives. -/
def tokenClass (token : String) : Option ErrorClass :=
  if checkPlaceholdersWellFormed token.toList "" true ≠ .ok () then some .malformed
  else if isWholeEnvReference token.toList then none
  else some .notReference

/-- Which of them a secret gives; the Matrix token may be empty. -/
def SecretField.errorClass : SecretField → String → Option ErrorClass
  | accessToken, token => if token.isEmpty then none else tokenClass token
  | peerToken _, token => tokenClass token

/-- The first entry under a key, changed. -/
def updateEntry (key : String) (f : Value → Value) :
    List (String × Value) → List (String × Value)
  | [] => []
  | (k, item) :: entries =>
    if k = key then (k, f item) :: entries else (k, item) :: updateEntry key f entries

/-- The string at a path, rewritten. -/
def setText (text : String) : List String → Value → Value
  | [], .string _ => .string text
  | key :: path, .table entries => .table (updateEntry key (setText text path) entries)
  | _, v => v

/-- The string at a path. -/
def textAt : List String → Value → Option String
  | [], v => v.asStr
  | key :: path, v => (v.get key).bind (textAt path)

theorem find_updateEntry (key : String) (f : Value → Value) (entries : List (String × Value)) :
    ((updateEntry key f entries).find? fun e => e.1 = key).map Prod.snd =
      ((entries.find? fun e => e.1 = key).map Prod.snd).map f := by
  induction entries with
  | nil => rfl
  | cons e entries ih =>
    obtain ⟨k, item⟩ := e
    rw [updateEntry]
    by_cases hk : k = key
    · simp [hk]
    · simp [hk, ih]

theorem find_updateEntry_of_ne {key key' : String} (h : key' ≠ key) (f : Value → Value)
    (entries : List (String × Value)) :
    ((updateEntry key f entries).find? fun e => e.1 = key').map Prod.snd =
      (entries.find? fun e => e.1 = key').map Prod.snd := by
  induction entries with
  | nil => rfl
  | cons e entries ih =>
    obtain ⟨k, item⟩ := e
    rw [updateEntry]
    by_cases hk : k = key
    · have hne : ¬ key = key' := fun heq => h heq.symm
      simp [hk, hne]
    · by_cases hk' : k = key'
      · simp [hk', h]
      · simp [hk, hk', ih]

/-- Under the key, the rewritten value. -/
theorem get_setText (text key : String) (path : List String) (v : Value) :
    (setText text (key :: path) v).get key = (v.get key).map (setText text path) := by
  cases v with
  | table entries => exact find_updateEntry key _ entries
  | _ => rfl

/-- Under another key, what was there. -/
theorem get_setText_of_ne {text key key' : String} (path : List String) (h : key' ≠ key)
    (v : Value) : (setText text (key :: path) v).get key' = v.get key' := by
  cases v with
  | table entries => exact find_updateEntry_of_ne h _ entries
  | _ => rfl

/-- A redacted check has one error. -/
theorem check_redacted (s : List Char) (field : String) :
    checkPlaceholdersWellFormed s field true = .ok () ∨
      checkPlaceholdersWellFormed s field true = .error (.envVarMalformed field "<redacted>") := by
  generalize hredact : true = redact
  fun_induction checkPlaceholdersWellFormed s field redact with
  | case1 => exact Or.inl rfl
  | case2 _ _ _ _ _ _ _ _ ih => exact ih
  | case3 =>
    rw [← hredact]
    exact Or.inr rfl
  | case4 =>
    rw [← hredact]
    exact Or.inr rfl

/-- What a class of texts gives. -/
def verdict (field : String) : Option ErrorClass → Except ConfigError Unit
  | none => .ok ()
  | some .malformed => .error (.envVarMalformed field "<redacted>")
  | some .notReference => .error (.validation field wholeValueMessage)

/-- Whether the check accepts does not depend on the field that it names. -/
theorem check_field (s : List Char) (field field' : String) :
    checkPlaceholdersWellFormed s field true = .ok () ↔
      checkPlaceholdersWellFormed s field' true = .ok () :=
  (check_iff s field true).trans (check_iff s field' true).symm

/-- **An error tells the class of the text alone.** -/
theorem requireReference_eq (token field : String) :
    requireReference token field = verdict field (tokenClass token) := by
  unfold requireReference tokenClass
  by_cases hok : checkPlaceholdersWellFormed token.toList "" true = .ok ()
  · rw [if_neg (not_not_intro hok), (check_field token.toList field "").mpr hok]
    show (if isWholeEnvReference token.toList = true then _ else _) = _
    split
    · rfl
    · rfl
  · rw [if_pos hok, (check_redacted token.toList field).resolve_left
      fun h => hok ((check_field token.toList field "").mp h)]
    rfl

theorem enforceMatrixToken_eq (token : String) :
    enforceMatrixToken (some token) =
      verdict matrixField (SecretField.accessToken.errorClass token) := by
  show (if token.isEmpty then _ else _) = verdict matrixField (if token.isEmpty then _ else _)
  split
  · rfl
  · exact requireReference_eq token matrixField

theorem enforcePeerTokens_cons (peer : String) (fields : Value) (peers : List (String × Value))
    {token : String} (h : peerToken fields = some token) :
    enforcePeerTokens ((peer, fields) :: peers) =
      verdict (peerField peer) ((SecretField.peerToken peer).errorClass token) >>= fun _ =>
        enforcePeerTokens peers := by
  rw [enforcePeerTokens, h]
  exact congrArg (· >>= fun _ => enforcePeerTokens peers) (requireReference_eq token _)

theorem asStr_setText {text : String} {v : Value} {s : String} (h : v.asStr = some s) :
    (setText text [] v).asStr = some text := by
  cases v with
  | string _ => rfl
  | _ => cases h

theorem asTable_setText (text key : String) (path : List String) (v : Value) :
    (setText text (key :: path) v).asTable =
      v.asTable.map (updateEntry key (setText text path)) := by
  cases v <;> rfl

theorem peerToken_setText (text : String) {s : String} {fields : Value}
    (h : textAt ["token"] fields = some s) :
    peerToken fields = some s ∧ peerToken (setText text ["token"] fields) = some text := by
  obtain ⟨w, hw, hstr⟩ := Option.bind_eq_some_iff.mp h
  constructor
  · exact Option.bind_eq_some_iff.mpr ⟨w, hw, hstr⟩
  · unfold peerToken
    rw [get_setText, hw]
    exact asStr_setText hstr

/-- The loop does not tell two texts of one class apart. -/
theorem enforcePeerTokens_setText {peer s text : String} {peers : List (String × Value)}
    {fields : Value} (hfind : (peers.find? fun e => e.1 = peer).map Prod.snd = some fields)
    (htext : textAt ["token"] fields = some s)
    (hclass : (SecretField.peerToken peer).errorClass s =
      (SecretField.peerToken peer).errorClass text) :
    enforcePeerTokens (updateEntry peer (setText text ["token"]) peers) =
      enforcePeerTokens peers := by
  induction peers with
  | nil => rfl
  | cons e peers ih =>
    obtain ⟨k, item⟩ := e
    rw [updateEntry]
    by_cases hk : k = peer
    · rw [List.find?_cons_of_pos (by simpa using hk)] at hfind
      have hitem : item = fields := Option.some.inj hfind
      obtain ⟨hold, hnew⟩ := peerToken_setText text htext
      rw [if_pos hk, hitem, hk, enforcePeerTokens_cons peer _ peers hold,
        enforcePeerTokens_cons peer _ peers hnew, hclass]
    · rw [List.find?_cons_of_neg (by simpa using hk)] at hfind
      rw [if_neg hk, enforcePeerTokens, enforcePeerTokens, ih hfind]

/-- **Two documents that differ in the text of one secret, within one class of errors, get the same
answer.** -/
theorem enforce_setText {v : Value} {field : SecretField} {s text : String}
    (htext : textAt field.path v = some s) (hclass : field.errorClass s = field.errorClass text) :
    enforceSecretReferences (setText text field.path v) = enforceSecretReferences v := by
  obtain ⟨w₁, h₁, htext₁⟩ := Option.bind_eq_some_iff.mp (show
    (v.get "transports").bind (textAt (field.path.drop 1)) = some s by cases field <;> exact htext)
  cases field with
  | accessToken =>
    obtain ⟨w₂, h₂, htext₂⟩ := Option.bind_eq_some_iff.mp htext₁
    obtain ⟨w₃, h₃, hstr⟩ := Option.bind_eq_some_iff.mp htext₂
    have hold : matrixToken v = some s := by
      unfold matrixToken
      rw [h₁, Option.bind_some, h₂, Option.bind_some, h₃]
      exact hstr
    have hnew : matrixToken (setText text SecretField.accessToken.path v) = some text := by
      unfold matrixToken SecretField.path
      rw [get_setText, h₁, Option.map_some, Option.bind_some, get_setText, h₂, Option.map_some,
        Option.bind_some, get_setText, h₃]
      exact asStr_setText hstr
    have hpeers : a2aPeers (setText text SecretField.accessToken.path v) = a2aPeers v := by
      unfold a2aPeers SecretField.path
      rw [get_setText, h₁, Option.map_some, Option.bind_some,
        get_setText_of_ne _ (by decide), Option.bind_some]
    unfold enforceSecretReferences
    rw [hold, hnew, hpeers, enforceMatrixToken_eq, enforceMatrixToken_eq, hclass]
  | peerToken peer =>
    obtain ⟨w₂, h₂, htext₂⟩ := Option.bind_eq_some_iff.mp htext₁
    obtain ⟨w₃, h₃, htext₃⟩ := Option.bind_eq_some_iff.mp htext₂
    obtain ⟨fields, hfields, hlast⟩ := Option.bind_eq_some_iff.mp htext₃
    have hmatrix : matrixToken (setText text (SecretField.peerToken peer).path v) =
        matrixToken v := by
      unfold matrixToken SecretField.path
      rw [get_setText, h₁, Option.map_some, Option.bind_some,
        get_setText_of_ne _ (by decide), Option.bind_some]
    have hpeers : a2aPeers (setText text (SecretField.peerToken peer).path v) =
        (a2aPeers v).map (updateEntry peer (setText text ["token"])) := by
      unfold a2aPeers SecretField.path
      rw [get_setText, h₁, Option.map_some, Option.bind_some, get_setText, Option.bind_some, h₂,
        Option.map_some, Option.bind_some, get_setText, Option.bind_some, h₃]
      exact asTable_setText text peer ["token"] w₃
    have hold : a2aPeers v = w₃.asTable := by
      unfold a2aPeers
      rw [h₁, Option.bind_some, h₂, Option.bind_some, h₃]
      rfl
    unfold enforceSecretReferences
    rw [hmatrix, hpeers, hold]
    cases w₃ with
    | table peers =>
      show (_ >>= fun _ => enforcePeerTokens (updateEntry peer _ peers)) = _
      rw [enforcePeerTokens_setText hfields hlast hclass]
      rfl
    | _ => cases hfields

/-! ### The three together -/

/-- **Substitution is exact, and secrets come by reference.**  A string is substituted exactly when
the check accepts it and its variables are set, and the result is its literals with each reference
replaced once.  Of a document that passes, each secret is empty or the value of one variable, as
its text said.  The answer of the check does not tell apart two texts of a secret in one class. -/
theorem secrets_by_reference (lookup : String → Option String) :
    (∀ s field,
      (∀ redact, checkPlaceholdersWellFormed s.toList field redact = .ok () ↔
        ∃ t : EnvTemplate, t.text = s.toList) ∧
      ((∃ r, substituteString lookup s field = .ok r) ↔
        (∀ redact, checkPlaceholdersWellFormed s.toList field redact = .ok ()) ∧
        ∀ t : EnvTemplate, t.text = s.toList →
          ∀ name ∈ t.names, (lookup (String.ofList name)).isSome = true) ∧
      ∀ t : EnvTemplate, t.text = s.toList → ∀ r, substituteString lookup s field = .ok r →
        r = String.ofList (t.fill (valueOf lookup))) ∧
    (∀ v v', enforceSecretReferences v = .ok () → substituteInValue lookup "" v = .ok v' →
      (∀ text, matrixToken v' = some text →
        text = "" ∨ ∃ token, matrixToken v = some token ∧ ValueOfReference lookup token text) ∧
      ∀ peers', a2aPeers v' = some peers' → ∀ peer fields', (peer, fields') ∈ peers' →
        ∀ text, peerToken fields' = some text →
          ∃ peers fields token, a2aPeers v = some peers ∧ (peer, fields) ∈ peers ∧
            peerToken fields = some token ∧ ValueOfReference lookup token text) ∧
    (∀ v (field : SecretField) s text, textAt field.path v = some s →
      field.errorClass s = field.errorClass text →
      enforceSecretReferences (setText text field.path v) = enforceSecretReferences v) := by
  refine ⟨?_, ?_, fun v field s text => enforce_setText⟩
  · intro s field
    refine ⟨fun redact => check_iff _ _ _, ?_, fun t ht r hr => substitute_value hr ht⟩
    rw [substitute_ok_iff]
    constructor
    · rintro ⟨t, ht, hset⟩
      refine ⟨fun redact => (check_iff _ _ _).mpr ⟨t, ht⟩, ?_⟩
      intro t' ht'
      rw [Template.text_injective (ht'.trans ht.symm)]
      exact hset
    · rintro ⟨hcheck, hset⟩
      obtain ⟨t, ht⟩ := (check_iff _ _ _).mp (hcheck false)
      exact ⟨t, ht, hset t ht⟩
  · intro v v' henforce hsub
    obtain ⟨⟨⟩, hmatrix, hpeers⟩ := except_bind_ok henforce
    exact ⟨fun text => matrix_token_source hmatrix hsub,
      fun peers' htable peer fields' hmem text => peer_token_source hpeers hsub htable hmem⟩

/-- A document with a Matrix token. -/
def matrixDocument (token : String) : Value :=
  .table [("transports", .table [("matrix", .table [("access_token", .string token)])])]

/-- One variable. -/
def oneVariable (name : String) : Option String := if name = "T" then some "s3cret" else none

theorem substitute_matrixDocument :
    substituteInValue oneVariable "" (matrixDocument "\x7benv:T\x7d") =
      .ok (matrixDocument "s3cret") := by
  have hstring : substituteString oneVariable "\x7benv:T\x7d" "transports.matrix.access_token" =
      .ok "s3cret" := by
    unfold substituteString
    rw [show "\x7benv:T\x7d".toList = (referenceTemplate ⟨['T'], by decide⟩).text from rfl,
      substitute_template]
    rfl
  have hpath : itemPath (itemPath (itemPath "" "transports") "matrix") "access_token" =
      "transports.matrix.access_token" := by decide
  simp only [matrixDocument, substituteInValue, substituteEntries]
  rw [hpath, hstring]
  rfl

theorem enforce_matrixDocument :
    enforceSecretReferences (matrixDocument "\x7benv:T\x7d") = .ok () := by
  have hcheck : checkPlaceholdersWellFormed "\x7benv:T\x7d".toList "" true = .ok () :=
    (check_iff _ _ _).mpr ⟨referenceTemplate ⟨['T'], by decide⟩, rfl⟩
  have hclass : SecretField.accessToken.errorClass "\x7benv:T\x7d" = none := by
    have hnonempty : ¬ "\x7benv:T\x7d".isEmpty = true := by decide
    have hwhole : isWholeEnvReference "\x7benv:T\x7d".toList = true := by decide
    unfold SecretField.errorClass tokenClass
    dsimp only
    rw [if_neg hnonempty, if_neg (not_not_intro hcheck), if_pos hwhole]
  show (enforceMatrixToken (some "\x7benv:T\x7d") >>= fun _ => enforcePeerTokens []) = .ok ()
  rw [enforceMatrixToken_eq, hclass]
  rfl

/-- The token of one document is the value of the one variable. -/
theorem secrets_by_reference_one :
    "s3cret" = "" ∨ ∃ token, matrixToken (matrixDocument "\x7benv:T\x7d") = some token ∧
      ValueOfReference oneVariable token "s3cret" :=
  ((secrets_by_reference oneVariable).2.1 _ _ enforce_matrixDocument
    substitute_matrixDocument).1 "s3cret" rfl

end GuiguBridge
