import GuiguBridge.Lib.JsonStream
import GuiguBridge.Externals
import GuiguBridge.Storage.Workflow

/-!
# Reading a workflow envelope

`parse_workflow` reads the text of an envelope twice (`src/src/models/workflow.rs`): a visitor of
its own refuses repeated keys at every depth, and a normal decode follows.  What went wrong in the
first pass is told by searching the rendered error for `duplicate key`.

* `SerdeJson` — what `serde_json` hands over of a text, and the texts of its errors;
* `nested`, `root` — the visitor; `value` — the normal decode;
* `parseWorkflow` — the two passes and the checks on the envelope;
* `nested_ok_iff`, `nested_duplicate_iff` — **the visitor accepts what is sound and speaks of a
  duplicate key exactly where one is**;
* `value_of_sound`, `rootFields_eq` — the passes agree on what is sound.
-/

namespace GuiguBridge

open JsonStream

/-! ### The reader -/

/-- What the reader hands over of a text: the tree, whether characters follow it, and where an
error is placed. -/
structure Reading (ν : Type) where
  doc : Doc ν
  trailing : Bool
  line : Nat
  column : Nat

/-- `serde_json` and the formatting of the standard library, as the first pass sees them. -/
class SerdeJson where
  Number : Type
  /-- `Deserializer::from_str`, driven to the end of the value or to the first error. -/
  read : String → Reading Number
  /-- `Display` of `Unexpected` of a number. -/
  unexpectedNumber : Number → String
  /-- `Debug` of a string, character by character. -/
  escapeDebug : Char → List Char

/-- An error of `serde_json`. -/
inductive SerdeError where
  /-- A text that is not JSON; the reader words it, with its position. -/
  | malformed (text : String)
  /-- `Error::custom`. -/
  | custom (message : String)
  /-- `Error::invalid_type`. -/
  | invalidType (unexpected : List Char)

/-- ` at line … column …`. -/
def position (line column : Nat) : List Char :=
  " at line ".toList ++ Nat.toDigits 10 line ++ " column ".toList ++ Nat.toDigits 10 column

/-- `Display` of an error, where `a JSON object` was expected. -/
def SerdeError.text (line column : Nat) : SerdeError → List Char
  | .malformed text => text.toList
  | .custom message => message.toList ++ position line column
  | .invalidType unexpected =>
    "invalid type: ".toList ++ unexpected ++ ", expected a JSON object".toList ++
      position line column

theorem SerdeError.text_custom (line column : Nat) (message : String) :
    (SerdeError.custom message).text line column = message.toList ++ position line column := rfl

theorem SerdeError.text_invalidType (line column : Nat) (found : List Char) :
    (SerdeError.invalidType found).text line column =
      "invalid type: ".toList ++ found ++ ", expected a JSON object".toList ++
        position line column := rfl

/-! ### The first pass -/

/-- What the visitors say of a repeated key. -/
def duplicateKey : SerdeError := .custom "duplicate key"

section

variable {ν : Type}

/-- The end of an array or an object. -/
def closed {α : Type} (stop : Option String) (out : α) : Except SerdeError α :=
  match stop with
  | none => .ok out
  | some error => .error (.malformed error)

mutual

/-- `RecursiveValue`. -/
def nested : Doc ν → Except SerdeError (Val ν)
  | .null => .ok .null
  | .bool b => .ok (.bool b)
  | .num n => .ok (.num n)
  | .str s => .ok (.str s)
  | .arr items stop => (nestedItems items).bind fun out => closed stop (.arr out)
  | .obj fields stop => (nestedFields [] fields).bind fun out => closed stop (.obj out)
  | .broken error => .error (.malformed error)

/-- `visit_seq` of `Nested`. -/
def nestedItems : List (Doc ν) → Except SerdeError (List (Val ν))
  | [] => .ok []
  | d :: items => (nested d).bind fun v => (nestedItems items).bind fun out => .ok (v :: out)

/-- `visit_map` of `Nested`. -/
def nestedFields (out : List (String × Val ν)) :
    List (String × Doc ν) → Except SerdeError (List (String × Val ν))
  | [] => .ok out
  | (key, d) :: fields =>
    if key ∈ out.map (·.1) then .error duplicateKey
    else (nested d).bind fun v => nestedFields (out ++ [(key, v)]) fields

end

/-- `visit_map` of `Root`. -/
def rootFields (keys : List String) : List (String × Doc ν) → Except SerdeError Unit
  | [] => .ok ()
  | (key, d) :: fields =>
    if key ∈ keys then .error duplicateKey
    else (nested d).bind fun _ => rootFields (keys ++ [key]) fields

/-! ### The second pass -/

/-- `Map::insert`. -/
def insertField (key : String) (v : Val ν) (out : List (String × Val ν)) :
    List (String × Val ν) :=
  if key ∈ out.map (·.1) then out.map fun f => if f.1 = key then (key, v) else f
  else out ++ [(key, v)]

mutual

/-- `Deserialize` of `Value`; of a repeated key the last value stays. -/
def value : Doc ν → Except SerdeError (Val ν)
  | .null => .ok .null
  | .bool b => .ok (.bool b)
  | .num n => .ok (.num n)
  | .str s => .ok (.str s)
  | .arr items stop => (valueItems items).bind fun out => closed stop (.arr out)
  | .obj fields stop => (valueFields [] fields).bind fun out => closed stop (.obj out)
  | .broken error => .error (.malformed error)

def valueItems : List (Doc ν) → Except SerdeError (List (Val ν))
  | [] => .ok []
  | d :: items => (value d).bind fun v => (valueItems items).bind fun out => .ok (v :: out)

def valueFields (out : List (String × Val ν)) :
    List (String × Doc ν) → Except SerdeError (List (String × Val ν))
  | [] => .ok out
  | (key, d) :: fields => (value d).bind fun v => valueFields (insertField key v out) fields

end

/-! ### The envelope -/

inductive WorkflowState where
  | reserved | dispatched | acknowledged | handoffPending | handedOff | busy | unavailable
  deriving DecidableEq

/-- `WorkflowEnvelope`, with the fields that only the parser reads. -/
structure ParsedEnvelope extends WorkflowEnvelope where
  schema : String
  state : Option WorkflowState
  mention : Option String
  deriving DecidableEq

/-- `WorkflowError`, as far as the parser returns it. -/
inductive WorkflowError where
  | tooLarge | invalidJson | unknownField | duplicateField | invalidEnvelope
  deriving DecidableEq

/-- `WORKFLOW_SCHEMA`. -/
def workflowSchema : String := "workflow.v1"

/-- `MAX_WORKFLOW_BYTES`. -/
def maxWorkflowBytes : Nat := 65536

/-- The fields of an envelope. -/
def allowed : List String :=
  ["schema", "kind", "message_id", "from", "to", "task_id", "correlation_id",
    "idempotency_key", "state", "body", "mention"]

/-- `Map::get`. -/
def field (key : String) (fields : List (String × Val ν)) : Option (Val ν) :=
  (fields.find? fun f => f.1 = key).map (·.2)

/-- `Deserialize` of a `String`. -/
def text : Val ν → Option String
  | .str s => some s
  | _ => none

/-- `Deserialize` of an `Option`: an absent field and a null are `None`. -/
def optional {α : Type} (read : Val ν → Option α) : Option (Val ν) → Option (Option α)
  | none => some none
  | some .null => some none
  | some v => (read v).map some

/-- The name of a variant without fields. -/
def variantName : Val ν → Option String
  | .str name => some name
  | .obj [(name, .null)] => some name
  | _ => none

/-- `Deserialize` of `WorkflowKind`. -/
def WorkflowKind.read (v : Val ν) : Option WorkflowKind :=
  (variantName v).bind fun name =>
    [WorkflowKind.dispatch, .ack, .handoff, .command].find? fun kind => kind.name = name

/-- The name of a state, in snake case. -/
def WorkflowState.name : WorkflowState → String
  | .reserved => "reserved"
  | .dispatched => "dispatched"
  | .acknowledged => "acknowledged"
  | .handoffPending => "handoff_pending"
  | .handedOff => "handed_off"
  | .busy => "busy"
  | .unavailable => "unavailable"

/-- `Deserialize` of `WorkflowState`. -/
def WorkflowState.read (v : Val ν) : Option WorkflowState :=
  (variantName v).bind fun name =>
    [WorkflowState.reserved, .dispatched, .acknowledged, .handoffPending, .handedOff, .busy,
      .unavailable].find? fun state => state.name = name

variable [Externals]

/-- `Deserialize` of an identity. -/
def identity (v : Val ν) : Option Uuid := (text v).bind Externals.parseUuid

/-- `Deserialize` of `WorkflowEnvelope`. -/
def decodeEnvelope (fields : List (String × Val ν)) : Option ParsedEnvelope := do
  let schema ← (field "schema" fields).bind text
  let kind ← (field "kind" fields).bind WorkflowKind.read
  let message_id ← (field "message_id" fields).bind text
  let sender ← (field "from" fields).bind identity
  let recipient ← (field "to" fields).bind identity
  let task_id ← (field "task_id" fields).bind identity
  let correlation_id ← (field "correlation_id" fields).bind text
  let idempotency_key ← (field "idempotency_key" fields).bind text
  let state ← optional WorkflowState.read (field "state" fields)
  let body ← (field "body" fields).bind text
  let mention ← optional text (field "mention" fields)
  some { kind := kind, message_id := message_id, sender := ⟨sender⟩, recipient := ⟨recipient⟩,
         task_id := ⟨task_id⟩, correlation_id := correlation_id,
         idempotency_key := idempotency_key, body := body, schema := schema, state := state,
         mention := mention }

end

section

variable [Externals]

/-- `Serialize` of `WorkflowEnvelope`. -/
def ParsedEnvelope.fields (e : ParsedEnvelope) : List (String × Json) :=
  [("schema", .str e.schema), ("kind", .str e.kind.name), ("message_id", .str e.message_id),
    ("from", .str (Externals.uuidText e.sender.uuid)),
    ("to", .str (Externals.uuidText e.recipient.uuid)),
    ("task_id", .str (Externals.uuidText e.task_id.uuid)),
    ("correlation_id", .str e.correlation_id), ("idempotency_key", .str e.idempotency_key),
    ("state", match e.state with
      | none => .null
      | some state => .str state.name),
    ("body", .str e.body),
    ("mention", match e.mention with
      | none => .null
      | some mention => .str mention)]

/-- `serde_json::to_string` of an envelope. -/
def ParsedEnvelope.text (e : ParsedEnvelope) : String := Externals.jsonText (.obj e.fields)

variable [SerdeJson]

/-- `Display` of `Unexpected`. -/
def unexpected : Doc SerdeJson.Number → List Char
  | .null => "null".toList
  | .bool true => "boolean `true`".toList
  | .bool false => "boolean `false`".toList
  | .num n => (SerdeJson.unexpectedNumber n).toList
  | .str s => "string ".toList ++ '"' :: (s.toList.flatMap SerdeJson.escapeDebug ++ ['"'])
  | .arr _ _ => "sequence".toList
  | .obj _ _ => "map".toList
  | .broken _ => []

/-- `Root`: everything but an object is of a wrong type. -/
def root : Doc SerdeJson.Number → Except SerdeError Unit
  | .obj fields stop => (rootFields [] fields).bind fun _ => closed stop ()
  | .broken error => .error (.malformed error)
  | d => .error (.invalidType (unexpected d))

/-- `reject_duplicate_keys`. -/
def rejectDuplicateKeys (raw : String) : Except WorkflowError Unit :=
  match root (SerdeJson.read raw).doc with
  | .ok () => .ok ()
  | .error error =>
    if "duplicate key".toList <:+:
        error.text (SerdeJson.read raw).line (SerdeJson.read raw).column then
      .error .duplicateField
    else .error .invalidJson

/-- `serde_json::from_str` into a value. -/
def fromStr (raw : String) : Option (Val SerdeJson.Number) :=
  if (SerdeJson.read raw).trailing then none else (value (SerdeJson.read raw).doc).toOption

/-- What is asked of a decoded envelope. -/
def ParsedEnvelope.acceptable (e : ParsedEnvelope) : Bool :=
  decide (e.schema = workflowSchema ∧ e.message_id ≠ "" ∧ e.correlation_id ≠ "" ∧
    e.idempotency_key ≠ "" ∧ e.body.utf8ByteSize ≤ maxWorkflowBytes)

/-- `parse_workflow`. -/
def parseWorkflow (raw : String) : Except WorkflowError ParsedEnvelope :=
  if maxWorkflowBytes < raw.utf8ByteSize then .error .tooLarge
  else
    match rejectDuplicateKeys raw with
    | .error error => .error error
    | .ok () =>
      match fromStr raw with
      | none => .error .invalidJson
      | some (.obj object) =>
        if object.any (fun f => !allowed.contains f.1) then .error .unknownField
        else
          match decodeEnvelope object with
          | none => .error .invalidEnvelope
          | some envelope =>
            if envelope.acceptable then .ok envelope else .error .invalidEnvelope
      | some _ => .error .invalidEnvelope

end

/-! ### What the passes see -/

section

variable {ν : Type}

theorem nestedItems_of {items : List (Doc ν)} (h : ∀ d ∈ items, nested d = .ok d.val) :
    nestedItems items = .ok (vals items) := by
  induction items with
  | nil => rfl
  | cons d items ih =>
    have hd := h d List.mem_cons_self
    have hitems := ih fun x hx => h x (List.mem_cons_of_mem _ hx)
    rw [nestedItems, hd, hitems]
    rfl

theorem nestedFields_of {fields : List (String × Doc ν)} (out : List (String × Val ν))
    (h : ∀ f ∈ fields, nested f.2 = .ok f.2.val)
    (distinct : (out.map (·.1) ++ fields.map (·.1)).Nodup) :
    nestedFields out fields = .ok (out ++ fieldVals fields) := by
  induction fields generalizing out with
  | nil => rw [nestedFields, fieldVals, List.append_nil]
  | cons f fields ih =>
    obtain ⟨key, d⟩ := f
    have hd := h (key, d) List.mem_cons_self
    have hnew : key ∉ out.map (·.1) := by
      intro hmem
      exact (List.nodup_append.mp distinct).2.2 key hmem key List.mem_cons_self rfl
    have hrest := ih (out ++ [(key, d.val)]) (fun f hf => h f (List.mem_cons_of_mem _ hf)) (by
      rwa [List.map_append, List.append_assoc])
    rw [nestedFields, if_neg hnew, hd]
    show nestedFields (out ++ [(key, d.val)]) fields = _
    rw [hrest, fieldVals, List.append_assoc, List.singleton_append]

/-- The visitor builds the value of a sound text. -/
theorem nested_of_sound {d : Doc ν} (h : d.Sound) : nested d = .ok d.val := by
  induction h with
  | null => rfl
  | bool b => rfl
  | num n => rfl
  | str s => rfl
  | arr h ih =>
    rw [nested, nestedItems_of ih]
    rfl
  | obj h distinct ih =>
    rw [nested, nestedFields_of [] ih (by rwa [List.map_nil, List.nil_append])]
    rfl

theorem nestedItems_fails {front back : List (Doc ν)} {d : Doc ν} {error : SerdeError}
    (before : ∀ d ∈ front, d.Sound) (h : nested d = .error error) :
    nestedItems (front ++ d :: back) = .error error := by
  induction front with
  | nil =>
    rw [List.nil_append, nestedItems, h]
    rfl
  | cons x front ih =>
    have hx := nested_of_sound (before x List.mem_cons_self)
    rw [List.cons_append, nestedItems, hx, ih fun y hy => before y (List.mem_cons_of_mem _ hy)]
    rfl

theorem nestedFields_append {front : List (String × Doc ν)} (back : List (String × Doc ν))
    (out : List (String × Val ν)) (before : ∀ f ∈ front, f.2.Sound)
    (distinct : (out.map (·.1) ++ front.map (·.1)).Nodup) :
    nestedFields out (front ++ back) = nestedFields (out ++ fieldVals front) back := by
  induction front generalizing out with
  | nil => rw [List.nil_append, fieldVals, List.append_nil]
  | cons f front ih =>
    obtain ⟨key, d⟩ := f
    have hd := nested_of_sound (before (key, d) List.mem_cons_self)
    have hnew : key ∉ out.map (·.1) := by
      intro hmem
      exact (List.nodup_append.mp distinct).2.2 key hmem key List.mem_cons_self rfl
    have hrest := ih (out ++ [(key, d.val)]) (fun f hf => before f (List.mem_cons_of_mem _ hf)) (by
      rwa [List.map_append, List.append_assoc])
    rw [List.cons_append, nestedFields, if_neg hnew, hd]
    show nestedFields (out ++ [(key, d.val)]) (front ++ back) = _
    rw [hrest, fieldVals, List.append_assoc, List.singleton_append]

/-- The visitor reports a key that is repeated, whatever follows it. -/
theorem nested_of_repeats {d : Doc ν} (h : d.Repeats) : nested d = .error duplicateKey := by
  induction h with
  | item before h ih =>
    rw [nested, nestedItems_fails before ih]
    rfl
  | @field front back key d stop before distinct new h ih =>
    have hnew : key ∉ (([] : List (String × Val ν)) ++ fieldVals front).map (·.1) := by
      rwa [List.nil_append, fieldVals_keys]
    rw [nested, nestedFields_append _ [] before distinct, nestedFields, if_neg hnew, ih]
    rfl
  | @key front back key d stop before distinct again =>
    have hagain : key ∈ (([] : List (String × Val ν)) ++ fieldVals front).map (·.1) := by
      rwa [List.nil_append, fieldVals_keys]
    rw [nested, nestedFields_append _ [] before distinct, nestedFields, if_pos hagain]
    rfl

/-- Why the visitor fails on a tree. -/
def Fails (d : Doc ν) (error : SerdeError) : Prop :=
  (error = duplicateKey ∧ d.Repeats) ∨ ∃ text, error = .malformed text ∧ d.Says text

mutual

/-- One case a node: what the visitor accepts is sound, and what it refuses repeats a key or is
not JSON. -/
theorem nested_cases (d : Doc ν) :
    (∀ v, nested d = .ok v → d.Sound) ∧ ∀ error, nested d = .error error → Fails d error := by
  match d with
  | .null => exact ⟨fun _ _ => .null, fun _ h => nomatch h⟩
  | .bool b => exact ⟨fun _ _ => .bool b, fun _ h => nomatch h⟩
  | .num n => exact ⟨fun _ _ => .num n, fun _ h => nomatch h⟩
  | .str s => exact ⟨fun _ _ => .str s, fun _ h => nomatch h⟩
  | .broken text =>
    refine ⟨fun _ h => (nomatch h), fun error h => ?_⟩
    obtain rfl := Except.error.inj h
    exact .inr ⟨text, rfl, .broken text⟩
  | .arr items stop =>
    obtain ⟨hok, herror⟩ := nestedItems_cases items
    cases hitems : nestedItems items with
    | ok out =>
      have hn : nested (.arr items stop) = closed stop (.arr out) := by
        rw [nested, hitems]
        rfl
      rw [hn]
      cases stop with
      | none => exact ⟨fun _ _ => .arr (hok out hitems), fun _ h => nomatch h⟩
      | some text =>
        refine ⟨fun _ h => (nomatch h), fun error h => ?_⟩
        obtain rfl := Except.error.inj h
        exact .inr ⟨text, rfl, .arrStop items text⟩
    | error first =>
      have hn : nested (.arr items stop) = .error first := by
        rw [nested, hitems]
        rfl
      rw [hn]
      refine ⟨fun _ h => (nomatch h), fun error h => ?_⟩
      obtain rfl := Except.error.inj h
      obtain ⟨front, x, back, rfl, before, hfails⟩ := herror first hitems
      obtain ⟨hdup, hrepeats⟩ | ⟨text, htext, hsays⟩ := hfails
      · exact .inl ⟨hdup, .item before hrepeats⟩
      · exact .inr ⟨text, htext,
          .item (List.mem_append_right front List.mem_cons_self) hsays⟩
  | .obj fields stop =>
    obtain ⟨hok, herror⟩ := nestedFields_cases [] fields List.nodup_nil
    cases hfields : nestedFields [] fields with
    | ok out =>
      have hn : nested (.obj fields stop) = closed stop (.obj out) := by
        rw [nested, hfields]
        rfl
      rw [hn]
      cases stop with
      | none =>
        obtain ⟨hsound, hdistinct⟩ := hok out hfields
        exact ⟨fun _ _ => .obj hsound hdistinct, fun _ h => nomatch h⟩
      | some text =>
        refine ⟨fun _ h => (nomatch h), fun error h => ?_⟩
        obtain rfl := Except.error.inj h
        exact .inr ⟨text, rfl, .objStop fields text⟩
    | error first =>
      have hn : nested (.obj fields stop) = .error first := by
        rw [nested, hfields]
        rfl
      rw [hn]
      refine ⟨fun _ h => (nomatch h), fun error h => ?_⟩
      obtain rfl := Except.error.inj h
      obtain ⟨front, key, x, back, rfl, before, hdistinct, hcase⟩ := herror first hfields
      obtain ⟨hdup, hagain⟩ | ⟨hnew, hfails⟩ := hcase
      · exact .inl ⟨hdup, .key before hdistinct hagain⟩
      · obtain ⟨hdup, hrepeats⟩ | ⟨text, htext, hsays⟩ := hfails
        · exact .inl ⟨hdup, .field before hdistinct hnew hrepeats⟩
        · exact .inr ⟨text, htext,
            .field (List.mem_append_right front List.mem_cons_self) hsays⟩

theorem nestedItems_cases (items : List (Doc ν)) :
    (∀ out, nestedItems items = .ok out → ∀ d ∈ items, d.Sound) ∧
      ∀ error, nestedItems items = .error error → ∃ front d back,
        items = front ++ d :: back ∧ (∀ x ∈ front, x.Sound) ∧ Fails d error := by
  match items with
  | [] => exact ⟨fun _ _ => by simp, fun _ h => nomatch h⟩
  | d :: items =>
    obtain ⟨hsound, hfails⟩ := nested_cases d
    obtain ⟨hok, herror⟩ := nestedItems_cases items
    cases hd : nested d with
    | error first =>
      have hn : nestedItems (d :: items) = .error first := by
        rw [nestedItems, hd]
        rfl
      rw [hn]
      refine ⟨fun _ h => (nomatch h), fun error h => ?_⟩
      obtain rfl := Except.error.inj h
      exact ⟨[], d, items, rfl, by simp, hfails first hd⟩
    | ok v =>
      have hn : nestedItems (d :: items) =
          (nestedItems items).bind fun out => .ok (v :: out) := by
        rw [nestedItems, hd]
        rfl
      rw [hn]
      cases hitems : nestedItems items with
      | ok out =>
        refine ⟨fun _ _ => ?_, fun _ h => nomatch h⟩
        rw [List.forall_mem_cons]
        exact ⟨hsound v hd, hok out hitems⟩
      | error first =>
        refine ⟨fun _ h => (nomatch h), fun error h => ?_⟩
        obtain rfl := Except.error.inj h
        obtain ⟨front, x, back, rfl, before, hx⟩ := herror first hitems
        refine ⟨d :: front, x, back, rfl, ?_, hx⟩
        rw [List.forall_mem_cons]
        exact ⟨hsound v hd, before⟩

theorem nestedFields_cases (out : List (String × Val ν)) (fields : List (String × Doc ν))
    (hout : (out.map (·.1)).Nodup) :
    (∀ result, nestedFields out fields = .ok result →
      (∀ f ∈ fields, f.2.Sound) ∧ (out.map (·.1) ++ fields.map (·.1)).Nodup) ∧
      ∀ error, nestedFields out fields = .error error → ∃ front key d back,
        fields = front ++ (key, d) :: back ∧ (∀ f ∈ front, f.2.Sound) ∧
          (out.map (·.1) ++ front.map (·.1)).Nodup ∧
          ((error = duplicateKey ∧ key ∈ out.map (·.1) ++ front.map (·.1)) ∨
            (key ∉ out.map (·.1) ++ front.map (·.1) ∧ Fails d error)) := by
  match fields with
  | [] =>
    refine ⟨fun _ _ => ⟨by simp, ?_⟩, fun _ h => nomatch h⟩
    rwa [List.map_nil, List.append_nil]
  | (key, d) :: fields =>
    by_cases hkey : key ∈ out.map (·.1)
    · have hn : nestedFields out ((key, d) :: fields) = .error duplicateKey := by
        rw [nestedFields, if_pos hkey]
      rw [hn]
      refine ⟨fun _ h => (nomatch h), fun error h => ?_⟩
      obtain rfl := Except.error.inj h
      refine ⟨[], key, d, fields, rfl, by simp, ?_, .inl ⟨rfl, ?_⟩⟩
      · rwa [List.map_nil, List.append_nil]
      · rwa [List.map_nil, List.append_nil]
    · obtain ⟨hsound, hfails⟩ := nested_cases d
      cases hd : nested d with
      | error first =>
        have hn : nestedFields out ((key, d) :: fields) = .error first := by
          rw [nestedFields, if_neg hkey, hd]
          rfl
        rw [hn]
        refine ⟨fun _ h => (nomatch h), fun error h => ?_⟩
        obtain rfl := Except.error.inj h
        refine ⟨[], key, d, fields, rfl, by simp, ?_, .inr ⟨?_, hfails first hd⟩⟩
        · rwa [List.map_nil, List.append_nil]
        · rwa [List.map_nil, List.append_nil]
      | ok v =>
        have hn : nestedFields out ((key, d) :: fields) =
            nestedFields (out ++ [(key, v)]) fields := by
          rw [nestedFields, if_neg hkey, hd]
          rfl
        have hkeys : (out ++ [(key, v)]).map (·.1) = out.map (·.1) ++ [key] := by
          rw [List.map_append]
          rfl
        have hdistinct : ((out ++ [(key, v)]).map (·.1)).Nodup := by
          rw [hkeys]
          exact List.nodup_append.mpr ⟨hout, List.nodup_singleton key, fun a ha b hb hab =>
            hkey ((List.mem_singleton.mp hb) ▸ hab ▸ ha)⟩
        obtain ⟨hok, herror⟩ := nestedFields_cases (out ++ [(key, v)]) fields hdistinct
        rw [hn]
        rw [hkeys] at hok herror
        constructor
        · intro result h
          obtain ⟨hfields, hnodup⟩ := hok result h
          refine ⟨?_, ?_⟩
          · rw [List.forall_mem_cons]
            exact ⟨hsound v hd, hfields⟩
          · rwa [List.append_assoc] at hnodup
        · intro error h
          obtain ⟨front, key', x, back, rfl, before, hnodup, hcase⟩ := herror error h
          rw [List.append_assoc] at hnodup hcase
          refine ⟨(key, d) :: front, key', x, back, rfl, ?_, hnodup, hcase⟩
          rw [List.forall_mem_cons]
          exact ⟨hsound v hd, before⟩

end

/-- **The visitor accepts what is sound.** -/
theorem nested_ok_iff (d : Doc ν) (v : Val ν) : nested d = .ok v ↔ d.Sound ∧ v = d.val := by
  constructor
  · intro h
    have hsound := (nested_cases d).1 v h
    refine ⟨hsound, ?_⟩
    rw [nested_of_sound hsound] at h
    exact (Except.ok.inj h).symm
  · rintro ⟨hsound, rfl⟩
    exact nested_of_sound hsound

/-- **The visitor speaks of a duplicate key exactly where one is.** -/
theorem nested_duplicate_iff (d : Doc ν) : nested d = .error duplicateKey ↔ d.Repeats := by
  constructor
  · intro h
    obtain ⟨-, hrepeats⟩ | ⟨text, htext, -⟩ := (nested_cases d).2 _ h
    · exact hrepeats
    · cases htext
  · exact nested_of_repeats

theorem insertField_new {key : String} {v : Val ν} {out : List (String × Val ν)}
    (h : key ∉ out.map (·.1)) : insertField key v out = out ++ [(key, v)] :=
  if_neg h

theorem valueItems_of {items : List (Doc ν)} (h : ∀ d ∈ items, value d = .ok d.val) :
    valueItems items = .ok (vals items) := by
  induction items with
  | nil => rfl
  | cons d items ih =>
    have hd := h d List.mem_cons_self
    have hitems := ih fun x hx => h x (List.mem_cons_of_mem _ hx)
    rw [valueItems, hd, hitems]
    rfl

theorem valueFields_of {fields : List (String × Doc ν)} (out : List (String × Val ν))
    (h : ∀ f ∈ fields, value f.2 = .ok f.2.val)
    (distinct : (out.map (·.1) ++ fields.map (·.1)).Nodup) :
    valueFields out fields = .ok (out ++ fieldVals fields) := by
  induction fields generalizing out with
  | nil => rw [valueFields, fieldVals, List.append_nil]
  | cons f fields ih =>
    obtain ⟨key, d⟩ := f
    have hd := h (key, d) List.mem_cons_self
    have hnew : key ∉ out.map (·.1) := by
      intro hmem
      exact (List.nodup_append.mp distinct).2.2 key hmem key List.mem_cons_self rfl
    have hrest := ih (out ++ [(key, d.val)]) (fun f hf => h f (List.mem_cons_of_mem _ hf)) (by
      rwa [List.map_append, List.append_assoc])
    rw [valueFields, hd]
    show valueFields (insertField key d.val out) fields = _
    rw [insertField_new hnew, hrest, fieldVals, List.append_assoc, List.singleton_append]

/-- **The two passes agree on a sound text.** -/
theorem value_of_sound {d : Doc ν} (h : d.Sound) : value d = .ok d.val := by
  induction h with
  | null => rfl
  | bool b => rfl
  | num n => rfl
  | str s => rfl
  | arr h ih =>
    rw [value, valueItems_of ih]
    rfl
  | obj h distinct ih =>
    rw [value, valueFields_of [] ih (by rwa [List.map_nil, List.nil_append])]
    rfl

/-- `Root` reads the fields as `Nested` does. -/
theorem rootFields_eq (out : List (String × Val ν)) (fields : List (String × Doc ν)) :
    rootFields (out.map (·.1)) fields = (nestedFields out fields).map fun _ => () := by
  induction fields generalizing out with
  | nil => rfl
  | cons f fields ih =>
    obtain ⟨key, d⟩ := f
    rw [rootFields, nestedFields]
    by_cases hkey : key ∈ out.map (·.1)
    · rw [if_pos hkey, if_pos hkey]
      rfl
    · rw [if_neg hkey, if_neg hkey]
      cases nested d with
      | error error => rfl
      | ok v =>
        have hkeys : out.map (·.1) ++ [key] = (out ++ [(key, v)]).map (·.1) := by
          rw [List.map_append]
          rfl
        show rootFields (out.map (·.1) ++ [key]) fields = _
        rw [hkeys, ih]
        rfl

end

end GuiguBridge
