import GuiguBridge.Acp.OutputFiles
import GuiguBridge.Lib.Text
import GuiguBridge.Runtime.Lifecycle

/-!
# Frames and messages of the agent protocol

Bytes become JSON values, one a line, and values become JSON-RPC messages
(`src/src/acp/framing.rs`, `src/src/acp/jsonrpc.rs`, `src/src/acp/schema.rs`).

* `Value` — a JSON value as `serde_json` has it;
* `FrameReader` — the line that is not complete yet, `nextFrame` and `finish`;
* `parse` — request, notification or response;
* `agentRequestResponse` — what an agent that asks is answered: **nothing is ever allowed**;
* `WireCrates` — the reader of JSON texts and the derived decoders.
-/

namespace GuiguBridge

namespace Acp

/-! ### Values -/

/-- A number as `serde_json` keeps it. -/
inductive Number where
  | posInt (n : Nat)
  | negInt (n : Int)
  | float (text : String)
  deriving DecidableEq

/-- `Number::as_i64`. -/
def Number.asI64 : Number → Option Int
  | .posInt n => if n ≤ 9223372036854775807 then some n else none
  | .negInt n => some n
  | .float _ => none

/-- `serde_json::Value`; the names of an object are distinct. -/
inductive Value where
  | null
  | bool (b : Bool)
  | number (n : Number)
  | string (s : String)
  | array (items : List Value)
  | object (fields : List (String × Value))
  deriving Inhabited

namespace Value

/-- `Value::as_object`, and `Map::get` of what it gives. -/
def asObject : Value → Option (String → Option Value)
  | .object fields => some fun name => (fields.find? fun field => field.1 = name).map (·.2)
  | _ => none

def asStr : Value → Option String
  | .string s => some s
  | _ => none

def asI64 : Value → Option Int
  | .number n => n.asI64
  | _ => none

/-- `Value::get` of a name. -/
def get (name : String) (v : Value) : Option Value :=
  v.asObject.bind fun object => object name

end Value

/-! ### Messages -/

inductive RequestId where
  | number (id : Int)
  | string (id : String)
  deriving DecidableEq

/-- `RequestId::as_number`. -/
def RequestId.asNumber : RequestId → Option Int
  | .number id => some id
  | .string _ => none

structure JsonRpcErrorObject where
  code : Int
  message : String
  data : Option Value

inductive JsonRpcMessage where
  | request (id : RequestId) (method : String) (params : Value)
  | notification (method : String) (params : Value)
  | response (id : RequestId) (outcome : Except JsonRpcErrorObject Value)

inductive ProtocolError where
  | notAnObject | unrecognisedShape | uncorrelatableId | missingOutcome
  | malformedError (detail : String)
  deriving DecidableEq

/-- `RequestId::from_value`. -/
def RequestId.fromValue : Value → Except ProtocolError RequestId
  | .number n =>
    match n.asI64 with
    | some id => .ok (.number id)
    | none => .error .uncorrelatableId
  | .string text => .ok (.string text)
  | _ => .error .uncorrelatableId

/-- `read_error`. -/
def readError (value : Value) : Except ProtocolError JsonRpcErrorObject :=
  match value.asObject with
  | none => .error (.malformedError "error is not an object")
  | some object =>
    match (object "code").bind Value.asI64 with
    | none => .error (.malformedError "error has no numeric code")
    | some code =>
      match (object "message").bind Value.asStr with
      | none => .error (.malformedError "error has no string message")
      | some message =>
        .ok { code := code, message := bounded message, data := object "data" }

/-- The outcome of a response: exactly one of `result` and `error`. -/
def readOutcome (object : String → Option Value) :
    Except ProtocolError (Except JsonRpcErrorObject Value) :=
  match object "result", object "error" with
  | some result, none => .ok (.ok result)
  | none, some error => (readError error).map Except.error
  | _, _ => .error .missingOutcome

/-- The id of an object, when it has one. -/
def readId (object : String → Option Value) : Except ProtocolError (Option RequestId) :=
  match object "id" with
  | none => .ok none
  | some value => (RequestId.fromValue value).map some

/-- `jsonrpc::parse`. -/
def parse (value : Value) : Except ProtocolError JsonRpcMessage :=
  match value.asObject with
  | none => .error .notAnObject
  | some object =>
    match readId object with
    | .error error => .error error
    | .ok id =>
      match (object "method").bind Value.asStr, id with
      | some method, none => .ok (.notification method ((object "params").getD .null))
      | some method, some id => .ok (.request id method ((object "params").getD .null))
      | none, some id => (readOutcome object).map (.response id)
      | none, none => .error .unrecognisedShape

/-- A whole number as `json!` makes it. -/
def Value.int (n : Int) : Value :=
  .number (if 0 ≤ n then .posInt n.toNat else .negInt n)

/-- `id_value`. -/
def RequestId.value : RequestId → Value
  | .number id => .int id
  | .string id => .string id

/-- `jsonrpc::request`. -/
def requestEnvelope (id : Int) (method : String) (params : Value) : Value :=
  .object [("jsonrpc", .string "2.0"), ("id", .int id), ("method", .string method),
    ("params", params)]

/-- `jsonrpc::notification`. -/
def notificationEnvelope (method : String) (params : Value) : Value :=
  .object [("jsonrpc", .string "2.0"), ("method", .string method), ("params", params)]

/-- `jsonrpc::success`. -/
def successEnvelope (id : RequestId) (result : Value) : Value :=
  .object [("jsonrpc", .string "2.0"), ("id", id.value), ("result", result)]

/-- `jsonrpc::failure`. -/
def failureEnvelope (id : RequestId) (error : JsonRpcErrorObject) : Value :=
  .object [("jsonrpc", .string "2.0"), ("id", id.value),
    ("error", .object ([("code", .int error.code), ("message", .string error.message)] ++
      error.data.toList.map fun data => ("data", data)))]

/-! ### The payloads that the transport reads -/

inductive ContentBlock where
  | text (text : String)
  | other
  deriving DecidableEq

/-- `ContentBlock::as_text`. -/
def ContentBlock.asText : ContentBlock → Option String
  | .text value => some value
  | .other => none

inductive SessionUpdate where
  | agentMessageChunk (content : ContentBlock)
  | other
  deriving DecidableEq

structure SessionNotification where
  session_id : String
  update : SessionUpdate
  deriving DecidableEq

structure PermissionOption where
  option_id : String
  kind : String
  deriving DecidableEq

/-- `PermissionOption::is_reject`. -/
def PermissionOption.isReject (option : PermissionOption) : Bool :=
  "reject".toList.isPrefixOf option.kind.toList

/-- What `serde` and `serde_json` decode for the transport. -/
class WireCrates where
  /-- `serde_json::from_str`, with the text of its error. -/
  fromStr : String → Except String Value
  /-- The derived `Deserialize` of `SessionNotification`. -/
  sessionNotification : Value → Option SessionNotification
  /-- The options of a decoded `PermissionRequestParams`. -/
  permissionOptions : Value → Option (List PermissionOption)

def METHOD_SESSION_PROMPT : String := "session/prompt"

def METHOD_SESSION_UPDATE : String := "session/update"

def METHOD_REQUEST_PERMISSION : String := "session/request_permission"

/-- `deny_permission`, as it is written. -/
def denyPermission [WireCrates] (params : Value) : Value :=
  match ((WireCrates.permissionOptions params).getD []).find? PermissionOption.isReject with
  | some option =>
    .object [("outcome", .string "selected"), ("optionId", .string option.option_id)]
  | none => .object [("outcome", .string "cancelled")]

/-- `agent_request_response`. -/
def agentRequestResponse [WireCrates] (id : RequestId) (method : String) (params : Value) :
    Value :=
  if method = METHOD_REQUEST_PERMISSION then successEnvelope id (denyPermission params)
  else failureEnvelope id
    { code := -32601, message := bounded ("unsupported agent request: " ++ method), data := none }

/-! ### Frames -/

inductive FrameError where
  | tooLarge (limit : Nat)
  | notUtf8 | truncated
  | malformed (detail : String)
  | io
  deriving DecidableEq

/-- The bytes that are not a complete line yet, and the limit of a line. -/
structure FrameReader where
  partialLine : Bytes
  max_frame_bytes : Nat
  deriving DecidableEq

namespace FrameReader

/-- `FrameReader::push`. -/
def push (bytes : Bytes) (r : FrameReader) : FrameReader :=
  { r with partialLine := r.partialLine ++ bytes }

/-- A complete line that is not blank. -/
def readLine [WireCrates] (trimmed : List Char) : Except FrameError (Option Value) :=
  match WireCrates.fromStr (String.ofList trimmed) with
  | .ok value => .ok (some value)
  | .error error => .error (.malformed (bounded error))

/-- The search for the next line: the bytes of the line so far, and those behind them. -/
def scan [WireCrates] (limit : Nat) :
    Bytes → Bytes → Except FrameError (Option Value) × FrameReader
  | line, [] =>
    if limit < line.length then (.error (.tooLarge limit), ⟨line, limit⟩)
    else (.ok none, ⟨line, limit⟩)
  | line, byte :: rest =>
    if byte = 10 then
      if limit < line.length then (.error (.tooLarge limit), ⟨line ++ byte :: rest, limit⟩)
      else
        match fromUtf8 line with
        | none => (.error .notUtf8, ⟨rest, limit⟩)
        | some text =>
          if Text.isBlank text.toList then scan limit [] rest
          else (readLine (Text.trim text.toList), ⟨rest, limit⟩)
    else scan limit (line ++ [byte]) rest

/-- `FrameReader::next_frame`. -/
def nextFrame [WireCrates] (r : FrameReader) : Except FrameError (Option Value) × FrameReader :=
  scan r.max_frame_bytes [] r.partialLine

/-- `u8::is_ascii_whitespace`. -/
def isAsciiWhitespace (byte : UInt8) : Bool :=
  byte = 9 || byte = 10 || byte = 12 || byte = 13 || byte = 32

/-- `FrameReader::finish`. -/
def finish (r : FrameReader) : Except FrameError Unit :=
  if r.partialLine.all isAsciiWhitespace then .ok () else .error .truncated

end FrameReader

end Acp

end GuiguBridge
