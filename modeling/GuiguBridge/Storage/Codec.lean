import GuiguBridge.Storage.Schema

/-!
# Column codecs

How a task, an event and its payload are written to text columns, and how a row is read back
(`src/src/storage/codec.rs`, `task_from_row` and `event_from_row` of
`src/src/storage/repository.rs`, and the serde derive of `TaskEventPayload`).

* `ts` — the fixed-width text of an instant;
* `payloadToJson`, `payloadText` — the externally tagged document of a payload;
* `payloadFromJson` — what serde accepts for it: one tag, the fields of its variant, unknown
  fields ignored;
* `taskFromRow`, `eventFromRow` — the decoders of the two tables.
-/

namespace GuiguBridge

section

variable [Externals]

/-- `encode_timestamp`, and `ts` of the runtime: the text of an instant in a column. -/
def ts (v : DateTime) : String := Externals.rfc3339Nanos v

/-- `decode_timestamp`. -/
def decodeTimestamp (text : String) : Option DateTime := Externals.parseFromRfc3339 text

/-- `decode_optional_timestamp`. -/
def decodeOptionalTimestamp : Option String → Option (Option DateTime)
  | none => some none
  | some text => (decodeTimestamp text).map some

/-- `decode_u32`. -/
def decodeU32 (value : Nat) : Option UInt32 :=
  if value < 2 ^ 32 then some (UInt32.ofNat value) else none

/-- `decode_priority`. -/
def decodePriority (value : Nat) : Option Priority :=
  if h : value ≤ 10 then some ⟨value, h⟩ else none

/-! ### Payloads -/

/-- `Serialize` of `TaskEventPayload`. -/
def payloadToJson : TaskEventPayload → Json
  | .queued => .str "queued"
  | .dispatched delivery_id attempt =>
    .obj [("dispatched", .obj [("delivery_id", .str (Externals.uuidText delivery_id.uuid)),
      ("attempt", .num attempt.toNat)])]
  | .running started_at =>
    .obj [("running", .obj [("started_at", .str (Externals.serdeDateTime started_at))])]
  | .completed output => .obj [("completed", .obj [("output", .str output)])]
  | .failed error => .obj [("failed", .obj [("error", .str error)])]
  | .timedOut deadline =>
    .obj [("timed_out", .obj [("deadline", .str (Externals.serdeDateTime deadline))])]
  | .cancelled reason => .obj [("cancelled", .obj [("reason", .str reason)])]

/-- `serde_json::to_string` of a payload. -/
def payloadText (payload : TaskEventPayload) : String :=
  Externals.jsonText (payloadToJson payload)

/-- The value of a field of a struct variant: named in an object, where it stands once, or
positional in an array. -/
def structField (names : List String) (name : String) : Json → Option Json
  | .obj fields =>
    match fields.filter (fun f => f.1 = name) with
    | [f] => some f.2
    | _ => none
  | .arr items => if items.length = names.length then items[names.idxOf name]? else none
  | _ => none

/-- A field that holds a string. -/
def stringField (names : List String) (name : String) (content : Json) : Option String :=
  match structField names name content with
  | some (.str s) => some s
  | _ => none

/-- `Deserialize` of `TaskEventPayload`. -/
def payloadFromJson : Json → Option TaskEventPayload
  | .str "queued" => some .queued
  | .obj [(tag, content)] =>
    if tag = "queued" then
      match content with
      | .null => some .queued
      | _ => none
    else if tag = "dispatched" then do
      let id ← stringField ["delivery_id", "attempt"] "delivery_id" content
      let uuid ← Externals.parseUuid id
      let attempt ← structField ["delivery_id", "attempt"] "attempt" content
      match attempt with
      -- `u32::MAX`
      | .num n => if 0 ≤ n ∧ n ≤ 4294967295 then
          some (.dispatched ⟨uuid⟩ (UInt32.ofNat n.toNat)) else none
      | _ => none
    else if tag = "running" then do
      let text ← stringField ["started_at"] "started_at" content
      let at_ ← Externals.parseDateTime text
      some (.running at_)
    else if tag = "completed" then
      (stringField ["output"] "output" content).map .completed
    else if tag = "failed" then
      (stringField ["error"] "error" content).map .failed
    else if tag = "timed_out" then do
      let text ← stringField ["deadline"] "deadline" content
      let at_ ← Externals.parseDateTime text
      some (.timedOut at_)
    else if tag = "cancelled" then
      (stringField ["reason"] "reason" content).map .cancelled
    else none
  | _ => none

/-- `decode_json` of a payload column. -/
def decodePayload (text : String) : Option TaskEventPayload :=
  (Externals.parseJson text).bind payloadFromJson

/-! ### Rows -/

/-- `task_from_row`. -/
def taskFromRow (row : TaskRow) : Option AgentTask := do
  let priority ← decodePriority row.priority
  let depth ← decodeU32 row.depth
  let hops ← decodeU32 row.hops
  let deadline ← decodeOptionalTimestamp row.deadline
  some
    { task_id := row.task_id, root_task_id := row.root_task_id,
      parent_task_id := row.parent_task_id, from_agent := row.from_agent,
      to_agent := row.to_agent, conversation_id := row.conversation_id,
      reply_to := row.reply_to, text := row.text, priority := priority, depth := depth,
      hops := hops, deadline := deadline, version := row.version }

/-- `event_from_row`. -/
def eventFromRow (row : EventRow) : Option TaskEvent := do
  let timestamp ← decodeTimestamp row.timestamp
  let payload ← decodePayload row.payload
  some
    { id := row.event_id, task_id := row.task_id, seq := row.seq, status := row.status,
      timestamp := timestamp, payload := payload }

/-- The row that an `INSERT INTO tasks` writes for a task. -/
def taskToRow (task : AgentTask) : TaskRow :=
  { task_id := task.task_id, root_task_id := task.root_task_id,
    parent_task_id := task.parent_task_id, from_agent := task.from_agent,
    to_agent := task.to_agent, conversation_id := task.conversation_id,
    reply_to := task.reply_to, text := task.text, priority := task.priority.value,
    depth := task.depth.toNat, hops := task.hops.toNat, deadline := task.deadline.map ts,
    version := task.version }

end

end GuiguBridge
