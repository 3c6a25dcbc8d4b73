import GuiguBridge.Storage.Codec

/-!
# Rows that read back

The writers of the store format instants, payloads and identities each in their own place; one
decoder reads them all.  This file says which texts that decoder takes.

* `LawfulCrates` — what the crates document about the texts they write and read.  **The strict
  reader takes the text of an instant exactly when its year has four digits**;
* `decodeTimestamp_ts_iff`, `decodePayload_payloadText` — the columns;
* `taskFromRow_taskToRow_iff` — a row of a task reads back to the task exactly when its instants
  do; `eventFromRow_iff` — which rows are read as an event;
* `getTask`, `latestEvent` — the reads of the repository.
-/

namespace GuiguBridge

/-- The year of an instant has four digits. -/
def DateTime.FourDigitYear (t : DateTime) : Prop := Rfc3339.FourDigitYear t.secs

instance (t : DateTime) : Decidable t.FourDigitYear :=
  inferInstanceAs (Decidable (Rfc3339.FourDigitYear t.secs))

section

variable [Externals]

/-- What the documentation of the crates says about the texts of the store. -/
structure LawfulCrates : Prop where
  /-- `to_rfc3339_opts` writes a year outside `0..=9999` with a sign, which
  `parse_from_rfc3339` refuses. -/
  rfc3339Nanos : ∀ t : DateTime, Externals.parseFromRfc3339 (Externals.rfc3339Nanos t) =
    if t.FourDigitYear then some t else none
  /-- The same of `to_rfc3339`. -/
  toRfc3339 : ∀ t : DateTime, Externals.parseFromRfc3339 (Externals.toRfc3339 t) =
    if t.FourDigitYear then some t else none
  /-- `FromStr` takes a signed year. -/
  serdeDateTime : ∀ t, Externals.parseDateTime (Externals.serdeDateTime t) = some t
  uuidText : ∀ u, Externals.parseUuid (Externals.uuidText u) = some u
  jsonText : ∀ payload, Externals.parseJson (Externals.jsonText (payloadToJson payload)) =
    some (payloadToJson payload)
  /-- The text `"queued"`, quotes included. -/
  queuedText : Externals.parseJson "\"queued\"" = some (.str "queued")
  /-- The text of an object with one field. -/
  kindText : Externals.parseJson "\x7b\"kind\":\"queued\"\x7d" =
    some (.obj [("kind", .str "queued")])

/-! ### Columns -/

theorem decodeTimestamp_ts_iff (laws : LawfulCrates) {t : DateTime} :
    decodeTimestamp (ts t) = some t ↔ t.FourDigitYear := by
  rw [decodeTimestamp, ts, laws.rfc3339Nanos]
  by_cases h : t.FourDigitYear
  · rw [if_pos h]
    exact iff_of_true rfl h
  · rw [if_neg h]
    exact iff_of_false (Option.some_ne_none t).symm h

/-- Serde reads every payload back from the document it wrote. -/
theorem payloadFromJson_payloadToJson (laws : LawfulCrates) (payload : TaskEventPayload) :
    payloadFromJson (payloadToJson payload) = some payload := by
  cases payload with
  | queued => rfl
  | dispatched delivery_id attempt =>
    have hle : 0 ≤ (attempt.toNat : Int) ∧ (attempt.toNat : Int) ≤ 4294967295 := by
      have h := attempt.toNat_lt
      omega
    show ((Externals.parseUuid (Externals.uuidText delivery_id.uuid)).bind fun uuid =>
      if 0 ≤ (attempt.toNat : Int) ∧ (attempt.toNat : Int) ≤ 4294967295 then
        some (TaskEventPayload.dispatched ⟨uuid⟩ (UInt32.ofNat (attempt.toNat : Int).toNat))
      else none) = _
    rw [laws.uuidText, Option.bind_some, if_pos hle, Int.toNat_natCast, UInt32.ofNat_toNat]
  | running started_at =>
    show ((Externals.parseDateTime (Externals.serdeDateTime started_at)).bind fun t =>
      some (TaskEventPayload.running t)) = _
    rw [laws.serdeDateTime, Option.bind_some]
  | completed output => rfl
  | failed error => rfl
  | timedOut deadline =>
    show ((Externals.parseDateTime (Externals.serdeDateTime deadline)).bind fun t =>
      some (TaskEventPayload.timedOut t)) = _
    rw [laws.serdeDateTime, Option.bind_some]
  | cancelled reason => rfl

theorem decodePayload_payloadText (laws : LawfulCrates) (payload : TaskEventPayload) :
    decodePayload (payloadText payload) = some payload := by
  rw [decodePayload, payloadText, laws.jsonText, Option.bind_some,
    payloadFromJson_payloadToJson laws]

theorem decodePayload_queued (laws : LawfulCrates) :
    decodePayload "\"queued\"" = some .queued := by
  rw [decodePayload, laws.queuedText]
  rfl

/-- **The document that a retry writes names no variant of the payload.** -/
theorem decodePayload_kind (laws : LawfulCrates) :
    decodePayload "\x7b\"kind\":\"queued\"\x7d" = none := by
  rw [decodePayload, laws.kindText]
  rfl

/-! ### Rows -/

/-- A row with the columns of a task reads back to it when the text of the deadline does. -/
theorem taskFromRow_iff {row : TaskRow} {task : AgentTask}
    (hrow : row = { taskToRow task with deadline := row.deadline }) :
    taskFromRow row = some task ↔
      decodeOptionalTimestamp row.deadline = some task.deadline := by
  have hpriority : decodePriority task.priority.value = some task.priority :=
    dif_pos task.priority.value_le
  have hu32 : ∀ n : UInt32, decodeU32 n.toNat = some n := by
    intro n
    rw [decodeU32, if_pos n.toNat_lt, UInt32.ofNat_toNat]
  have hread : taskFromRow row =
      (decodeOptionalTimestamp row.deadline).map fun d => { task with deadline := d } := by
    rw [hrow]
    simp only [taskFromRow, taskToRow, hpriority, hu32]
    cases decodeOptionalTimestamp row.deadline <;> rfl
  rw [hread]
  cases hd : decodeOptionalTimestamp row.deadline with
  | none => exact iff_of_false (Option.some_ne_none _).symm (Option.some_ne_none _).symm
  | some d =>
    simp only [Option.map_some, Option.some.injEq]
    refine ⟨fun h => ?_, fun h => ?_⟩
    · exact congrArg AgentTask.deadline h
    · subst h
      rfl

/-- The instants that the row of a task holds. -/
def AgentTask.Readable (task : AgentTask) : Prop :=
  ∀ deadline ∈ task.deadline, deadline.FourDigitYear

/-- **A task reads back from its row exactly when the year of its deadline has four
digits.** -/
theorem taskFromRow_taskToRow_iff (laws : LawfulCrates) {task : AgentTask} :
    taskFromRow (taskToRow task) = some task ↔ task.Readable := by
  rw [taskFromRow_iff rfl]
  show decodeOptionalTimestamp (task.deadline.map ts) = some task.deadline ↔ _
  rw [AgentTask.Readable]
  cases task.deadline with
  | none => exact iff_of_true rfl nofun
  | some t =>
    show (decodeTimestamp (ts t)).map some = some (some t) ↔ _
    have hmap : (decodeTimestamp (ts t)).map some = some (some t) ↔
        decodeTimestamp (ts t) = some t := by
      cases decodeTimestamp (ts t) <;> simp
    rw [hmap, decodeTimestamp_ts_iff laws]
    exact ⟨fun h d hd => Option.some.inj hd ▸ h, fun h => h t rfl⟩

/-- An event reads back from a row with its columns when the two texts do. -/
theorem eventFromRow_iff {row : EventRow} {event : TaskEvent}
    (hrow : row =
      { event_id := event.id, task_id := event.task_id, seq := event.seq,
        status := event.status, timestamp := row.timestamp, payload := row.payload }) :
    eventFromRow row = some event ↔
      decodeTimestamp row.timestamp = some event.timestamp ∧
        decodePayload row.payload = some event.payload := by
  have hread : eventFromRow row = (decodeTimestamp row.timestamp).bind fun t =>
      (decodePayload row.payload).map fun p => { event with timestamp := t, payload := p } := by
    rw [hrow]
    simp only [eventFromRow]
    cases decodeTimestamp row.timestamp with
    | none => rfl
    | some t => cases decodePayload row.payload <;> rfl
  rw [hread]
  cases decodeTimestamp row.timestamp with
  | none => simp
  | some t =>
    cases decodePayload row.payload with
    | none => simp
    | some p =>
      simp only [Option.bind_some, Option.map_some, Option.some.injEq]
      refine ⟨fun h => ?_, fun h => ?_⟩
      · exact ⟨congrArg TaskEvent.timestamp h, congrArg TaskEvent.payload h⟩
      · obtain ⟨rfl, rfl⟩ := h
        rfl

/-! ### Reads -/

/-- `Repository::get_task`; `none` is a row that does not decode. -/
def getTask (db : Db) (task_id : TaskId) : Option (Option AgentTask) :=
  match db.tasks.get task_id with
  | none => some none
  | some row => (taskFromRow row).map some

/-- `Repository::latest_event`. -/
def latestEvent (db : Db) (task_id : TaskId) : Option (Option TaskEvent) :=
  match ((db.taskEvents.rows.filter (·.task_id = task_id)).mergeSort
    (fun a b => decide (b.seq ≤ a.seq))).head? with
  | none => some none
  | some row => (eventFromRow row).map some

end

end GuiguBridge
