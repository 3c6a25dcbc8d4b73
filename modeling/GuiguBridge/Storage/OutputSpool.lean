import GuiguBridge.Lib.Totals
import GuiguBridge.Runtime.TerminalClosure
import Mathlib.Data.List.Sort

/-!
# The durable output spool

Output that a task produced waits on disk in segments until it is delivered, under one quota
for the whole process (`src/src/storage/output_spool.rs`, `output_delivery.rs`).

* `OutputSpoolStore` — the store with its quota limit, an `i64`;
* `updateQuota` — a guarded update of the one quota row, under the table's checks;
* `prepareTask` … `finishCleanup` — the operations.  Those that open a transaction are
  bodies of `Tx.commit`; `prepareTask`, `adoptReserved` and `activatePrepared` are single
  statements that commit by themselves;
* `verifyQuota` — the check that startup runs on the counters.
-/

namespace GuiguBridge

open Relational

inductive OutputStoreError where
  | sql | quota | conflict | malformed
  deriving DecidableEq

structure OutputSegment where
  set_id : String
  index : Nat
  byte_start : Nat
  byte_end : Nat
  content_hash : String
  relative_name : String
  reservation_owner : String
  state : SegmentState
  deriving DecidableEq

structure DeliveryPart where
  index : Int
  spool_index : Int
  byte_start : Int
  byte_end : Int
  content_hash : String
  stable_txn_id : String
  deriving DecidableEq

/-- `OutputSpoolStore`; `new` refuses a limit that is no `i64`. -/
structure OutputSpoolStore where
  quota_limit : Nat
  quota_limit_lt : quota_limit < 2 ^ 63

/-- `decode_segment`. -/
def decodeSegment (row : SegmentRow) : OutputSegment :=
  { set_id := row.set_id, index := row.segment_index, byte_start := row.byte_start,
    byte_end := row.byte_end, content_hash := row.content_hash,
    relative_name := row.relative_name, reservation_owner := row.reservation_owner,
    state := row.state }

/-- The segments of a set in one of `states`, `ORDER BY segment_index`. -/
def Db.segmentsOf (db : Db) (set_id : String) (states : List SegmentState) : List SegmentRow :=
  (db.acpOutputSegments.rows.filter fun r => decide (r.set_id = set_id ∧ r.state ∈ states))
    |>.insertionSort fun a b => a.segment_index ≤ b.segment_index

/-- `SELECT COALESCE(SUM(byte_length),0) … WHERE set_id=? AND state IN (…)`. -/
def Db.bytesOf (db : Db) (set_id : String) (states : List SegmentState) : Nat :=
  db.acpOutputSegments.sumWhere (fun r => decide (r.set_id = set_id ∧ r.state ∈ states))
    SegmentRow.byte_length

/-- An `UPDATE` of the quota row where `p` holds, returning the number of rows: an integer
that leaves the 64 bits or goes below zero is refused by the table. -/
def updateQuota (p : QuotaRow → Bool) (f : QuotaRow → QuotaRow) :
    Tx Db OutputStoreError Nat := fun db =>
  let q := f db.acpOutputQuota
  if p db.acpOutputQuota then
    if 0 ≤ q.reserved_bytes ∧ 0 ≤ q.landed_bytes ∧ q.reserved_bytes < 2 ^ 63 ∧
        q.landed_bytes < 2 ^ 63 then
      .ok (1, { db with acpOutputQuota := q })
    else .error .sql
  else .ok (0, db)

/-- A set that still takes segments. -/
def Db.assembling (db : Db) (set_id : String) : Bool :=
  db.acpOutputSets.rows.any fun s => decide (s.set_id = set_id ∧ s.state = .assembling)

/-! ### Opening and closing sets -/

section

variable [Externals]

/-- The namespace of set identities. -/
def outputSetNamespace : Uuid := 0x64c52b8d26ef57a0a0c16d460bb30dca#128

/-- The set of a turn. -/
def outputSetId (task_id : TaskId) (attempt turn : Nat) : String :=
  Externals.uuidText (Externals.newV5 outputSetNamespace
    (Externals.uuidText task_id.uuid ++ "\x00" ++ toString attempt ++ "\x00" ++ toString turn))

/-- `task_continuations c JOIN deliveries d … JOIN task_admissions a … WHERE c.task_id=? AND
c.state='in_flight'`. -/
def Db.inFlightTurn (db : Db) (task_id : TaskId) :
    Option (ContinuationRow × DeliveryRow × AdmissionRow) := do
  let (c, d) ← db.continuationDelivery task_id
  let a ← db.taskAdmissions.get task_id
  if c.state = .inFlight then some (c, d, a) else none

/-- The set that `prepare_task` opens. -/
def newOutputSet (c : ContinuationRow) (d : DeliveryRow) (a : AdmissionRow) (room now : String) :
    OutputSetRow :=
  { set_id := outputSetId c.task_id d.attempt (c.completed_turns + 1), task_id := c.task_id,
    attempt := d.attempt, turn := c.completed_turns + 1,
    runtime_fence := c.runtime_generation, room_id := room,
    thread_root := a.reply_thread_root, reply_event_id := a.reply_event_id,
    render_version := a.render_version.getD "v1", total_bytes := none, total_hash := none,
    segment_count := none, acknowledged_cursor := -1, state := .assembling,
    claim_owner := none, claim_revision := 0, attempt_count := 0, failure_class := none,
    created_at := now, updated_at := now }

/-- `prepare_task`.  Its three statements are no transaction: the store is `seen` when it
reads the turn and `late` when it asks which set won. -/
def prepareTask (seen late : Db) (task_id : TaskId) (now : String) (db : Db) :
    Except OutputStoreError (Option String) × Db :=
  match seen.inFlightTurn task_id with
  | none => (.ok none, db)
  | some (c, d, a) =>
    match a.reply_room with
    | none => (.ok none, db)
    | some room =>
      let set := newOutputSet c d a room now
      let sameTurn : OutputSetRow → Bool := fun s =>
        decide (s.task_id = task_id ∧ s.attempt = set.attempt ∧ s.turn = set.turn)
      let winner := (late.acpOutputSets.rows.find? fun s =>
        sameTurn s && s.state = .assembling).map (·.set_id)
      let answer : Except OutputStoreError (Option String) :=
        if winner = some set.set_id then .ok (some set.set_id) else .error .conflict
      if db.acpOutputSets.rows.any sameTurn then (answer, db)
      else if set.attempt = 0 then (.error .sql, db)
      else
        match db.acpOutputSets.insert set with
        | none => (.error .sql, db)
        | some t => (answer, { db with acpOutputSets := t })

end

/-- The segment, its file removed. -/
def SegmentRow.clean (now : String) (r : SegmentRow) : SegmentRow :=
  { r with state := .cleaned, revision := r.revision + 1, updated_at := now }

theorem SegmentRow.clean_key (now : String) (r : SegmentRow) : (r.clean now).key = r.key := rfl

/-- `abandon`. -/
def abandon (set_id now : String) (db : Db) :
    Except OutputStoreError (List OutputSegment) × Db :=
  Tx.commit .error (do
    let segments ← Tx.read fun db => (db.segmentsOf set_id [.reserved, .landed]).map decodeSegment
    let sum ← Tx.read fun db => db.bytesOf set_id [.reserved, .landed]
    let bytes ← Tx.orElse (toI64 sum) .sql
    let changed ← Tx.update Db.acpOutputSetsL
      (fun s => decide (s.set_id = set_id ∧ (s.state = .assembling ∨ s.state = .prepared)))
      (fun s => { s with state := .abandoned, total_bytes := some bytes, total_hash := some "",
                         segment_count := some segments.length, updated_at := now })
    Tx.require (changed = 1) .conflict
    pure (.ok segments)) db

/-- `finish_abandon`: the bytes of a set are given back and its segments forgotten. -/
def finishAbandon (set_id now : String) (db : Db) : Except OutputStoreError Unit × Db :=
  Tx.commit .error (do
    let reserved ← Tx.read fun db => db.bytesOf set_id [.reserved]
    let reserved ← Tx.orElse (toI64 reserved) .sql
    let landed ← Tx.read fun db => db.bytesOf set_id [.landed]
    let landed ← Tx.orElse (toI64 landed) .sql
    let quota ← updateQuota
      (fun q => decide ((reserved : Int) ≤ q.reserved_bytes ∧ (landed : Int) ≤ q.landed_bytes))
      (fun q => { q with reserved_bytes := q.reserved_bytes - reserved,
                         landed_bytes := q.landed_bytes - landed, revision := q.revision + 1 })
    let _ ← Tx.update Db.acpOutputSegmentsL
      (fun r => decide (r.set_id = set_id ∧ r.state ∈ [SegmentState.reserved, .landed]))
      (SegmentRow.clean now) (SegmentRow.clean_key now)
    Tx.require (quota = 1) .conflict
    pure (.ok ())) db

/-- `validate_segments`: the segments of the set are landed and cover its bytes in order. -/
def validateSegments (rows : List SegmentRow) (total : Int) : Bool :=
  let step : Option (Nat × Nat) → SegmentRow → Option (Nat × Nat) := fun acc row =>
    acc.bind fun (expected, stop) =>
      if row.segment_index = expected ∧ row.byte_start = stop ∧ row.state = .landed then
        some (expected + 1, row.byte_end)
      else none
  match rows.foldl step (some (0, 0)) with
  | some (_, stop) => decide ((stop : Int) = total)
  | none => false

/-- The loop of `seal_set` over the delivery parts: each continues the one before it, lies in
one segment, and gets its row.  The value is where the last one stops. -/
def sealDeliveries (set_id : String) :
    Nat → Int → List DeliveryPart → Tx Db OutputStoreError Int
  | _, stop, [] => pure stop
  | expected, stop, part :: rest => do
    Tx.require (part.index = expected ∧ part.byte_start = stop ∧ part.byte_start ≤ part.byte_end)
      .malformed
    let covered ← Tx.read fun db => db.acpOutputSegments.affected fun r =>
      decide (r.set_id = set_id ∧ (r.segment_index : Int) = part.spool_index ∧
        (r.byte_start : Int) ≤ part.byte_start ∧ part.byte_end ≤ (r.byte_end : Int))
    Tx.require (covered = 1) .malformed
    let taken ← Tx.read fun db => db.acpOutputDeliverySegments.rows.any fun d =>
      decide (d.stable_txn_id = part.stable_txn_id)
    Tx.require (!taken) .sql
    Tx.insert Db.acpOutputDeliverySegmentsL
      { set_id := set_id, delivery_index := part.index, spool_index := part.spool_index,
        byte_start := part.byte_start, byte_end := part.byte_end,
        content_hash := part.content_hash, stable_txn_id := part.stable_txn_id } .sql
    sealDeliveries set_id (expected + 1) part.byte_end rest

/-- `seal_set`. -/
def sealSet (set_id : String) (total_bytes : Int) (total_hash : String) (count : Int)
    (deliveries : List DeliveryPart) (now : String) (db : Db) :
    Except OutputStoreError Unit × Db :=
  Tx.commit .error (do
    Tx.require (count = deliveries.length) .malformed
    let rows ← Tx.read fun db => db.segmentsOf set_id [.reserved, .landed, .cleaned, .quarantined]
    Tx.require (validateSegments rows total_bytes) .malformed
    let stop ← sealDeliveries set_id 0 0 deliveries
    Tx.require (stop = total_bytes) .malformed
    let changed ← Tx.update Db.acpOutputSetsL
      (fun s => decide (s.set_id = set_id ∧ s.state = .assembling))
      (fun s => { s with state := .prepared, total_bytes := some total_bytes.toNat,
                         total_hash := some total_hash, segment_count := some count.toNat,
                         updated_at := now })
    Tx.require (changed = 1) .conflict
    pure (.ok ())) db

/-- `activate_prepared`: a prepared set is sealed once its task's last event is a
completion. -/
def activatePrepared (set_id now : String) (db : Db) : Except OutputStoreError Bool × Db :=
  let p : OutputSetRow → Bool := fun s =>
    decide (s.set_id = set_id ∧ s.state = .prepared) &&
      db.taskEvents.rows.any fun e => decide (e.task_id = s.task_id ∧ e.status = .completed ∧
        db.maxSeq e.task_id = some e.seq)
  let sets := db.acpOutputSets.updateWhere p
    (fun s => { s with state := .sealed, updated_at := now })
  (.ok (db.acpOutputSets.affected p = 1), { db with acpOutputSets := sets })

/-! ### Segments -/

/-- The segment that an operation names by set, index and owner, while it is reserved. -/
def isReservation (set_id : String) (index : Int) (owner : String) (r : SegmentRow) : Bool :=
  decide (r.set_id = set_id ∧ (r.segment_index : Int) = index ∧ r.state = .reserved ∧
    r.reservation_owner = owner)

/-- The segment, its file in place. -/
def SegmentRow.land (now : String) (r : SegmentRow) : SegmentRow :=
  { r with state := .landed, revision := r.revision + 1, updated_at := now }

theorem SegmentRow.land_key (now : String) (r : SegmentRow) : (r.land now).key = r.key := rfl

/-- The segment under another owner. -/
def SegmentRow.adopt (owner : String) (r : SegmentRow) : SegmentRow :=
  { r with reservation_owner := owner, revision := r.revision + 1 }

theorem SegmentRow.adopt_key (owner : String) (r : SegmentRow) :
    (r.adopt owner).key = r.key := rfl

/-- `reserve_segment`. -/
def reserveSegment (spool : OutputSpoolStore) (set_id : String) (index start bytes : Int)
    (hash name owner now : String) (db : Db) : Except OutputStoreError Unit × Db :=
  Tx.commit .error (do
    Tx.require (0 ≤ bytes) .malformed
    let quota ← updateQuota
      (fun q => decide (q.reserved_bytes + q.landed_bytes + bytes ≤ spool.quota_limit))
      (fun q => { q with reserved_bytes := q.reserved_bytes + bytes, revision := q.revision + 1 })
    Tx.require (quota = 1) .quota
    let assembling ← Tx.read fun db => db.assembling set_id
    Tx.require assembling .conflict
    -- the checks and the second key of the segment table
    Tx.require (0 ≤ index ∧ 0 ≤ start ∧ start + bytes < 2 ^ 63) .sql
    let taken ← Tx.read fun db => db.acpOutputSegments.rows.any fun r =>
      decide (r.set_id = set_id ∧ r.relative_name = name)
    Tx.require (!taken) .sql
    Tx.insert Db.acpOutputSegmentsL
      { set_id := set_id, segment_index := index.toNat, byte_start := start.toNat,
        byte_length := bytes.toNat, content_hash := hash, relative_name := name,
        state := .reserved, reservation_owner := owner, revision := 0, created_at := now,
        updated_at := now } .sql
    pure (.ok ())) db

/-- `land_segment`. -/
def landSegment (set_id : String) (index : Int) (owner now : String) (db : Db) :
    Except OutputStoreError Unit × Db :=
  Tx.commit .error (do
    let found ← Tx.read fun db =>
      db.acpOutputSegments.rows.find? (isReservation set_id index owner)
    let row ← Tx.orElse found .conflict
    let _ ← Tx.update Db.acpOutputSegmentsL (isReservation set_id index owner)
      (SegmentRow.land now) (SegmentRow.land_key now)
    let changed ← updateQuota (fun q => decide ((row.byte_length : Int) ≤ q.reserved_bytes))
      (fun q => { q with reserved_bytes := q.reserved_bytes - row.byte_length,
                         landed_bytes := q.landed_bytes + row.byte_length,
                         revision := q.revision + 1 })
    Tx.require (changed = 1) .conflict
    pure (.ok ())) db

/-- `release_reserved`. -/
def releaseReserved (set_id : String) (index : Int) (owner : String) (db : Db) :
    Except OutputStoreError Unit × Db :=
  Tx.commit .error (do
    let found ← Tx.read fun db =>
      db.acpOutputSegments.rows.find? (isReservation set_id index owner)
    let row ← Tx.orElse found .conflict
    Tx.delete Db.acpOutputSegmentsL (isReservation set_id index owner)
    let changed ← updateQuota (fun q => decide ((row.byte_length : Int) ≤ q.reserved_bytes))
      (fun q => { q with reserved_bytes := q.reserved_bytes - row.byte_length,
                         revision := q.revision + 1 })
    Tx.require (changed = 1) .conflict
    pure (.ok ())) db

/-- `adopt_reserved`. -/
def adoptReserved (set_id : String) (index : Int) (owner : String) (db : Db) :
    Except OutputStoreError Unit × Db :=
  let p : SegmentRow → Bool := fun r =>
    decide (r.set_id = set_id ∧ (r.segment_index : Int) = index ∧ r.state = .reserved) &&
      db.assembling set_id
  let segments := db.acpOutputSegments.updateWhere p (SegmentRow.adopt owner)
    (SegmentRow.adopt_key owner)
  (if db.acpOutputSegments.affected p = 1 then .ok () else .error .conflict,
    { db with acpOutputSegments := segments })

/-! ### Cleaning up -/

/-- `begin_cleanup`. -/
def beginCleanup (set_id now : String) (db : Db) :
    Except OutputStoreError (List OutputSegment) × Db :=
  Tx.commit .error (do
    let changed ← Tx.update Db.acpOutputSetsL
      (fun s => decide (s.set_id = set_id ∧ (s.state = .delivered ∨ s.state = .cleaning)))
      (fun s => { s with state := .cleaning, claim_revision := s.claim_revision + 1,
                         updated_at := now })
    Tx.require (changed = 1) .conflict
    let rows ← Tx.read fun db => db.segmentsOf set_id [.landed]
    pure (.ok (rows.map decodeSegment))) db

/-- `finish_cleanup`. -/
def finishCleanup (set_id now : String) (db : Db) : Except OutputStoreError Unit × Db :=
  Tx.commit .error (do
    let sum ← Tx.read fun db => db.bytesOf set_id [.landed]
    let bytes ← Tx.orElse (toI64 sum) .sql
    let _ ← Tx.update Db.acpOutputSegmentsL
      (fun r => decide (r.set_id = set_id ∧ r.state ∈ [SegmentState.landed]))
      (SegmentRow.clean now) (SegmentRow.clean_key now)
    let quota ← updateQuota (fun q => decide ((bytes : Int) ≤ q.landed_bytes))
      (fun q => { q with landed_bytes := q.landed_bytes - bytes, revision := q.revision + 1 })
    let set ← Tx.update Db.acpOutputSetsL
      (fun s => decide (s.set_id = set_id ∧ s.state = .cleaning))
      (fun s => { s with state := .cleaned, claim_owner := none, updated_at := now })
    Tx.require (quota = 1 ∧ set = 1) .conflict
    pure (.ok ())) db

/-- `verify_quota`: the counters against the segments, and their sum against the limit. -/
def verifyQuota (spool : OutputSpoolStore) (db : Db) : Except OutputStoreError Unit :=
  let reserved := db.acpOutputSegments.sumWhere (fun r => decide (r.state = .reserved))
    SegmentRow.byte_length
  let landed := db.acpOutputSegments.sumWhere
    (fun r => decide (r.state ∈ [SegmentState.landed, .quarantined])) SegmentRow.byte_length
  if db.acpOutputQuota.reserved_bytes ≠ reserved ∨ db.acpOutputQuota.landed_bytes ≠ landed ∨
      (spool.quota_limit : Int) <
        min (db.acpOutputQuota.reserved_bytes + db.acpOutputQuota.landed_bytes) (2 ^ 63 - 1) then
    .error .malformed
  else .ok ()

end GuiguBridge
