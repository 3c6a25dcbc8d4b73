import GuiguBridge.Lib.Revisions
import GuiguBridge.Lib.Text
import GuiguBridge.Storage.Admission

/-!
# The evidence of runtime owners

A runtime writes down who it is (`src/src/storage/owner_lifecycle.rs`): each heartbeat, the stop
and the final observation are new revisions of one record, and the old ones stay.

* `OwnerDb` — the instances and their evidence;
* `beginRuntimeWithEvidence`, `publishOwnerHeartbeat`, `stoppingRuntime`, `finalizeOwner` — the
  calls, as the store runs them;
* `EvidenceInv` — each instance has one chain of revisions;
* `owner_evidence_chain` — **the chain in every run**.
-/

namespace GuiguBridge

open Relational

/-! ### The rows -/

inductive EvidenceState where
  | observing | live | scanPending | unknown | changed | reaped
  deriving DecidableEq

inductive BarrierState where
  | opened | closing | closedJoined
  deriving DecidableEq

inductive ChildScanState where
  | completeZeroEscaped | completeWithListedMembers | overflow | inaccessible | racedChanged
  deriving DecidableEq

structure OwnerEvidenceRow where
  instance_token : String
  runtime_generation : Nat
  evidence_revision : Nat
  state : EvidenceState
  pid : Int
  proc_starttime : Int
  process_fingerprint : String
  boot_id : String
  boottime_ns : Int
  captured_at : String
  barrier_epoch : Int
  barrier_state : BarrierState
  in_flight_spawns : Nat
  child_scan_state : ChildScanState
  child_snapshot : String
  is_current : Bool
  max_age_seconds : Int
  deriving DecidableEq

namespace OwnerEvidenceRow

/-- `PRIMARY KEY (instance_token, runtime_generation, evidence_revision)`. -/
def key (r : OwnerEvidenceRow) : String × Nat × Nat :=
  (r.instance_token, r.runtime_generation, r.evidence_revision)

/-- The checks of the table. -/
def check (r : OwnerEvidenceRow) : Bool :=
  decide (1 ≤ r.runtime_generation ∧ 1 ≤ r.evidence_revision ∧ 0 < r.pid ∧
    0 ≤ r.proc_starttime ∧ 0 ≤ r.boottime_ns ∧ 0 ≤ r.barrier_epoch ∧
    1 ≤ r.max_age_seconds ∧ r.max_age_seconds ≤ 300)

/-- `SET is_current=0`. -/
def demote (r : OwnerEvidenceRow) : OwnerEvidenceRow := { r with is_current := false }

/-- Whose evidence it is. -/
def identity (r : OwnerEvidenceRow) : Int × Int × String × String × Nat :=
  (r.pid, r.proc_starttime, r.process_fingerprint, r.boot_id, r.runtime_generation)

end OwnerEvidenceRow

/-- The rows as revisions of their instance. -/
def ownerRevisions : Revisions String OwnerEvidenceRow where
  owner := OwnerEvidenceRow.instance_token
  revision := OwnerEvidenceRow.evidence_revision
  current := OwnerEvidenceRow.is_current
  demote := OwnerEvidenceRow.demote
  owner_demote _ := rfl
  revision_demote _ := rfl
  current_demote _ := rfl
  demote_eq r h := by
    unfold OwnerEvidenceRow.demote
    rw [← h]

/-- `runtime_instances` and `runtime_owner_evidence`. -/
structure OwnerDb where
  runtimeInstances : Table RuntimeInstanceRow.instance_token
  runtimeOwnerEvidence : Table OwnerEvidenceRow.key
  deriving DecidableEq

namespace OwnerDb

def empty : OwnerDb := ⟨Table.empty, Table.empty⟩

abbrev runtimeInstancesL : Lens OwnerDb (Table RuntimeInstanceRow.instance_token) :=
  ⟨runtimeInstances, fun t db => { db with runtimeInstances := t }⟩

abbrev runtimeOwnerEvidenceL : Lens OwnerDb (Table OwnerEvidenceRow.key) :=
  ⟨runtimeOwnerEvidence, fun t db => { db with runtimeOwnerEvidence := t }⟩

end OwnerDb

/-! ### What a runtime shows of itself -/

structure RuntimeOwnerEvidence where
  pid : Int
  proc_starttime : Int
  boot_id : String
  boottime_ns : Int
  deriving DecidableEq

inductive ScanOutcome where
  | complete | listedMembers | overflow | inaccessible | raced | unavailable
  deriving DecidableEq

structure FinalObservation where
  outcome : ScanOutcome
  epoch : Int
  generation : String
  identity : Option (Nat × Nat)
  members : List Nat
  contained : Bool
  deriving DecidableEq

def FinalObservation.boundTo (o : FinalObservation) (generation : String) : Bool :=
  decide (o.generation = generation)

def FinalObservation.qualifies (o : FinalObservation) (epoch : Int) : Bool :=
  o.contained && decide (o.outcome = .complete) && o.members.isEmpty && o.identity.isSome &&
    !o.generation.isEmpty && decide (o.epoch = epoch) && decide (0 < epoch)

def ScanOutcome.text : ScanOutcome → String
  | complete => "Complete"
  | listedMembers => "ListedMembers"
  | overflow => "Overflow"
  | inaccessible => "Inaccessible"
  | raced => "Raced"
  | unavailable => "Unavailable"

/-- `Serialize`. -/
def FinalObservation.toJson (o : FinalObservation) : Json :=
  .obj [("outcome", .str o.outcome.text), ("epoch", .num o.epoch),
    ("generation", .str o.generation),
    ("identity", match o.identity with
      | some (dev, ino) => .arr [.num dev, .num ino]
      | none => .null),
    ("members", .arr (o.members.map fun m => .num m)), ("contained", .bool o.contained)]

/-- `DateTime::signed_duration_since`, in nanoseconds: a leap second between the two instants of
a day counts. -/
def DateTime.signedDurationSince (t u : DateTime) : Int :=
  let adjust : Int :=
    if u.secs % 86400 < t.secs % 86400 ∧ 1000000000 ≤ u.frac then 1
    else if t.secs % 86400 < u.secs % 86400 ∧ 1000000000 ≤ t.frac then -1
    else 0
  (t.secs - u.secs + adjust) * 1000000000 + ((t.frac : Int) - u.frac)

section

variable [Externals]

def freshTimestamp (timestamp observed : String) (window : Int) : Bool :=
  decide (1 ≤ window ∧ window ≤ 300) &&
    match Externals.parseFromRfc3339 timestamp, Externals.parseFromRfc3339 observed with
    | some timestamp, some observed =>
      let age := observed.signedDurationSince timestamp
      decide (-5 * 1000000000 ≤ age ∧ age ≤ window * 1000000000)
    | _, _ => false

/-- `current_timestamp`; `clock` is what `Utc::now` shows. -/
def currentTimestamp (clock : DateTime) (timestamp : String) : Bool :=
  freshTimestamp timestamp (Externals.toRfc3339 clock) 30

def validOwnerClock (clock : DateTime) (evidence : RuntimeOwnerEvidence) (now : String) : Bool :=
  !(Text.isBlank evidence.boot_id.toList || decide (evidence.boottime_ns ≤ 0) ||
    decide (evidence.pid ≤ 0) || decide (evidence.proc_starttime ≤ 0)) &&
  currentTimestamp clock now

omit [Externals] in
def bootIdentityMatches (expected observed : String) : Bool :=
  !expected.isEmpty && decide (expected = observed)

omit [Externals] in
def boottimeMonotonic (previous observed : Int) : Bool :=
  decide (0 < previous ∧ previous ≤ observed)

/-- `matches_clock`. -/
def matchesClock (max_age : Int) (clock : DateTime) (row : OwnerEvidenceRow)
    (fingerprint now : String) (evidence : RuntimeOwnerEvidence) : Bool :=
  validOwnerClock clock evidence now &&
  freshTimestamp row.captured_at now max_age &&
  bootIdentityMatches row.boot_id evidence.boot_id &&
  boottimeMonotonic row.boottime_ns evidence.boottime_ns &&
  decide (evidence.boottime_ns - row.boottime_ns ≤ max_age * 1000000000) &&
  decide (row.pid = evidence.pid) &&
  decide (row.proc_starttime = evidence.proc_starttime) &&
  decide (row.process_fingerprint = fingerprint) &&
  decide (row.max_age_seconds = max_age)

/-- Both texts name the same instant. -/
def sameCapture (now captured_at : String) : Bool :=
  match Externals.parseFromRfc3339 now, Externals.parseFromRfc3339 captured_at with
  | some now, some previous => decide (now = previous)
  | _, _ => false

end

/-! ### The calls -/

/-- A transaction over the evidence; every early return is the answer of its call. -/
abbrev OwnerTx := Tx OwnerDb (Except ReliabilityError Bool)

/-- `INSERT INTO runtime_owner_evidence`: the checks, the index of current rows, the key. -/
def insertEvidence (row : OwnerEvidenceRow) : OwnerTx Unit := do
  Tx.require row.check (.error (.sql .constraint))
  let taken ← Tx.read fun db => db.runtimeOwnerEvidence.rows.any fun r =>
    decide (r.instance_token = row.instance_token) && r.is_current
  Tx.require (!(row.is_current && taken)) (.error (.sql .constraint))
  Tx.insert OwnerDb.runtimeOwnerEvidenceL row (.error (.sql .constraint))

def insertEach : List OwnerEvidenceRow → OwnerTx Unit
  | [] => pure ()
  | row :: rows => do
    insertEvidence row
    insertEach rows

/-- The two statements of every writer: the current row loses its mark, and the row of
`revision` is inserted again under `f` with it. -/
def supersede (token : String) (revision : Nat) (f : OwnerEvidenceRow → OwnerEvidenceRow) :
    OwnerTx Unit := do
  let _ ← Tx.update OwnerDb.runtimeOwnerEvidenceL
    (fun r => decide (r.instance_token = token) && r.is_current) OwnerEvidenceRow.demote
  let rows ← Tx.read fun db => db.runtimeOwnerEvidence.rows.filter fun r =>
    decide (r.instance_token = token ∧ r.evidence_revision = revision)
  insertEach (rows.map fun r => { f r with is_current := true })

namespace OwnerDb

/-- `SELECT e.* FROM runtime_owner_evidence e … WHERE e.instance_token=? AND e.is_current=1 AND
e.state=?`. -/
def currentEvidence (db : OwnerDb) (token : String) (state : EvidenceState) :
    Option OwnerEvidenceRow :=
  db.runtimeOwnerEvidence.rows.find? fun r =>
    decide (r.instance_token = token) && r.is_current && decide (r.state = state)

/-- The same, joined with the instance in state `owner`. -/
def currentOwner (db : OwnerDb) (token : String) (state : EvidenceState) (owner : InstanceState) :
    Option OwnerEvidenceRow :=
  if (db.runtimeInstances.get token).map RuntimeInstanceRow.state = some owner then
    db.currentEvidence token state
  else none

/-- `count(*),min(evidence_revision),max(evidence_revision)` of an instance and generation. -/
def evidenceChain (db : OwnerDb) (token : String) (generation : Nat) :
    Nat × Option Nat × Option Nat :=
  let revisions := (db.runtimeOwnerEvidence.rows.filter fun r =>
    decide (r.instance_token = token ∧ r.runtime_generation = generation)).map
      OwnerEvidenceRow.evidence_revision
  (revisions.length, revisions.min?, revisions.max?)

section

variable [Externals]

/-- `begin_runtime_with_evidence`. -/
def beginRuntimeWithEvidence (max_age : Int) (clock : DateTime) (token fingerprint now : String)
    (evidence : RuntimeOwnerEvidence) (db : OwnerDb) : Except ReliabilityError Bool × OwnerDb :=
  if !validOwnerClock clock evidence now || Text.isBlank fingerprint.toList then (.ok false, db)
  else
    Tx.commit id (do
      -- a unique index admits one active instance
      let active ← Tx.read fun db =>
        db.runtimeInstances.rows.any fun r => decide (r.state = .active)
      Tx.require (!active) (.ok false)
      let inserted ← Tx.insertOrIgnore runtimeInstancesL
        { instance_token := token, started_at := now, heartbeat_at := now, state := .active,
          process_fingerprint := fingerprint }
      Tx.require (inserted = 1) (.ok false)
      insertEvidence
        { instance_token := token, runtime_generation := 1, evidence_revision := 1,
          state := .live, pid := evidence.pid, proc_starttime := evidence.proc_starttime,
          process_fingerprint := fingerprint, boot_id := evidence.boot_id,
          boottime_ns := evidence.boottime_ns, captured_at := now, barrier_epoch := 0,
          barrier_state := .opened, in_flight_spawns := 0, child_scan_state := .inaccessible,
          child_snapshot := "\x7b\x7d", is_current := true, max_age_seconds := max_age }
      pure (.ok true)) db

/-- `publish_owner_heartbeat`. -/
def publishOwnerHeartbeat (max_age : Int) (clock : DateTime) (token fingerprint now : String)
    (evidence : RuntimeOwnerEvidence) (db : OwnerDb) : Except ReliabilityError Bool × OwnerDb :=
  Tx.commit id (do
    let found ← Tx.read fun db => db.currentOwner token .live .active
    let current ← Tx.orElse found (.ok false)
    let valid := matchesClock max_age clock current fingerprint now evidence &&
      !sameCapture now current.captured_at
    Tx.require (current.evidence_revision + 1 < 2 ^ 63) (.error .malformed)
    supersede token current.evidence_revision fun r =>
      { r with evidence_revision := current.evidence_revision + 1,
               state := if valid then .live else .unknown,
               boottime_ns := if valid then evidence.boottime_ns else current.boottime_ns,
               captured_at := now }
    if valid then do
      let _ ← Tx.update runtimeInstancesL
        (fun r => decide (r.instance_token = token ∧ r.state = .active))
        (fun r => { r with heartbeat_at := now })
        (RuntimeInstanceRow.heartbeat_key now)
      pure (.ok valid)
    else pure (.ok valid)) db

/-- `finalize_owner`. -/
def finalizeOwner (max_age : Int) (clock : DateTime) (token now : String)
    (evidence : RuntimeOwnerEvidence) (observation : FinalObservation) (db : OwnerDb) :
    Except ReliabilityError Bool × OwnerDb :=
  Tx.commit id (do
    let found ← Tx.read fun db => db.currentOwner token .scanPending .stopping
    let row ← Tx.orElse found (.ok false)
    let chain ← Tx.read fun db => db.evidenceChain token row.runtime_generation
    Tx.require (observation.qualifies observation.epoch && observation.boundTo token &&
      matchesClock max_age clock row row.process_fingerprint now evidence &&
      decide (chain = (row.evidence_revision, some 1, some row.evidence_revision))) (.ok false)
    Tx.require (row.evidence_revision + 1 < 2 ^ 63) (.error .malformed)
    supersede token row.evidence_revision fun r =>
      { r with evidence_revision := row.evidence_revision + 1, state := .reaped,
               boottime_ns := evidence.boottime_ns, captured_at := now,
               barrier_epoch := observation.epoch, barrier_state := .closedJoined,
               in_flight_spawns := 0, child_scan_state := .completeZeroEscaped,
               child_snapshot := Externals.jsonText observation.toJson }
    let stopped ← Tx.update runtimeInstancesL
      (fun r => decide (r.instance_token = token ∧ r.state = .stopping))
      (fun r => { r with state := .stopped, heartbeat_at := now })
      (RuntimeInstanceRow.state_key .stopped now)
    Tx.require (stopped = 1) (.ok false)
    pure (.ok true)) db

end

/-- `stopping_runtime`. -/
def stoppingRuntime (token now : String) (db : OwnerDb) :
    Except ReliabilityError Bool × OwnerDb :=
  Tx.commit id (do
    let changed ← Tx.update runtimeInstancesL
      (fun r => decide (r.instance_token = token ∧ r.state = .active))
      (fun r => { r with state := .stopping, heartbeat_at := now })
      (RuntimeInstanceRow.state_key .stopping now)
    Tx.require (changed = 1) (.ok false)
    let found ← Tx.read fun db => db.currentEvidence token .live
    match found with
    | some row => do
      Tx.require (row.evidence_revision + 1 < 2 ^ 63) (.error .malformed)
      supersede token row.evidence_revision fun r =>
        { r with evidence_revision := row.evidence_revision + 1, state := .scanPending }
      pure (.ok true)
    | none => pure (.ok true)) db

/-- `stop_runtime`. -/
def stopRuntime (token now : String) (db : OwnerDb) : Except ReliabilityError Bool × OwnerDb :=
  Tx.commit id (do
    let changed ← Tx.update runtimeInstancesL
      (fun r => decide (r.instance_token = token ∧ (r.state = .active ∨ r.state = .stopping)))
      (fun r => { r with state := .stopped, heartbeat_at := now })
      (RuntimeInstanceRow.state_key .stopped now)
    pure (.ok (changed = 1))) db

end OwnerDb

/-! ### One more revision -/

/-- A revision and a later one: the same runtime, and a boot clock that did not go back. -/
def OwnerLink (r r' : OwnerEvidenceRow) : Prop :=
  r'.identity = r.identity ∧ r.boottime_ns ≤ r'.boottime_ns

/-- The chain of an instance. -/
structure OwnerChain (db : OwnerDb) (token : String) (n : Nat) : Prop where
  chain : ownerRevisions.Chain db.runtimeOwnerEvidence token n
  along : ownerRevisions.Along OwnerLink db.runtimeOwnerEvidence token
  begun : n = 0 ↔ db.runtimeInstances.get token = none
  reaped : ∀ r ∈ db.runtimeOwnerEvidence.rows, r.instance_token = token → r.state = .reaped →
    ∃ i, db.runtimeInstances.get token = some i ∧ i.state = .stopped

def EvidenceInv (db : OwnerDb) : Prop := ∀ token, ∃ n, OwnerChain db token n

/-- The row is the current one of its instance. -/
def Current (t : Table OwnerEvidenceRow.key) (token : String) (c : OwnerEvidenceRow) : Prop :=
  c ∈ t.rows ∧ c.instance_token = token ∧ c.is_current = true

/-- The evidence after one more revision `new` over the current row `c`. -/
structure Appended (t u : Table OwnerEvidenceRow.key) (token : String)
    (c new : OwnerEvidenceRow) : Prop where
  current : Current t token c
  supersedes : ownerRevisions.Supersedes t u token new
  token : new.instance_token = token
  revision : new.evidence_revision = c.evidence_revision + 1
  marked : new.is_current = true
  link : OwnerLink c new

theorem currentEvidence_some {db : OwnerDb} {token : String} {state : EvidenceState}
    {c : OwnerEvidenceRow} (h : db.currentEvidence token state = some c) :
    Current db.runtimeOwnerEvidence token c ∧ c.state = state := by
  have hmem := List.mem_of_find?_eq_some h
  have hp := List.find?_some h
  simp only [Bool.and_eq_true, decide_eq_true_eq] at hp
  exact ⟨⟨hmem, hp.1.1, hp.1.2⟩, hp.2⟩

theorem currentOwner_some {db : OwnerDb} {token : String} {state : EvidenceState}
    {owner : InstanceState} {c : OwnerEvidenceRow}
    (h : db.currentOwner token state owner = some c) :
    (Current db.runtimeOwnerEvidence token c ∧ c.state = state) ∧
      ∃ i, db.runtimeInstances.get token = some i ∧ i.state = owner := by
  unfold OwnerDb.currentOwner at h
  split at h
  · rename_i howner
    exact ⟨currentEvidence_some h, Option.map_eq_some_iff.mp howner⟩
  · cases h

/-- The row that the statements of a writer select. -/
theorem Current.selected {t : Table OwnerEvidenceRow.key} {token : String} {n : Nat}
    {c : OwnerEvidenceRow} (h : ownerRevisions.Chain t token n) (hc : Current t token c) :
    (t.updateWhere (fun r => decide (r.instance_token = token) && r.is_current)
      OwnerEvidenceRow.demote (fun _ => rfl)).rows.filter
      (fun r => decide (r.instance_token = token ∧ r.evidence_revision = c.evidence_revision)) =
      [c.demote] := by
  obtain ⟨hmem, htoken, hcurrent⟩ := hc
  refine Table.filter_eq_singleton ?_ ?_
  · refine Table.mem_updateWhere.2 (Or.inl ⟨c, hmem, ?_, rfl⟩)
    simp [htoken, hcurrent]
  · intro r hr
    rw [decide_eq_true_eq]
    constructor
    · rintro ⟨hr_token, hr_revision⟩
      rcases Table.mem_updateWhere.1 hr with ⟨r', hr', hp, rfl⟩ | ⟨hr', hp⟩
      · rw [Bool.and_eq_true, decide_eq_true_eq] at hp
        rw [h.unique c hmem r' hr' htoken hp.1 hr_revision]
      · have hsame := h.unique c hmem r hr' htoken hr_token hr_revision
        rw [hsame] at hp
        simp [htoken, hcurrent] at hp
    · rintro rfl
      exact ⟨htoken, rfl⟩

theorem insertEvidence_ok {row : OwnerEvidenceRow} {db db' : OwnerDb} {u : Unit}
    (h : insertEvidence row db = .ok (u, db')) :
    ∃ t, db.runtimeOwnerEvidence.insert row = some t ∧
      db' = { db with runtimeOwnerEvidence := t } := by
  unfold insertEvidence at h
  obtain ⟨_, s, hrequire, h⟩ := Tx.bind_ok.1 h
  obtain ⟨-, rfl⟩ := Tx.require_ok.1 hrequire
  obtain ⟨_, s, hread, h⟩ := Tx.bind_ok.1 h
  obtain ⟨-, rfl⟩ := Tx.read_ok.1 hread
  obtain ⟨_, s, hrequire, h⟩ := Tx.bind_ok.1 h
  obtain ⟨-, rfl⟩ := Tx.require_ok.1 hrequire
  obtain ⟨t, ht, rfl⟩ := Tx.insert_ok.1 h
  exact ⟨t, ht, rfl⟩

/-- **What the statements of a writer do.** -/
theorem supersede_ok {db db' : OwnerDb} {token : String} {n : Nat} {c : OwnerEvidenceRow}
    {f : OwnerEvidenceRow → OwnerEvidenceRow} {u : Unit}
    (h : supersede token c.evidence_revision f db = .ok (u, db'))
    (hchain : ownerRevisions.Chain db.runtimeOwnerEvidence token n)
    (hc : Current db.runtimeOwnerEvidence token c)
    (htoken : (f c.demote).instance_token = c.instance_token)
    (hrevision : (f c.demote).evidence_revision = c.evidence_revision + 1)
    (hlink : OwnerLink c (f c.demote)) :
    db'.runtimeInstances = db.runtimeInstances ∧
      Appended db.runtimeOwnerEvidence db'.runtimeOwnerEvidence token c
        { f c.demote with is_current := true } := by
  unfold supersede at h
  obtain ⟨_, s, hupdate, h⟩ := Tx.bind_ok.1 h
  obtain ⟨-, rfl⟩ := Tx.update_ok.1 hupdate
  obtain ⟨rows, s, hread, h⟩ := Tx.bind_ok.1 h
  obtain ⟨rfl, rfl⟩ := Tx.read_ok.1 hread
  dsimp only [Lens.get, Lens.set] at h
  rw [hc.selected hchain] at h
  obtain ⟨_, s, hinsert, h⟩ := Tx.bind_ok.1 h
  obtain ⟨-, rfl⟩ := Tx.pure_ok.1 h
  obtain ⟨t, ht, rfl⟩ := insertEvidence_ok hinsert
  exact ⟨rfl, hc, Revisions.supersedes_insert (S := ownerRevisions) (fun _ => rfl) ht,
    htoken.trans hc.2.1, hrevision, rfl, hlink⟩

/-! ### What each call does -/

/-- A runtime began: its row is added, and its evidence has one revision. -/
structure Began (db db' : OwnerDb) (token : String) (row : OwnerEvidenceRow) : Prop where
  fresh : db.runtimeInstances.get token = none
  instances : ∃ i, i.state = .active ∧ db.runtimeInstances.Puts token i db'.runtimeInstances
  evidence : db.runtimeOwnerEvidence.insert row = some db'.runtimeOwnerEvidence
  token : row.instance_token = token
  revision : row.evidence_revision = 1
  marked : row.is_current = true
  live : row.state = .live

/-- The instance of the token is in another state, and the others are as they were. -/
def InstanceMoved (t u : Table RuntimeInstanceRow.instance_token) (token : String)
    (before after : InstanceState) : Prop :=
  ∃ i i', t.get token = some i ∧ i.state = before ∧ i'.state = after ∧ t.Puts token i' u

/-- The answer of a call that did not take effect. -/
def Declined (r : Except ReliabilityError Bool) : Prop := r ≠ .ok true

/-- A statement on the instance of a token. -/
theorem instanceMoved_update {t : Table RuntimeInstanceRow.instance_token} {token : String}
    {i : RuntimeInstanceRow} {p : RuntimeInstanceRow → Bool}
    {f : RuntimeInstanceRow → RuntimeInstanceRow} {before after : InstanceState}
    (hf : ∀ r, (f r).instance_token = r.instance_token)
    (hp : ∀ r, p r = true → r.instance_token = token) (hi : t.get token = some i)
    (hpi : p i = true) (hbefore : i.state = before) (hafter : (f i).state = after) :
    InstanceMoved t (t.updateWhere p f hf) token before after :=
  ⟨i, f i, hi, hbefore, hafter, Table.puts_updateWhere hp hi hpi⟩

theorem aborts_insertEvidence (row : OwnerEvidenceRow) : Tx.Aborts Declined (insertEvidence row) := by
  unfold insertEvidence
  refine Tx.aborts_bind (Tx.aborts_require nofun) fun _ => ?_
  refine Tx.aborts_bind (Tx.aborts_read _) fun _ => ?_
  refine Tx.aborts_bind (Tx.aborts_require nofun) fun _ => ?_
  exact Tx.aborts_insert nofun

theorem aborts_insertEach (rows : List OwnerEvidenceRow) : Tx.Aborts Declined (insertEach rows) := by
  induction rows with
  | nil => exact Tx.aborts_pure ()
  | cons row rows ih => exact Tx.aborts_bind (aborts_insertEvidence row) fun _ => ih

theorem aborts_supersede (token : String) (revision : Nat)
    (f : OwnerEvidenceRow → OwnerEvidenceRow) :
    Tx.Aborts Declined (supersede token revision f) := by
  unfold supersede
  refine Tx.aborts_bind (Tx.aborts_update _ _ _ _) fun _ => ?_
  refine Tx.aborts_bind (Tx.aborts_read _) fun _ => ?_
  exact aborts_insertEach _

section

variable [Externals] {db db' : OwnerDb} {token now : String} {r : Except ReliabilityError Bool}

theorem beginRuntimeWithEvidence_cases {max_age : Int} {clock : DateTime} {fingerprint : String}
    {evidence : RuntimeOwnerEvidence}
    (h : db.beginRuntimeWithEvidence max_age clock token fingerprint now evidence = (r, db')) :
    (Declined r ∧ db' = db) ∨ (r = .ok true ∧ ∃ row, Began db db' token row) := by
  unfold OwnerDb.beginRuntimeWithEvidence at h
  split at h
  · obtain ⟨rfl, rfl⟩ := Prod.mk.inj h
    exact Or.inl ⟨by rintro ⟨⟩, rfl⟩
  · rcases Tx.commit_cases h with hok | ⟨rfl, e, herror, rfl⟩
    · obtain ⟨active, s, hread, hok⟩ := Tx.bind_ok.1 hok
      obtain ⟨-, rfl⟩ := Tx.read_ok.1 hread
      obtain ⟨_, s, hrequire, hok⟩ := Tx.bind_ok.1 hok
      obtain ⟨-, rfl⟩ := Tx.require_ok.1 hrequire
      obtain ⟨inserted, s, hinsert, hok⟩ := Tx.bind_ok.1 hok
      obtain ⟨_, s', hrequire, hok⟩ := Tx.bind_ok.1 hok
      obtain ⟨hone, rfl⟩ := Tx.require_ok.1 hrequire
      rcases Tx.insertOrIgnore_ok.1 hinsert with ⟨-, t, ht, rfl⟩ | ⟨rfl, -, -⟩
      · obtain ⟨_, s, hrow, hok⟩ := Tx.bind_ok.1 hok
        obtain ⟨rfl, rfl⟩ := Tx.pure_ok.1 hok
        obtain ⟨u, hu, rfl⟩ := insertEvidence_ok hrow
        obtain ⟨hfresh, hputs⟩ := Table.insert_puts ht
        exact Or.inr ⟨rfl, _, hfresh, ⟨_, rfl, hputs⟩, hu, rfl, rfl, rfl, rfl⟩
      · cases hone
    · refine Or.inl ⟨Tx.Aborts.of_error herror ?_, rfl⟩
      refine Tx.aborts_bind (Tx.aborts_read _) fun _ => ?_
      refine Tx.aborts_bind (Tx.aborts_require (by rintro ⟨⟩)) fun _ => ?_
      refine Tx.aborts_bind (Tx.aborts_insertOrIgnore _ _) fun _ => ?_
      refine Tx.aborts_bind (Tx.aborts_require (by rintro ⟨⟩)) fun _ => ?_
      exact Tx.aborts_bind (aborts_insertEvidence _) fun _ => Tx.aborts_pure _

theorem matchesClock_boottime {max_age : Int} {clock : DateTime} {row : OwnerEvidenceRow}
    {fingerprint : String} {evidence : RuntimeOwnerEvidence}
    (h : matchesClock max_age clock row fingerprint now evidence = true) :
    row.boottime_ns ≤ evidence.boottime_ns := by
  unfold matchesClock boottimeMonotonic at h
  simp only [Bool.and_eq_true, decide_eq_true_eq] at h
  exact h.1.1.1.1.1.2.2

/-- A heartbeat: refused without a trace, or one more revision, live when it is valid. -/
theorem publishOwnerHeartbeat_cases {max_age : Int} {clock : DateTime} {fingerprint : String}
    {evidence : RuntimeOwnerEvidence} {n : Nat} (hchain : ownerRevisions.Chain db.runtimeOwnerEvidence token n)
    (h : db.publishOwnerHeartbeat max_age clock token fingerprint now evidence = (r, db')) :
    (Declined r ∧ db' = db) ∨
    ∃ c new, Appended db.runtimeOwnerEvidence db'.runtimeOwnerEvidence token c new ∧ c.state = .live ∧
      (∃ i, db.runtimeInstances.get token = some i ∧ i.state = .active) ∧
      ((r = .ok true ∧ new.state = .live ∧
          InstanceMoved db.runtimeInstances db'.runtimeInstances token .active .active) ∨
        (r = .ok false ∧ new.state = .unknown ∧ db'.runtimeInstances = db.runtimeInstances ∧
          (matchesClock max_age clock c fingerprint now evidence = false ∨
            sameCapture now c.captured_at = true))) := by
  unfold OwnerDb.publishOwnerHeartbeat at h
  rcases Tx.commit_cases h with hok | ⟨rfl, e, herror, rfl⟩
  · obtain ⟨found, s, hread, hok⟩ := Tx.bind_ok.1 hok
    obtain ⟨rfl, rfl⟩ := Tx.read_ok.1 hread
    obtain ⟨c, s, hsome, hok⟩ := Tx.bind_ok.1 hok
    obtain ⟨hfound, rfl⟩ := Tx.orElse_ok.1 hsome
    obtain ⟨_, s, hrequire, hok⟩ := Tx.bind_ok.1 hok
    obtain ⟨-, rfl⟩ := Tx.require_ok.1 hrequire
    obtain ⟨_, s, hsuper, hok⟩ := Tx.bind_ok.1 hok
    obtain ⟨⟨hcurrent, hlive⟩, i, hi, hactive⟩ := currentOwner_some hfound
    by_cases hvalid : (matchesClock max_age clock c fingerprint now evidence &&
        !sameCapture now c.captured_at) = true
    · simp only [hvalid, if_true] at hsuper hok
      have hle : c.boottime_ns ≤ evidence.boottime_ns :=
        matchesClock_boottime (Bool.and_eq_true_iff.mp hvalid).1
      obtain ⟨hinstances, happended⟩ := supersede_ok hsuper hchain hcurrent rfl rfl ⟨rfl, hle⟩
      obtain ⟨changed, s', hupdate, hok⟩ := Tx.bind_ok.1 hok
      obtain ⟨rfl, rfl⟩ := Tx.pure_ok.1 hok
      obtain ⟨rfl, rfl⟩ := Tx.update_ok.1 hupdate
      refine Or.inr ⟨c, _, happended, hlive, ⟨i, hi, hactive⟩, Or.inl ⟨rfl, rfl, ?_⟩⟩
      rw [← hinstances] at hi ⊢
      refine instanceMoved_update ?_ ?_ hi ?_ hactive hactive
      · exact fun _ => rfl
      · exact fun r hr => (of_decide_eq_true hr).1
      · exact decide_eq_true ⟨Table.key_of_get hi, hactive⟩
    · simp only [hvalid] at hsuper hok
      obtain ⟨hinstances, happended⟩ := supersede_ok hsuper hchain hcurrent rfl rfl
        ⟨rfl, Int.le_refl _⟩
      obtain ⟨rfl, rfl⟩ := Tx.pure_ok.1 hok
      refine Or.inr ⟨c, _, happended, hlive, ⟨i, hi, hactive⟩, Or.inr ⟨by simp, rfl, hinstances, ?_⟩⟩
      rw [Bool.and_eq_true, not_and_or] at hvalid
      simpa using hvalid
  · refine Or.inl ⟨Tx.Aborts.of_error herror ?_, rfl⟩
    refine Tx.aborts_bind (Tx.aborts_read _) fun _ => ?_
    refine Tx.aborts_bind (Tx.aborts_orElse (by rintro ⟨⟩)) fun _ => ?_
    refine Tx.aborts_bind (Tx.aborts_require (by rintro ⟨⟩)) fun _ => ?_
    refine Tx.aborts_bind (aborts_supersede _ _ _) fun _ => ?_
    refine Tx.aborts_ite ?_ (Tx.aborts_pure _)
    exact Tx.aborts_bind (Tx.aborts_update _ _ _ _) fun _ => Tx.aborts_pure _

/-- The final observation: refused without a trace, or the last revision. -/
theorem finalizeOwner_cases {max_age : Int} {clock : DateTime} {evidence : RuntimeOwnerEvidence}
    {observation : FinalObservation} {n : Nat} (hchain : ownerRevisions.Chain db.runtimeOwnerEvidence token n)
    (h : db.finalizeOwner max_age clock token now evidence observation = (r, db')) :
    (Declined r ∧ db' = db) ∨
    (r = .ok true ∧ observation.qualifies observation.epoch = true ∧
      observation.boundTo token = true ∧
      InstanceMoved db.runtimeInstances db'.runtimeInstances token .stopping .stopped ∧
      ∃ c new, Appended db.runtimeOwnerEvidence db'.runtimeOwnerEvidence token c new ∧ c.state = .scanPending ∧ new.state = .reaped) := by
  unfold OwnerDb.finalizeOwner at h
  rcases Tx.commit_cases h with hok | ⟨rfl, e, herror, rfl⟩
  · obtain ⟨found, s, hread, hok⟩ := Tx.bind_ok.1 hok
    obtain ⟨rfl, rfl⟩ := Tx.read_ok.1 hread
    obtain ⟨c, s, hsome, hok⟩ := Tx.bind_ok.1 hok
    obtain ⟨hfound, rfl⟩ := Tx.orElse_ok.1 hsome
    obtain ⟨chain, s, hread, hok⟩ := Tx.bind_ok.1 hok
    obtain ⟨rfl, rfl⟩ := Tx.read_ok.1 hread
    obtain ⟨_, s, hrequire, hok⟩ := Tx.bind_ok.1 hok
    obtain ⟨hchecks, rfl⟩ := Tx.require_ok.1 hrequire
    obtain ⟨_, s, hrequire, hok⟩ := Tx.bind_ok.1 hok
    obtain ⟨-, rfl⟩ := Tx.require_ok.1 hrequire
    obtain ⟨_, s, hsuper, hok⟩ := Tx.bind_ok.1 hok
    obtain ⟨stopped, s', hupdate, hok⟩ := Tx.bind_ok.1 hok
    obtain ⟨_, s'', hrequire, hok⟩ := Tx.bind_ok.1 hok
    obtain ⟨-, rfl⟩ := Tx.require_ok.1 hrequire
    obtain ⟨rfl, rfl⟩ := Tx.pure_ok.1 hok
    obtain ⟨rfl, rfl⟩ := Tx.update_ok.1 hupdate
    simp only [Bool.and_eq_true] at hchecks
    obtain ⟨⟨⟨hqualifies, hbound⟩, hmatches⟩, -⟩ := hchecks
    obtain ⟨⟨hcurrent, hpending⟩, i, hi, hstopping⟩ := currentOwner_some hfound
    obtain ⟨hinstances, happended⟩ := supersede_ok hsuper hchain hcurrent rfl rfl
      ⟨rfl, matchesClock_boottime hmatches⟩
    refine Or.inr ⟨rfl, hqualifies, hbound, ?_, c, _, happended, hpending, rfl⟩
    rw [← hinstances] at hi ⊢
    refine instanceMoved_update ?_ ?_ hi ?_ hstopping rfl
    · exact fun _ => rfl
    · exact fun r hr => (of_decide_eq_true hr).1
    · exact decide_eq_true ⟨Table.key_of_get hi, hstopping⟩
  · refine Or.inl ⟨Tx.Aborts.of_error herror ?_, rfl⟩
    refine Tx.aborts_bind (Tx.aborts_read _) fun _ => ?_
    refine Tx.aborts_bind (Tx.aborts_orElse nofun) fun _ => ?_
    refine Tx.aborts_bind (Tx.aborts_read _) fun _ => ?_
    refine Tx.aborts_bind (Tx.aborts_require nofun) fun _ => ?_
    refine Tx.aborts_bind (Tx.aborts_require nofun) fun _ => ?_
    refine Tx.aborts_bind (aborts_supersede _ _ _) fun _ => ?_
    refine Tx.aborts_bind (Tx.aborts_update _ _ _ _) fun _ => ?_
    exact Tx.aborts_bind (Tx.aborts_require nofun) fun _ => Tx.aborts_pure _

omit [Externals] in
/-- A stop: refused without a trace, or the instance stops and live evidence waits for its
scan. -/
theorem stoppingRuntime_cases {n : Nat} (hchain : ownerRevisions.Chain db.runtimeOwnerEvidence token n)
    (h : db.stoppingRuntime token now = (r, db')) :
    (Declined r ∧ db' = db) ∨
    (r = .ok true ∧
      InstanceMoved db.runtimeInstances db'.runtimeInstances token .active .stopping ∧
      (db'.runtimeOwnerEvidence = db.runtimeOwnerEvidence ∨
        ∃ c new, Appended db.runtimeOwnerEvidence db'.runtimeOwnerEvidence token c new ∧ c.state = .live ∧ new.state = .scanPending)) := by
  unfold OwnerDb.stoppingRuntime at h
  rcases Tx.commit_cases h with hok | ⟨rfl, e, herror, rfl⟩
  · obtain ⟨changed, s, hupdate, hok⟩ := Tx.bind_ok.1 hok
    obtain ⟨rfl, rfl⟩ := Tx.update_ok.1 hupdate
    obtain ⟨_, s, hrequire, hok⟩ := Tx.bind_ok.1 hok
    obtain ⟨hone, rfl⟩ := Tx.require_ok.1 hrequire
    obtain ⟨found, s, hread, hok⟩ := Tx.bind_ok.1 hok
    obtain ⟨rfl, rfl⟩ := Tx.read_ok.1 hread
    have hp : ∀ r : RuntimeInstanceRow, decide (r.instance_token = token ∧ r.state = .active) =
        true → r.instance_token = token := fun r hr => (of_decide_eq_true hr).1
    obtain ⟨i, hi, hpi⟩ := (Table.affected_eq_one_iff hp).mp (of_decide_eq_true hone)
    refine Or.inr ?_
    have hmoved : InstanceMoved db.runtimeInstances (db.runtimeInstances.updateWhere
        (fun r => decide (r.instance_token = token ∧ r.state = .active))
        (fun r => { r with state := .stopping, heartbeat_at := now })) token .active .stopping := by
      refine instanceMoved_update ?_ hp hi hpi (of_decide_eq_true hpi).2 rfl
    cases hfound : OwnerDb.currentEvidence _ token .live with
    | some c =>
      rw [hfound] at hok
      obtain ⟨_, s, hrequire, hok⟩ := Tx.bind_ok.1 hok
      obtain ⟨-, rfl⟩ := Tx.require_ok.1 hrequire
      obtain ⟨_, s, hsuper, hok⟩ := Tx.bind_ok.1 hok
      obtain ⟨rfl, rfl⟩ := Tx.pure_ok.1 hok
      obtain ⟨hcurrent, hlive⟩ := currentEvidence_some hfound
      obtain ⟨hinstances, happended⟩ := supersede_ok hsuper hchain hcurrent rfl rfl
        ⟨rfl, Int.le_refl _⟩
      rw [hinstances]
      exact ⟨rfl, hmoved, Or.inr ⟨c, _, happended, hlive, rfl⟩⟩
    | none =>
      rw [hfound] at hok
      obtain ⟨rfl, rfl⟩ := Tx.pure_ok.1 hok
      exact ⟨rfl, hmoved, Or.inl rfl⟩
  · refine Or.inl ⟨Tx.Aborts.of_error herror ?_, rfl⟩
    refine Tx.aborts_bind (Tx.aborts_update _ _ _ _) fun _ => ?_
    refine Tx.aborts_bind (Tx.aborts_require nofun) fun _ => ?_
    refine Tx.aborts_bind (Tx.aborts_read _) fun _ => ?_
    split
    · refine Tx.aborts_bind (Tx.aborts_require nofun) fun _ => ?_
      exact Tx.aborts_bind (aborts_supersede _ _ _) fun _ => Tx.aborts_pure _
    · exact Tx.aborts_pure _

omit [Externals] in
theorem stopRuntime_cases (h : db.stopRuntime token now = (r, db')) :
    (Declined r ∧ db' = db) ∨
    (r = .ok true ∧ db'.runtimeOwnerEvidence = db.runtimeOwnerEvidence ∧
      ∃ before, before ≠ .stopped ∧
        InstanceMoved db.runtimeInstances db'.runtimeInstances token before .stopped) := by
  unfold OwnerDb.stopRuntime at h
  rcases Tx.commit_cases h with hok | ⟨rfl, e, herror, rfl⟩
  · obtain ⟨changed, s, hupdate, hok⟩ := Tx.bind_ok.1 hok
    obtain ⟨rfl, rfl⟩ := Tx.update_ok.1 hupdate
    obtain ⟨rfl, rfl⟩ := Tx.pure_ok.1 hok
    have hp : ∀ r : RuntimeInstanceRow, decide (r.instance_token = token ∧
        (r.state = .active ∨ r.state = .stopping)) = true → r.instance_token = token :=
      fun r hr => (of_decide_eq_true hr).1
    have hle := Table.affected_le_one (t := db.runtimeInstances) hp
    by_cases hone : db.runtimeInstances.affected (fun r => decide (r.instance_token = token ∧
        (r.state = .active ∨ r.state = .stopping))) = 1
    · obtain ⟨i, hi, hpi⟩ := (Table.affected_eq_one_iff hp).mp hone
      refine Or.inr ⟨congrArg Except.ok (decide_eq_true hone), rfl, i.state, ?_, ?_⟩
      · rcases (of_decide_eq_true hpi).2 with hstate | hstate <;> rw [hstate] <;> exact nofun
      · refine instanceMoved_update ?_ hp hi hpi rfl rfl
        exact fun _ => rfl
    · have hzero : db.runtimeInstances.affected (fun r => decide (r.instance_token = token ∧
          (r.state = .active ∨ r.state = .stopping))) = 0 := by omega
      refine Or.inl ⟨fun htrue => hone (of_decide_eq_true (Except.ok.inj htrue)), ?_⟩
      have hsame := Table.updateWhere_of_affected_zero
        (f := fun r => { r with state := .stopped, heartbeat_at := now }) (fun _ => rfl) hzero
      show { db with runtimeInstances := _ } = db
      rw [hsame]
  · refine Or.inl ⟨Tx.Aborts.of_error herror ?_, rfl⟩
    exact Tx.aborts_bind (Tx.aborts_update _ _ _ _) fun _ => Tx.aborts_pure _

end

/-! ### Runs -/

/-- The calls on the evidence; every store has its own window and every call reads the clock. -/
inductive OwnerCall where
  | beginRuntimeWithEvidence (max_age : Int) (clock : DateTime) (token fingerprint now : String)
      (evidence : RuntimeOwnerEvidence)
  | publishOwnerHeartbeat (max_age : Int) (clock : DateTime) (token fingerprint now : String)
      (evidence : RuntimeOwnerEvidence)
  | stoppingRuntime (token now : String)
  | finalizeOwner (max_age : Int) (clock : DateTime) (token now : String)
      (evidence : RuntimeOwnerEvidence) (observation : FinalObservation)
  | stopRuntime (token now : String)

section

variable [Externals]

def ownerStep (db : OwnerDb) : OwnerCall → Except ReliabilityError Bool × OwnerDb
  | .beginRuntimeWithEvidence max_age clock token fingerprint now evidence =>
    db.beginRuntimeWithEvidence max_age clock token fingerprint now evidence
  | .publishOwnerHeartbeat max_age clock token fingerprint now evidence =>
    db.publishOwnerHeartbeat max_age clock token fingerprint now evidence
  | .stoppingRuntime token now => db.stoppingRuntime token now
  | .finalizeOwner max_age clock token now evidence observation =>
    db.finalizeOwner max_age clock token now evidence observation
  | .stopRuntime token now => db.stopRuntime token now

/-- The store after the first `n` calls. -/
def ownersAt (calls : List OwnerCall) (n : Nat) : OwnerDb :=
  (calls.take n).foldl (fun db call => (ownerStep db call).2) OwnerDb.empty

/-- What a call does, with its answer. -/
inductive OwnerEffect (db db' : OwnerDb) : OwnerCall → Except ReliabilityError Bool → Prop where
  | refused (call : OwnerCall) (r : Except ReliabilityError Bool) (hr : Declined r)
      (hsame : db' = db) : OwnerEffect db db' call r
  | began (max_age : Int) (clock : DateTime) (token fingerprint now : String)
      (evidence : RuntimeOwnerEvidence) (row : OwnerEvidenceRow) (h : Began db db' token row) :
      OwnerEffect db db'
        (.beginRuntimeWithEvidence max_age clock token fingerprint now evidence) (.ok true)
  | heartbeat (max_age : Int) (clock : DateTime) (token fingerprint now : String)
      (evidence : RuntimeOwnerEvidence) (c new : OwnerEvidenceRow)
      (h : Appended db.runtimeOwnerEvidence db'.runtimeOwnerEvidence token c new)
      (hlive : c.state = .live) (hnew : new.state = .live)
      (hmoved : InstanceMoved db.runtimeInstances db'.runtimeInstances token .active .active) :
      OwnerEffect db db' (.publishOwnerHeartbeat max_age clock token fingerprint now evidence)
        (.ok true)
  | unknown (max_age : Int) (clock : DateTime) (token fingerprint now : String)
      (evidence : RuntimeOwnerEvidence) (c new : OwnerEvidenceRow)
      (h : Appended db.runtimeOwnerEvidence db'.runtimeOwnerEvidence token c new)
      (hlive : c.state = .live) (hnew : new.state = .unknown)
      (hsame : db'.runtimeInstances = db.runtimeInstances)
      (hclock : matchesClock max_age clock c fingerprint now evidence = false ∨
        sameCapture now c.captured_at = true) :
      OwnerEffect db db' (.publishOwnerHeartbeat max_age clock token fingerprint now evidence)
        (.ok false)
  | stopping (token now : String)
      (hmoved : InstanceMoved db.runtimeInstances db'.runtimeInstances token .active .stopping)
      (h : db'.runtimeOwnerEvidence = db.runtimeOwnerEvidence ∨
        ∃ c new, Appended db.runtimeOwnerEvidence db'.runtimeOwnerEvidence token c new ∧
          c.state = .live ∧ new.state = .scanPending) :
      OwnerEffect db db' (.stoppingRuntime token now) (.ok true)
  | finalized (max_age : Int) (clock : DateTime) (token now : String)
      (evidence : RuntimeOwnerEvidence) (observation : FinalObservation)
      (hqualifies : observation.qualifies observation.epoch = true)
      (hbound : observation.boundTo token = true)
      (hmoved : InstanceMoved db.runtimeInstances db'.runtimeInstances token .stopping .stopped)
      (c new : OwnerEvidenceRow)
      (h : Appended db.runtimeOwnerEvidence db'.runtimeOwnerEvidence token c new)
      (hpending : c.state = .scanPending) (hnew : new.state = .reaped) :
      OwnerEffect db db' (.finalizeOwner max_age clock token now evidence observation) (.ok true)
  | stopped (token now : String) (before : InstanceState) (hbefore : before ≠ .stopped)
      (hmoved : InstanceMoved db.runtimeInstances db'.runtimeInstances token before .stopped)
      (hsame : db'.runtimeOwnerEvidence = db.runtimeOwnerEvidence) :
      OwnerEffect db db' (.stopRuntime token now) (.ok true)

theorem ownerStep_effect {db : OwnerDb} (hinv : EvidenceInv db) (call : OwnerCall) :
    OwnerEffect db (ownerStep db call).2 call (ownerStep db call).1 := by
  obtain ⟨⟨r, db'⟩, hcall⟩ : ∃ result, ownerStep db call = result := ⟨_, rfl⟩
  rw [hcall]
  show OwnerEffect db db' call r
  cases call with
  | beginRuntimeWithEvidence max_age clock token fingerprint now evidence =>
    rcases beginRuntimeWithEvidence_cases hcall with ⟨hr, hsame⟩ | ⟨rfl, row, h⟩
    · exact .refused _ _ hr hsame
    · exact .began _ _ _ _ _ _ row h
  | publishOwnerHeartbeat max_age clock token fingerprint now evidence =>
    obtain ⟨n, hchain⟩ := hinv token
    rcases publishOwnerHeartbeat_cases hchain.chain hcall with ⟨hr, hsame⟩ |
      ⟨c, new, h, hlive, -, ⟨rfl, hnew, hmoved⟩ | ⟨rfl, hnew, hsame, hclock⟩⟩
    · exact .refused _ _ hr hsame
    · exact .heartbeat _ _ _ _ _ _ c new h hlive hnew hmoved
    · exact .unknown _ _ _ _ _ _ c new h hlive hnew hsame hclock
  | stoppingRuntime token now =>
    obtain ⟨n, hchain⟩ := hinv token
    rcases stoppingRuntime_cases hchain.chain hcall with ⟨hr, hsame⟩ | ⟨rfl, hmoved, h⟩
    · exact .refused _ _ hr hsame
    · exact .stopping _ _ hmoved h
  | finalizeOwner max_age clock token now evidence observation =>
    obtain ⟨n, hchain⟩ := hinv token
    rcases finalizeOwner_cases hchain.chain hcall with ⟨hr, hsame⟩ |
      ⟨rfl, hqualifies, hbound, hmoved, c, new, h, hpending, hnew⟩
    · exact .refused _ _ hr hsame
    · exact .finalized _ _ _ _ _ _ hqualifies hbound hmoved c new h hpending hnew
  | stopRuntime token now =>
    rcases stopRuntime_cases hcall with ⟨hr, hsame⟩ | ⟨rfl, hsame, before, hbefore, hmoved⟩
    · exact .refused _ _ hr hsame
    · exact .stopped _ _ before hbefore hmoved hsame

/-! ### The invariant -/

omit [Externals] in
/-- The revision of the current row. -/
theorem OwnerChain.last {db : OwnerDb} {token : String} {n : Nat} (h : OwnerChain db token n)
    {c : OwnerEvidenceRow} (hc : Current db.runtimeOwnerEvidence token c) :
    c.evidence_revision = n :=
  (h.chain.current c hc.1 hc.2.1).mp hc.2.2

omit [Externals] in
/-- A row of the evidence after one more revision. -/
theorem Appended.row {t u : Table OwnerEvidenceRow.key} {token : String}
    {c new r : OwnerEvidenceRow} (h : Appended t u token c new) (hr : r ∈ u.rows) :
    r = new ∨ ∃ r' ∈ t.rows, r.key = r'.key ∧ r.state = r'.state := by
  rcases (h.supersedes r).mp hr with hnew | ⟨r', hr', ⟨-, rfl⟩ | ⟨-, rfl⟩⟩
  · exact Or.inl hnew
  · exact Or.inr ⟨r, hr', rfl, rfl⟩
  · exact Or.inr ⟨r', hr', rfl, rfl⟩

omit [Externals] in
/-- One more revision of a token. -/
theorem Appended.inv {db db' : OwnerDb} {token : String} {c new : OwnerEvidenceRow}
    (h : Appended db.runtimeOwnerEvidence db'.runtimeOwnerEvidence token c new)
    (hinv : EvidenceInv db)
    (hothers : ∀ k, k ≠ token → db'.runtimeInstances.get k = db.runtimeInstances.get k)
    (hbegun : db'.runtimeInstances.get token ≠ none)
    (hkept : ∀ i, db.runtimeInstances.get token = some i → i.state = .stopped →
      db'.runtimeInstances.get token = some i)
    (hreaped : new.state = .reaped →
      ∃ i, db'.runtimeInstances.get token = some i ∧ i.state = .stopped) : EvidenceInv db' := by
  intro k
  obtain ⟨n, hn⟩ := hinv k
  by_cases hk : k = token
  · subst hk
    have hlast : c.evidence_revision = n := hn.last h.current
    have hrevision : new.evidence_revision = n + 1 := by rw [h.revision, hlast]
    refine ⟨n + 1, hn.chain.supersede h.supersedes h.token hrevision h.marked, ?_, ?_, ?_⟩
    · refine hn.along.supersede h.supersedes h.token (fun _ _ hr => hr) ?_ ⟨rfl, Int.le_refl _⟩
        hn.chain hrevision ?_
      · exact fun _ _ _ h h' => ⟨h'.1.trans h.1, Int.le_trans h.2 h'.2⟩
      · intro r hr ho hrn
        have hsame : r = c := hn.chain.unique c h.current.1 r hr h.current.2.1 ho
          (hrn.trans hlast.symm)
        rw [hsame]
        exact h.link
    · simp [hbegun]
    · intro r hr ho hstate
      rcases (h.supersedes r).mp hr with rfl | ⟨r', hr', ⟨hne, rfl⟩ | ⟨ho', rfl⟩⟩
      · exact hreaped hstate
      · exact absurd ho hne
      · obtain ⟨i, hi, hstopped⟩ := hn.reaped r' hr' ho' hstate
        exact ⟨i, hkept i hi hstopped, hstopped⟩
  · refine ⟨n, hn.chain.other h.supersedes h.token hk, hn.along.other h.supersedes h.token hk,
      ?_, ?_⟩
    · rw [hothers k hk]
      exact hn.begun
    · intro r hr ho hstate
      obtain ⟨hr', -⟩ := (h.supersedes.other h.token hk r).mp ⟨hr, ho⟩
      rw [hothers k hk]
      exact hn.reaped r hr' ho hstate

omit [Externals] in
/-- An instance that is not stopped moves, and the evidence stays. -/
theorem moved_inv {db db' : OwnerDb} {token : String} {before after : InstanceState}
    (h : InstanceMoved db.runtimeInstances db'.runtimeInstances token before after)
    (hbefore : before ≠ .stopped)
    (hsame : db'.runtimeOwnerEvidence = db.runtimeOwnerEvidence) (hinv : EvidenceInv db) :
    EvidenceInv db' := by
  obtain ⟨i, i', hi, rfl, -, hputs⟩ := h
  intro k
  obtain ⟨n, hn⟩ := hinv k
  have hget := hputs k
  refine ⟨n, hsame ▸ hn.chain, hsame ▸ hn.along, ?_, ?_⟩
  · rw [hget, hn.begun]
    by_cases hk : k = token
    · simp [hk, hi]
    · simp [hk]
  · intro r hr ho hstate
    rw [hsame] at hr
    obtain ⟨j, hj, hstopped⟩ := hn.reaped r hr ho hstate
    by_cases hk : k = token
    · rw [hk, hi] at hj
      cases hj
      exact absurd hstopped hbefore
    · rw [hget, if_neg hk]
      exact ⟨j, hj, hstopped⟩

omit [Externals] in
theorem Began.inv {db db' : OwnerDb} {token : String} {row : OwnerEvidenceRow}
    (h : Began db db' token row) (hinv : EvidenceInv db) : EvidenceInv db' := by
  obtain ⟨i, hactive, hputs⟩ := h.instances
  obtain ⟨n₀, hn₀⟩ := hinv token
  have hzero : n₀ = 0 := hn₀.begun.mpr h.fresh
  subst hzero
  -- no row names an instance that has not begun
  have hnone : ∀ r ∈ db.runtimeOwnerEvidence.rows, r.instance_token ≠ token := by
    intro r hr ho
    have hbound := (hn₀.chain.revisions r.evidence_revision).mp ⟨r, hr, ho, rfl⟩
    omega
  have hsupersedes : ownerRevisions.Supersedes db.runtimeOwnerEvidence db'.runtimeOwnerEvidence
      token row := by
    intro r
    rw [Table.mem_insert h.evidence]
    constructor
    · rintro (hr | rfl)
      · exact Or.inr ⟨r, hr, Or.inl ⟨hnone r hr, rfl⟩⟩
      · exact Or.inl rfl
    · rintro (rfl | ⟨r', hr', ⟨-, rfl⟩ | ⟨ho, -⟩⟩)
      · exact Or.inr rfl
      · exact Or.inl hr'
      · exact absurd ho (hnone r' hr')
  intro k
  obtain ⟨n, hn⟩ := hinv k
  have hget := hputs k
  by_cases hk : k = token
  · subst hk
    refine ⟨0 + 1, hn₀.chain.supersede hsupersedes h.token h.revision h.marked, ?_, ?_, ?_⟩
    · refine hn₀.along.supersede hsupersedes h.token (fun _ _ hr => hr) ?_ ⟨rfl, Int.le_refl _⟩
        hn₀.chain h.revision ?_
      · exact fun _ _ _ h h' => ⟨h'.1.trans h.1, Int.le_trans h.2 h'.2⟩
      · exact fun r hr ho _ => absurd ho (hnone r hr)
    · rw [hget, if_pos rfl]
      simp
    · intro r hr ho hstate
      rcases hsupersedes.owned hr ho with rfl | ⟨r', hr', ho', -⟩
      · rw [h.live] at hstate
        cases hstate
      · exact absurd ho' (hnone r' hr')
  · rw [if_neg hk] at hget
    refine ⟨n, hn.chain.other hsupersedes h.token hk, hn.along.other hsupersedes h.token hk,
      ?_, ?_⟩
    · rw [hget]
      exact hn.begun
    · intro r hr ho hstate
      obtain ⟨hr', -⟩ := (hsupersedes.other h.token hk r).mp ⟨hr, ho⟩
      rw [hget]
      exact hn.reaped r hr' ho hstate

theorem OwnerEffect.inv {db db' : OwnerDb} {call : OwnerCall}
    {r : Except ReliabilityError Bool} (h : OwnerEffect db db' call r) (hinv : EvidenceInv db) :
    EvidenceInv db' := by
  have hmovedOthers {token : String} {before after : InstanceState}
      (hmoved : InstanceMoved db.runtimeInstances db'.runtimeInstances token before after) :
      ∀ k, k ≠ token → db'.runtimeInstances.get k = db.runtimeInstances.get k := by
    obtain ⟨i, i', -, -, -, hputs⟩ := hmoved
    intro k hk
    rw [hputs k, if_neg hk]
  have hmovedSelf {token : String} {before after : InstanceState}
      (hmoved : InstanceMoved db.runtimeInstances db'.runtimeInstances token before after) :
      ∃ i', db'.runtimeInstances.get token = some i' ∧ i'.state = after := by
    obtain ⟨i, i', -, -, hafter, hputs⟩ := hmoved
    exact ⟨i', by rw [hputs token, if_pos rfl], hafter⟩
  have hmovedLive {token : String} {before after : InstanceState}
      (hmoved : InstanceMoved db.runtimeInstances db'.runtimeInstances token before after)
      (hbefore : before ≠ .stopped) : ∀ i, db.runtimeInstances.get token = some i →
        i.state = .stopped → db'.runtimeInstances.get token = some i := by
    obtain ⟨j, -, hj, rfl, -⟩ := hmoved
    intro i hi hstopped
    rw [hi] at hj
    cases hj
    exact absurd hstopped hbefore
  cases h with
  | refused _ _ _ hsame =>
    rw [hsame]
    exact hinv
  | began _ _ token _ _ _ row h => exact h.inv hinv
  | heartbeat _ _ token _ _ _ c new h _ hnew hmoved =>
    obtain ⟨i', hi', -⟩ := hmovedSelf hmoved
    refine h.inv hinv (hmovedOthers hmoved) (by simp [hi']) (hmovedLive hmoved (by simp)) ?_
    rw [hnew]
    simp
  | unknown _ _ token _ _ _ c new h _ hnew hsame _ =>
    obtain ⟨n, hn⟩ := hinv token
    have hbegun : db.runtimeInstances.get token ≠ none := by
      intro hnone
      have hzero := hn.begun.mpr hnone
      have hbound := (hn.chain.revisions c.evidence_revision).mp
        ⟨c, h.current.1, h.current.2.1, rfl⟩
      omega
    refine h.inv hinv ?_ ?_ ?_ ?_
    · exact fun k _ => by rw [hsame]
    · rw [hsame]
      exact hbegun
    · intro i hi _
      rw [hsame]
      exact hi
    · rw [hnew]
      simp
  | stopping token _ hmoved h =>
    rcases h with hsame | ⟨c, new, h, -, hnew⟩
    · exact moved_inv hmoved (by simp) hsame hinv
    · obtain ⟨i', hi', -⟩ := hmovedSelf hmoved
      refine h.inv hinv (hmovedOthers hmoved) (by simp [hi']) (hmovedLive hmoved (by simp)) ?_
      rw [hnew]
      simp
  | finalized _ _ token _ _ _ _ _ hmoved c new h _ _ =>
    obtain ⟨i', hi', hstopped⟩ := hmovedSelf hmoved
    refine h.inv hinv (hmovedOthers hmoved) (by simp [hi']) (hmovedLive hmoved (by simp)) ?_
    exact fun _ => ⟨i', hi', hstopped⟩
  | stopped token _ before hbefore hmoved hsame => exact moved_inv hmoved hbefore hsame hinv

omit [Externals] in
theorem evidenceInv_empty : EvidenceInv OwnerDb.empty := by
  intro token
  have hnone : ∀ r ∈ OwnerDb.empty.runtimeOwnerEvidence.rows, ownerRevisions.owner r ≠ token :=
    fun r hr => absurd hr List.not_mem_nil
  refine ⟨0, Revisions.chain_zero hnone, Revisions.along_zero hnone, ?_, ?_⟩
  · exact ⟨fun _ => rfl, fun _ => rfl⟩
  · exact fun r hr => absurd hr List.not_mem_nil

theorem ownersAt_inv (calls : List OwnerCall) (n : Nat) : EvidenceInv (ownersAt calls n) := by
  refine foldl_invariant EvidenceInv ?_ _ evidenceInv_empty
  intro db call hinv
  exact (ownerStep_effect hinv call).inv hinv

/-! ### The generation -/

/-- Every evidence is of the generation `1`. -/
def FirstGeneration (db : OwnerDb) : Prop :=
  ∀ r ∈ db.runtimeOwnerEvidence.rows, r.runtime_generation = 1

omit [Externals] in
theorem Appended.generation {db db' : OwnerDb} {token : String} {c new : OwnerEvidenceRow}
    (h : Appended db.runtimeOwnerEvidence db'.runtimeOwnerEvidence token c new)
    (hfirst : FirstGeneration db) : FirstGeneration db' := by
  intro r hr
  rcases (h.supersedes r).mp hr with rfl | ⟨r', hr', ⟨-, rfl⟩ | ⟨-, rfl⟩⟩
  · have hidentity : r.identity = c.identity := h.link.1
    have hsame : r.runtime_generation = c.runtime_generation :=
      congrArg (fun i => i.2.2.2.2) hidentity
    exact hsame.trans (hfirst c h.current.1)
  · exact hfirst r hr'
  · exact hfirst r' hr'

theorem beginRuntimeWithEvidence_generation {max_age : Int} {clock : DateTime}
    {token fingerprint now : String} {evidence : RuntimeOwnerEvidence} {db db' : OwnerDb}
    {r : Except ReliabilityError Bool}
    (h : db.beginRuntimeWithEvidence max_age clock token fingerprint now evidence = (r, db'))
    (hfirst : FirstGeneration db) : FirstGeneration db' := by
  unfold OwnerDb.beginRuntimeWithEvidence at h
  split at h
  · obtain ⟨rfl, rfl⟩ := Prod.mk.inj h
    exact hfirst
  · rcases Tx.commit_cases h with hok | ⟨rfl, -⟩
    · obtain ⟨_, s, hread, hok⟩ := Tx.bind_ok.1 hok
      obtain ⟨-, rfl⟩ := Tx.read_ok.1 hread
      obtain ⟨_, s, hrequire, hok⟩ := Tx.bind_ok.1 hok
      obtain ⟨-, rfl⟩ := Tx.require_ok.1 hrequire
      obtain ⟨_, s, hinsert, hok⟩ := Tx.bind_ok.1 hok
      obtain ⟨_, s', hrequire, hok⟩ := Tx.bind_ok.1 hok
      obtain ⟨-, rfl⟩ := Tx.require_ok.1 hrequire
      obtain ⟨_, s₁, hrow, hok⟩ := Tx.bind_ok.1 hok
      obtain ⟨-, rfl⟩ := Tx.pure_ok.1 hok
      obtain ⟨u, hu, rfl⟩ := insertEvidence_ok hrow
      have hkept : s.runtimeOwnerEvidence = db.runtimeOwnerEvidence := by
        rcases Tx.insertOrIgnore_ok.1 hinsert with ⟨-, t, -, rfl⟩ | ⟨-, -, rfl⟩ <;> rfl
      intro row hmem
      rcases (Table.mem_insert hu).mp hmem with hold | rfl
      · rw [hkept] at hold
        exact hfirst row hold
      · rfl
    · exact hfirst

/-- No call makes evidence of another generation. -/
theorem ownerStep_generation {db : OwnerDb} (hinv : EvidenceInv db) (hfirst : FirstGeneration db)
    (call : OwnerCall) : FirstGeneration (ownerStep db call).2 := by
  have hsame {db' : OwnerDb} (h : db'.runtimeOwnerEvidence = db.runtimeOwnerEvidence) :
      FirstGeneration db' := by
    intro r hr
    rw [h] at hr
    exact hfirst r hr
  obtain ⟨⟨r, db'⟩, hcall⟩ : ∃ result, ownerStep db call = result := ⟨_, rfl⟩
  have heffect := ownerStep_effect hinv call
  rw [hcall] at heffect ⊢
  cases heffect with
  | refused _ _ _ h => exact hsame (by rw [h])
  | began max_age clock token fingerprint now evidence row h =>
    exact beginRuntimeWithEvidence_generation hcall hfirst
  | heartbeat _ _ _ _ _ _ c new h => exact h.generation hfirst
  | unknown _ _ _ _ _ _ c new h => exact h.generation hfirst
  | stopping _ _ _ h =>
    rcases h with h | ⟨c, new, h, -⟩
    · exact hsame h
    · exact h.generation hfirst
  | finalized _ _ _ _ _ _ _ _ _ c new h => exact h.generation hfirst
  | stopped _ _ _ _ _ h => exact hsame h

/-- The store before and after a call. -/
theorem ownersAt_succ {calls : List OwnerCall} {n : Nat} {call : OwnerCall}
    (h : calls[n]? = some call) :
    ownersAt calls (n + 1) = (ownerStep (ownersAt calls n) call).2 := by
  unfold ownersAt
  rw [List.take_add_one, h, Option.toList_some, List.foldl_append]
  rfl

/-- The evidence is only added to: a state that some row has now and none had before is the one
of the new revision. -/
theorem OwnerEffect.reaped {db db' : OwnerDb} {call : OwnerCall}
    {r : Except ReliabilityError Bool} (h : OwnerEffect db db' call r)
    {row : OwnerEvidenceRow} (hrow : row ∈ db'.runtimeOwnerEvidence.rows)
    (hstate : row.state = .reaped)
    (hnew : ∀ old ∈ db.runtimeOwnerEvidence.rows, old.key = row.key → old.state ≠ .reaped) :
    ∃ max_age clock now evidence observation,
      call = .finalizeOwner max_age clock row.instance_token now evidence observation ∧
      observation.qualifies observation.epoch = true ∧
      observation.boundTo row.instance_token = true ∧
      (∃ c, Current db.runtimeOwnerEvidence row.instance_token c ∧ c.state = .scanPending) ∧
      InstanceMoved db.runtimeInstances db'.runtimeInstances row.instance_token .stopping
        .stopped := by
  have happended {token : String} {c new : OwnerEvidenceRow}
      (h : Appended db.runtimeOwnerEvidence db'.runtimeOwnerEvidence token c new) : row = new := by
    rcases h.row hrow with hnew' | ⟨r', hr', hkey, hsame⟩
    · exact hnew'
    · exact absurd (hsame ▸ hstate) (hnew r' hr' hkey.symm)
  cases h with
  | refused _ _ _ hsame =>
    rw [hsame] at hrow
    exact absurd hstate (hnew row hrow rfl)
  | began _ _ token _ _ _ first h =>
    rcases (Table.mem_insert h.evidence).mp hrow with hold | rfl
    · exact absurd hstate (hnew row hold rfl)
    · rw [h.live] at hstate
      cases hstate
  | heartbeat _ _ token _ _ _ c new h _ hlive _ =>
    rw [happended h, hlive] at hstate
    cases hstate
  | unknown _ _ token _ _ _ c new h _ hunknown _ _ =>
    rw [happended h, hunknown] at hstate
    cases hstate
  | stopping token _ _ h =>
    rcases h with hsame | ⟨c, new, h, -, hpending⟩
    · rw [hsame] at hrow
      exact absurd hstate (hnew row hrow rfl)
    · rw [happended h, hpending] at hstate
      cases hstate
  | finalized max_age clock token now evidence observation hqualifies hbound hmoved c new h
      hpending _ =>
    have htoken : row.instance_token = token := by
      rw [happended h]
      exact h.token
    subst htoken
    exact ⟨max_age, clock, now, evidence, observation, rfl, hqualifies, hbound,
      ⟨c, h.current, hpending⟩, hmoved⟩
  | stopped token _ _ _ _ hsame =>
    rw [hsame] at hrow
    exact absurd hstate (hnew row hrow rfl)

/-- **The evidence of every instance is one chain, in every run.**  Its revisions are `1, …, k`
with the last one current, from the same runtime, and on a boot clock that does not go back; an
instance has at least one.  A call that does not report success changes nothing, except a
heartbeat over live evidence that does not match it, which adds one revision `unknown`; without
live evidence a heartbeat does nothing; and evidence is reaped by a final observation alone, over
a pending scan and together with the end of the instance. -/
theorem owner_evidence_chain (calls : List OwnerCall) (n : Nat) :
    (∀ token, ∃ k, OwnerChain (ownersAt calls n) token k) ∧
    ∀ call, calls[n]? = some call →
      ((ownerStep (ownersAt calls n) call).1 ≠ .ok true →
        ownersAt calls (n + 1) = ownersAt calls n ∨
        ∃ max_age clock token fingerprint now evidence c new,
          call = .publishOwnerHeartbeat max_age clock token fingerprint now evidence ∧
          Appended (ownersAt calls n).runtimeOwnerEvidence
            (ownersAt calls (n + 1)).runtimeOwnerEvidence token c new ∧
          c.state = .live ∧ new.state = .unknown ∧
          (ownersAt calls (n + 1)).runtimeInstances = (ownersAt calls n).runtimeInstances ∧
          (matchesClock max_age clock c fingerprint now evidence = false ∨
            sameCapture now c.captured_at = true)) ∧
      (∀ max_age clock token fingerprint now evidence,
        call = .publishOwnerHeartbeat max_age clock token fingerprint now evidence →
        (∀ c, Current (ownersAt calls n).runtimeOwnerEvidence token c → c.state ≠ .live) →
        (ownerStep (ownersAt calls n) call).1 ≠ .ok true ∧
          ownersAt calls (n + 1) = ownersAt calls n) ∧
      ∀ row ∈ (ownersAt calls (n + 1)).runtimeOwnerEvidence.rows, row.state = .reaped →
        (∀ old ∈ (ownersAt calls n).runtimeOwnerEvidence.rows, old.key = row.key →
          old.state ≠ .reaped) →
        ∃ max_age clock now evidence observation,
          call = .finalizeOwner max_age clock row.instance_token now evidence observation ∧
          observation.qualifies observation.epoch = true ∧
          observation.boundTo row.instance_token = true ∧
          (∃ c, Current (ownersAt calls n).runtimeOwnerEvidence row.instance_token c ∧
            c.state = .scanPending) ∧
          InstanceMoved (ownersAt calls n).runtimeInstances
            (ownersAt calls (n + 1)).runtimeInstances row.instance_token .stopping .stopped := by
  have hinv : EvidenceInv (ownersAt calls n) := ownersAt_inv calls n
  refine ⟨hinv, ?_⟩
  intro call hcall
  have heffect := ownerStep_effect hinv call
  rw [← ownersAt_succ hcall] at heffect
  refine ⟨?_, ?_, fun row hrow hstate hnew => heffect.reaped hrow hstate hnew⟩
  · intro hr
    generalize (ownerStep (ownersAt calls n) call).1 = r at heffect hr
    cases heffect with
    | refused _ _ _ hsame => exact Or.inl hsame
    | unknown max_age clock token fingerprint now evidence c new h hlive hnew hsame hclock =>
      exact Or.inr ⟨max_age, clock, token, fingerprint, now, evidence, c, new, rfl, h, hlive,
        hnew, hsame, hclock⟩
    | _ => exact absurd rfl hr
  · rintro max_age clock token fingerprint now evidence rfl hnone
    generalize (ownerStep (ownersAt calls n) _).1 = r at heffect
    cases heffect with
    | refused _ _ hr hsame => exact ⟨hr, hsame⟩
    | heartbeat _ _ _ _ _ _ c new h hlive _ _ => exact absurd hlive (hnone c h.current)
    | unknown _ _ _ _ _ _ c new h hlive _ _ _ => exact absurd hlive (hnone c h.current)

end

end GuiguBridge
