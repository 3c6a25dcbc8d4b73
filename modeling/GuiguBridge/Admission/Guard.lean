import GuiguBridge.Externals
import GuiguBridge.Lib.Client
import Mathlib.Logic.Function.Basic

/-!
# The admission lock

One process at a time works on a database: it holds a lock file beside it
(`Guard`, `src/src/runtime_admission.rs`).  The lock of an owner that is dead is put into
quarantine, and replaced.

* `Record`, `RecordCrates` — what a lock file says, and its bytes;
* `LockDir` — the directory: names, the files behind them and their bytes, and which processes
  live.  A file is known by a number that is never used again;
* `LockOp`, `serve` — the file operations one by one.  An operation may fail at any time, a write
  may stop anywhere, and a process that is dead does nothing any more;
* `readRecord`, `validateStale`, `create`, `acquire`, `revalidate`, `dropGuard` — as the source
  has them;
* `lockProcess` — a process that acquires and drops any number of times.
-/

namespace GuiguBridge.Admission

open Interleave

/-- `std::io::Error`, by its kind; `other` carries the message. -/
inductive IoError where
  | notFound
  | alreadyExists
  | other (message : String)
  deriving DecidableEq

structure FileIdentity where
  path : String
  device : Nat
  inode : Nat
  mode : Nat
  digest : String
  deriving DecidableEq

structure Record where
  version : Nat
  kind : String
  pid : Nat
  starttime : Nat
  executable : FileIdentity
  config : FileIdentity
  database : FileIdentity
  nonce : String
  deriving DecidableEq

/-- `serde_json` on records. -/
class RecordCrates where
  /-- `serde_json::to_vec`. -/
  toVec : Record → List Nat
  /-- `serde_json::from_slice`. -/
  fromSlice : List Nat → Option Record

/-- A record reads back from its bytes, and not from fewer of them. -/
def LawfulRecords [RecordCrates] : Prop :=
  ∀ record bytes, bytes <+: RecordCrates.toVec record →
    RecordCrates.fromSlice bytes =
      if bytes = RecordCrates.toVec record then some record else none

/-! ### The directory -/

/-- A name beside the database: `.runtime-admission.lock`, or `.runtime-admission.stale.` and
something. -/
inductive LockName where
  | lock
  | stale (nonce : String)
  deriving DecidableEq

/-- A file; `maker` is the process that created it, `none` for one that was there before. -/
structure LockFile where
  bytes : List Nat
  regular : Bool
  /-- `mode & 0o777`. -/
  permissions : Nat
  nlink : Nat
  maker : Option Nat
  deriving DecidableEq

structure LockDir where
  entries : List (LockName × Nat)
  files : Nat → LockFile
  /-- The number of the next file. -/
  next : Nat
  /-- The names that `reject_restore_interlock` looks for. -/
  markers : List String
  /-- What `identity` answers for a path. -/
  identities : String → Except IoError FileIdentity
  /-- The processes that live, by their places, with their `pid`. -/
  live : List (Nat × Nat)
  /-- The places whose process has lived. -/
  born : List Nat
  /-- The file that a process opened last. -/
  seen : Nat → Option Nat
  /-- Whether a process has been given a guard and has not dropped it. -/
  holding : Nat → Bool

namespace LockDir

def get (d : LockDir) (name : LockName) : Option Nat :=
  (d.entries.find? fun e => e.1 = name).map Prod.snd

def unlink (d : LockDir) (name : LockName) : LockDir :=
  { d with entries := d.entries.filter fun e => e.1 ≠ name }

def link (d : LockDir) (name : LockName) (file : Nat) : LockDir :=
  { d with entries := (name, file) :: d.entries.filter fun e => e.1 ≠ name }

/-- The process in this place lives. -/
def Lives (d : LockDir) (place : Nat) : Prop := place ∈ d.live.map Prod.fst

instance (d : LockDir) (place : Nat) : Decidable (d.Lives place) :=
  inferInstanceAs (Decidable (_ ∈ _))

/-- The process that made the file does not live. -/
def MakerDead (d : LockDir) (file : Nat) : Prop :=
  ∀ place, (d.files file).maker = some place → ¬ d.Lives place

instance (d : LockDir) (file : Nat) : Decidable (d.MakerDead file) :=
  match h : (d.files file).maker with
  | none => isTrue (by intro place hplace; rw [h] at hplace; cases hplace)
  | some maker =>
    decidable_of_iff (¬ d.Lives maker) (by
      unfold MakerDead
      rw [h]
      simp)

end LockDir

/-! ### Operations -/

/-- What `metadata` says of a file. -/
structure Metadata where
  regular : Bool
  permissions : Nat
  nlink : Nat
  inode : Nat
  deriving DecidableEq

inductive LockOp where
  /-- The process begins. -/
  | spawn (pid : Nat)
  /-- `symlink_metadata` of a marker. -/
  | marker (name : String)
  | identity (path : String)
  /-- `process_starttime`. -/
  | startTime (pid : Nat)
  | readDir
  /-- `Path::exists`. -/
  | pathExists (name : LockName)
  | openRead (name : LockName)
  | metadata (file : Nat)
  | readToEnd (file : Nat)
  | rename (source target : LockName)
  | fsyncParent
  | createNew (name : LockName)
  | write (file : Nat) (bytes : List Nat)
  | syncAll (file : Nat)
  /-- `symlink_metadata` of a name. -/
  | symlinkMetadata (name : LockName)
  | removeFile (name : LockName)
  /-- An `acquire` has returned its guard. -/
  | returned
  /-- A guard that was returned is dropped. -/
  | dropping
  deriving DecidableEq

@[reducible] def LockOp.Reply : LockOp → Type
  | .spawn _ => Bool
  | .marker _ => Except IoError Unit
  | .identity _ => Except IoError FileIdentity
  | .startTime _ => Except IoError Nat
  | .readDir => Except IoError (List LockName)
  | .pathExists _ => Bool
  | .openRead _ => Except IoError Nat
  | .metadata _ => Except IoError Metadata
  | .readToEnd _ => Except IoError (List Nat)
  | .rename _ _ => Except IoError Unit
  | .fsyncParent => Except IoError Unit
  | .createNew _ => Except IoError Nat
  | .write _ _ => Except IoError Nat
  | .syncAll _ => Except IoError Unit
  | .symlinkMetadata _ => Except IoError Metadata
  | .removeFile _ => Except IoError Unit
  | .returned => Unit
  | .dropping => Unit

/-- What the system decides: whether the operation fails, how many bytes a write takes, and the
start time it reports. -/
structure OpInput where
  failure : Option String
  taken : Nat
  started : Nat
  deriving DecidableEq

/-- An operation that fails. -/
def LockOp.failed (message : String) : (op : LockOp) → op.Reply
  | .spawn _ => false
  | .marker _ => .error (.other message)
  | .identity _ => .error (.other message)
  | .startTime _ => .error (.other message)
  | .readDir => .error (.other message)
  | .pathExists _ => false
  | .openRead _ => .error (.other message)
  | .metadata _ => .error (.other message)
  | .readToEnd _ => .error (.other message)
  | .rename _ _ => .error (.other message)
  | .fsyncParent => .error (.other message)
  | .createNew _ => .error (.other message)
  | .write _ _ => .error (.other message)
  | .syncAll _ => .error (.other message)
  | .symlinkMetadata _ => .error (.other message)
  | .removeFile _ => .error (.other message)
  | .returned => ()
  | .dropping => ()

/-- The failure that the system decides on.  To return a guard, and to begin its drop, is no file
operation. -/
def LockOp.failure (input : OpInput) : LockOp → Option String
  | .returned | .dropping => none
  | _ => input.failure

/-- A file is taken from its name, by a rename or a removal; `alive` when another process made
it and lives. -/
structure LockEvent where
  place : Nat
  file : Nat
  alive : Bool
  deriving DecidableEq

namespace LockDir

variable (d : LockDir)

/-- The process of a place takes away the file behind a name. -/
def takes (place : Nat) (name : LockName) : List LockEvent :=
  match d.get name with
  | none => []
  | some file => [⟨place, file, !decide (d.MakerDead file) &&
      decide ((d.files file).maker ≠ some place)⟩]

def metadataOf (file : Nat) : Metadata :=
  ⟨(d.files file).regular, (d.files file).permissions, (d.files file).nlink, file⟩

/-- A file without bytes, made by the process of this place with `.mode(0o600)`. -/
def make (place : Nat) (name : LockName) : LockDir :=
  { d.link name d.next with
    files := Function.update d.files d.next
      { bytes := [], regular := true, permissions := 0o600, nlink := 1, maker := some place },
    next := d.next + 1 }

def append (file : Nat) (bytes : List Nat) : LockDir :=
  let grown := { d.files file with bytes := (d.files file).bytes ++ bytes }
  { d with files := Function.update d.files file grown }

end LockDir

/-- One operation of a process that lives, and that the system lets succeed. -/
def perform (place : Nat) (input : OpInput) (d : LockDir) :
    (op : LockOp) → op.Reply × LockDir × List LockEvent
  | .spawn _ => (false, d, [])
  | .marker name => (if d.markers.contains name then .ok () else .error .notFound, d, [])
  | .identity path => (d.identities path, d, [])
  | .startTime pid =>
    (if pid ∈ d.live.map Prod.snd then .ok input.started else .error .notFound, d, [])
  | .readDir => (.ok (d.entries.map Prod.fst), d, [])
  | .pathExists name => ((d.get name).isSome, d, [])
  | .openRead name =>
    match d.get name with
    | none => (.error .notFound, d, [])
    | some file => (.ok file, { d with seen := Function.update d.seen place (some file) }, [])
  | .metadata file => (.ok (d.metadataOf file), d, [])
  | .readToEnd file => (.ok (d.files file).bytes, d, [])
  | .rename source target =>
    match d.get source with
    | none => (.error .notFound, d, [])
    | some file => (.ok (), (d.unlink source).link target file,
        d.takes place source ++ d.takes place target)
  | .fsyncParent => (.ok (), d, [])
  | .createNew name =>
    if (d.get name).isSome then (.error .alreadyExists, d, [])
    else (.ok d.next, d.make place name, [])
  | .write file bytes => (.ok (min input.taken bytes.length), d.append file (bytes.take input.taken), [])
  | .syncAll _ => (.ok (), d, [])
  | .symlinkMetadata name =>
    match d.get name with
    | none => (.error .notFound, d, [])
    | some file => (.ok (d.metadataOf file), d, [])
  | .removeFile name =>
    if (d.get name).isSome then (.ok (), d.unlink name, d.takes place name)
    else (.error .notFound, d, [])
  | .returned => ((), { d with holding := Function.update d.holding place true }, [])
  | .dropping => ((), { d with holding := Function.update d.holding place false }, [])

/-- One operation.  A process begins once, with a `pid` that no living process has. -/
def serve (place : Nat) (op : LockOp) (input : OpInput) (d : LockDir) :
    op.Reply × LockDir × List LockEvent :=
  match op with
  | .spawn pid =>
    if place ∈ d.born ∨ pid ∈ d.live.map Prod.snd then (false, d, [])
    else (true, { d with live := (place, pid) :: d.live, born := place :: d.born }, [])
  | op =>
    if ¬ d.Lives place then (op.failed "dead", d, [])
    else
      match op.failure input with
      | some message => (op.failed message, d, [])
      | none => perform place input d op

/-- What happens around the processes: one dies, and the files beside the lock change. -/
inductive LockWorld where
  | dies (place : Nat)
  | changes (markers : List String) (identities : String → Except IoError FileIdentity)

def LockWorld.apply : LockWorld → LockDir → LockDir
  | .dies place, d => { d with live := d.live.filter fun e => e.1 ≠ place }
  | .changes markers identities, d => { d with markers := markers, identities := identities }

def lockServer : PlacedServer LockOp LockOp.Reply LockDir OpInput LockEvent := ⟨serve⟩

/-! ### The guard -/

abbrev LockClient (α : Type) := Client LockOp LockOp.Reply α

/-- A part of the guard's code. -/
abbrev LockCode (α : Type) := ExceptT IoError (Client LockOp LockOp.Reply) α

/-- Processes over one directory. -/
def lockSystem : System LockDir (LockClient Unit) OpInput LockWorld LockEvent :=
  placedSystem lockServer LockWorld.apply

def request (op : LockOp) : LockClient op.Reply := Client.request op

/-- An operation whose failure ends the call. -/
def ask {α : Type} (client : LockClient (Except IoError α)) : LockCode α := ExceptT.mk client

/-- Code whose failure does not end the call. -/
def attempt {α : Type} (code : LockCode α) : LockCode (Except IoError α) := ExceptT.lift code.run

structure Guard where
  nonce : String
  inode : Nat
  deriving DecidableEq

/-- The parameters of an `acquire`, with the identities that it makes. -/
structure AcquireInput where
  database : String
  config : String
  /-- `current_exe`, canonical. -/
  executable : String
  kind : String
  nonce : String
  pid : Nat
  deriving DecidableEq

/-- The kinds that a record may have. -/
def lockKinds : List String :=
  ["startup", "reconcile", "manual-abandonment", "terminal-cleanup", "fixture-prepare",
    "fixture-migrate", "backup", "backup-verify", "restore", "owner-binding-remediation"]

def restoreMarkers : List String :=
  ["restore.journal.v1", "restore.journal.next", "restore.journal.prev",
    "cleanup.restore.journal.v1", "cleanup.restore.journal.next", "cleanup.restore.journal.prev",
    "cleanup.backup.journal.v1", "cleanup.backup.journal.next", "cleanup.backup.journal.prev",
    "snapshot.manifest.quarantine", "restore.new.sqlite3", "pre-restore.main", "pre-restore.wal",
    "pre-restore.shm"]

def cleanupWitnesses : List String :=
  [".t050-backup-cleanup-owner.v1", ".t050-backup-cleanup-owner.next",
    ".t050-backup-cleanup-owner.prev"]

/-- The markers that an `acquire` of a kind looks at. -/
def interlocks (kind : String) : List String :=
  restoreMarkers.filter fun marker =>
    !(kind == "restore" && (marker.startsWith "restore." || marker.startsWith "pre-restore."))

/-- A name that must not be there. -/
def rejectMarker (active ambiguous : String) (name : String) : LockCode Unit := do
  let found ← attempt (ask (request (.marker name)))
  match found with
  | .ok _ => throw (.other active)
  | .error .notFound => pure ()
  | .error _ => throw (.other ambiguous)

/-- `reject_restore_interlock`. -/
def rejectRestoreInterlock (kind : String) : LockCode Unit := do
  (interlocks kind).forM
    (rejectMarker "restore interlock is active" "restore interlock is ambiguous")
  cleanupWitnesses.forM
    (rejectMarker "cleanup interlock is active" "cleanup interlock is ambiguous")

section

variable [Externals] [RecordCrates]

/-- The checks of `read_record` on what it has read. -/
def Record.valid (record : Record) : Bool :=
  record.version == 1 && lockKinds.contains record.kind && record.pid != 0 &&
    record.starttime != 0 && (Externals.parseUuid record.nonce).isSome

/-- `read_record`. -/
def readRecord (name : LockName) : LockCode Record := do
  let file ← ask (request (.openRead name))
  let metadata ← ask (request (.metadata file))
  if !metadata.regular || metadata.permissions != 0o600 || metadata.nlink != 1 then
    throw (.other "invalid admission lock")
  let bytes ← ask (request (.readToEnd file))
  match RecordCrates.fromSlice bytes with
  | none => throw (.other "malformed admission lock")
  | some record =>
    if record.valid then pure record else throw (.other "invalid admission lock record")

omit [Externals] [RecordCrates] in
/-- `validate_stale`. -/
def validateStale (record stale : Record) : LockCode Unit := do
  let started ← attempt (ask (request (.startTime stale.pid)))
  match started with
  | .ok _ => throw (.other "admission owner may be live")
  | .error .notFound =>
    if stale.executable ≠ record.executable ∨ stale.config ≠ record.config ∨
        stale.database ≠ record.database then
      throw (.other "stale lock identity drift")
    else pure ()
  | .error _ => throw (.other "admission owner is unknown")

omit [Externals] [RecordCrates] in
/-- `write_all`; the first argument bounds the number of writes, and the length of what is
written is enough. -/
def writeAll (file : Nat) : Nat → List Nat → LockCode Unit
  | 0, _ => pure ()
  | fuel + 1, bytes =>
    if bytes = [] then pure ()
    else do
      let taken ← ask (request (.write file bytes))
      if taken = 0 then throw (.other "failed to write whole buffer")
      else writeAll file fuel (bytes.drop taken)

omit [Externals] [RecordCrates] in
/-- The closure `create` of `acquire`. -/
def create (nonce : String) (bytes : List Nat) : LockCode Guard := do
  let file ← ask (request (.createNew .lock))
  writeAll file bytes.length bytes
  ask (request (.syncAll file))
  let metadata ← ask (request (.metadata file))
  ask (request .fsyncParent)
  pure ⟨nonce, metadata.inode⟩

/-- `Guard::revalidate`. -/
def revalidate (guard : Guard) : LockCode Unit := do
  let record ← readRecord .lock
  let metadata ← ask (request (.symlinkMetadata .lock))
  if record.nonce ≠ guard.nonce ∨ metadata.inode ≠ guard.inode then
    throw (.other "admission lock identity changed")
  else pure ()

/-- `Drop for Guard`. -/
def dropGuard (guard : Guard) : LockClient Unit := do
  let valid ← (revalidate guard).run
  match valid with
  | .error _ => pure ()
  | .ok _ => do
    let removed : Except IoError Unit ← request (.removeFile .lock)
    match removed with
    | .error _ => pure ()
    | .ok _ => do
      let _ ← request .fsyncParent
      pure ()

omit [RecordCrates] in
/-- Whether the listed names and the path are ambiguous; the path is only looked at when there
is one quarantine. -/
def ambiguous (quarantines : List LockName) : LockCode Bool :=
  if 1 < quarantines.length then pure true
  else if quarantines = [] then pure false
  else ExceptT.lift (request (.pathExists .lock))

/-- The guard is dropped when one of the steps after its creation fails. -/
def orDrop (guard : Guard) (step : LockCode Unit) : LockCode Unit := do
  let result ← attempt step
  match result with
  | .ok _ => pure ()
  | .error error => do
    ExceptT.lift (dropGuard guard)
    throw error

/-- The lock of a dead owner is put into quarantine and replaced. -/
def reclaim (record : Record) (bytes : List Nat) : LockCode Guard := do
  let stale ← readRecord .lock
  validateStale record stale
  ask (request (.rename .lock (.stale stale.nonce)))
  ask (request .fsyncParent)
  let guard ← create record.nonce bytes
  orDrop guard do
    ask (request (.removeFile (.stale stale.nonce)))
    ask (request .fsyncParent)
  pure guard

/-- A quarantine that was left behind takes the place of the lock again. -/
def readmit (record : Record) : List LockName → LockCode Unit
  | [] => pure ()
  | quarantine :: _ => do
    let stale ← readRecord quarantine
    validateStale record stale
    ask (request (.rename quarantine .lock))
    ask (request .fsyncParent)

omit [Externals] [RecordCrates] in
def LockName.isStale : LockName → Bool
  | .lock => false
  | .stale _ => true

/-- `Guard::acquire`. -/
def acquire (input : AcquireInput) : LockCode Guard := do
  rejectRestoreInterlock input.kind
  let database ← ask (request (.identity input.database))
  let config ← ask (request (.identity input.config))
  let executable ← ask (request (.identity input.executable))
  let starttime ← ask (request (.startTime input.pid))
  let record : Record :=
    { version := 1, kind := input.kind, pid := input.pid, starttime := starttime,
      executable := executable, config := config, database := database, nonce := input.nonce }
  let bytes := RecordCrates.toVec record
  let names ← ask (request .readDir)
  let quarantines := names.filter LockName.isStale
  if ← ambiguous quarantines then throw (.other "ambiguous admission quarantine")
  readmit record quarantines
  let created ← attempt (create input.nonce bytes)
  match created with
  | .ok guard => pure guard
  | .error .alreadyExists => reclaim record bytes
  | .error error => throw error

/-- One `acquire`, and the drop of the guard if there is one. -/
def acquireAndDrop (input : AcquireInput) : LockClient Unit := do
  let result ← (acquire input).run
  match result with
  | .error _ => pure ()
  | .ok guard => do
    request .returned
    request .dropping
    dropGuard guard

/-- A process with this `pid` that acquires and drops, one call after the other. -/
def lockProcess (pid : Nat) (calls : List AcquireInput) : LockClient Unit := do
  let begun : Bool ← request (.spawn pid)
  if begun then calls.forM fun input => acquireAndDrop { input with pid := pid }
  else pure ()

end

end GuiguBridge.Admission
