import GuiguBridge.Lib.Thread
import GuiguBridge.Reference
import GuiguBridge.Storage.OutputDelivery

/-!
# The files of the output spool

Each output set has a directory with one file a segment and a manifest
(`src/src/acp/output_files.rs`).  The programs here are threads: every call of the store and of
the file system is one step, and other processes work on both in between.

* `SpoolFiles` — the directories of the sets; a file has its inode, so that a hard link is two
  names of one file;
* `SpoolWorld`, `SpoolM` — store and files together, and the programs over them;
* `Manifest` — the document that names the segments of a set;
* `readSegment`, `readDelivery` — what a drain reads, with every check it makes;
* `cleanup` — the removal of a set, file by file.
-/

namespace GuiguBridge

open Relational Interleave

abbrev Bytes := List UInt8

/-- `sha2`. -/
class HashCrates where
  /-- The lower-case hexadecimal text of `Sha256::digest`. -/
  sha256 : Bytes → String

instance Reference.hashes : HashCrates where
  sha256 bytes := Reference.hexText (Reference.sha256 (bytes.map (·.toNat)))

/-- The bytes of a text. -/
def utf8 (s : String) : Bytes := s.toList.flatMap String.utf8EncodeChar

/-- `std::str::from_utf8`. -/
def fromUtf8 (bytes : Bytes) : Option String := String.fromUTF8? ⟨bytes.toArray⟩

/-! ### Directories -/

/-- A file under one of its names. -/
structure FileEntry where
  name : String
  inode : Nat
  bytes : Bytes
  deriving DecidableEq

/-- The directory of a set: its permission bits and its files. -/
structure SetDir where
  set_id : String
  mode : Nat
  files : Table FileEntry.name

/-- The directory `sets` of the spool. -/
abbrev SpoolFiles := Table SetDir.set_id

/-- The links of a file. -/
def SetDir.nlink (d : SetDir) (inode : Nat) : Nat := d.files.affected fun e => e.inode = inode

/-- The file under a name. -/
def SpoolFiles.file (fs : SpoolFiles) (set_id name : String) : Option FileEntry :=
  (fs.get set_id).bind fun d => d.files.get name

/-- The directory of a set under a change of its files. -/
def SpoolFiles.modify (fs : SpoolFiles) (set_id : String)
    (f : Table FileEntry.name → Table FileEntry.name) : SpoolFiles :=
  fs.updateWhere (fun d => decide (d.set_id = set_id)) (fun d => { d with files := f d.files })
    fun _ => rfl

/-- Store and files. -/
structure SpoolWorld where
  db : Db
  files : SpoolFiles

inductive OutputSpoolError where
  | io
  | store (e : OutputStoreError)
  | identity
  deriving DecidableEq

inductive DurableSendError where
  | retryable | permanent | unknownCommit
  deriving DecidableEq

/-- How a step is answered: by the store or the file system, or by the room. -/
structure SpoolInput where
  answer : Answer
  send : Except DurableSendError Unit

/-- What the threads of the spool did. -/
inductive SpoolEvent where
  | read (set_id name : String) (bytes : Bytes)
  | sent (set_id : String) (part : DeliveryPart) (body : Bytes)
  | acked (set_id : String) (index : Int) (owner : String) (revision : Nat)
  deriving DecidableEq

/-- A program over the spool. -/
abbrev SpoolM := ExceptT OutputSpoolError (Thread SpoolWorld SpoolInput SpoolEvent)

namespace SpoolM

variable {α : Type}

/-- One statement of the store. -/
def store (f : Db → Except OutputStoreError α × Db)
    (log : Except OutputStoreError α → List SpoolEvent := fun _ => []) : SpoolM α :=
  ExceptT.mk (Thread.atomic fun i w =>
    let r := f w.db
    match i.answer with
    | .ok => (r.1.mapError .store, { w with db := r.2 }, log r.1)
    | .failed => (.error (.store .sql), w, [])
    | .lost => (.error (.store .sql), { w with db := r.2 }, log r.1))

/-- One call of the file system. -/
def file (f : SpoolFiles → Except OutputSpoolError α × SpoolFiles)
    (log : Except OutputSpoolError α → List SpoolEvent := fun _ => []) : SpoolM α :=
  ExceptT.mk (Thread.atomic fun i w =>
    let r := f w.files
    match i.answer with
    | .ok => (r.1, { w with files := r.2 }, log r.1)
    | .failed => (.error .io, w, [])
    | .lost => (.error .io, { w with files := r.2 }, log r.1))

/-- `ok_or`. -/
def some? (o : Option α) (e : OutputSpoolError) : SpoolM α :=
  match o with
  | some a => pure a
  | none => throw e

/-- A result that no call has. -/
def ofExcept : Except OutputSpoolError α → SpoolM α
  | .ok a => pure a
  | .error e => throw e

/-- An early return with an error unless `c` holds. -/
def require (c : Bool) (e : OutputSpoolError) : SpoolM Unit :=
  if c then pure () else throw e

end SpoolM

/-! ### Reading -/

/-- The content of a file with one link. -/
def readExact (fs : SpoolFiles) (set_id name : String) : Except OutputSpoolError Bytes :=
  match fs.get set_id with
  | none => .error .io
  | some d =>
    match d.files.get name with
    | none => .error .io
    | some e => if d.nlink e.inode = 1 then .ok e.bytes else .error .io

/-- `read_exact_file`. -/
def readExactFile (set_id name : String) : SpoolM Bytes :=
  SpoolM.file (fun fs => (readExact fs set_id name, fs)) fun r =>
    match r with
    | .ok bytes => [.read set_id name bytes]
    | .error _ => []

/-- `fs::read_dir`: the names in a directory. -/
def readDir (set_id : String) : SpoolM (List String) :=
  SpoolM.file fun fs =>
    (match fs.get set_id with
      | none => .error .io
      | some d => .ok (d.files.rows.map FileEntry.name), fs)

section

variable [HashCrates]

/-- `output_files::hash`. -/
def hash (bytes : Bytes) : String := HashCrates.sha256 bytes

/-- `read_segment`. -/
def readSegment (segment : OutputSegment) : SpoolM Bytes := do
  let bytes ← readExactFile segment.set_id segment.relative_name
  SpoolM.require (hash bytes = segment.content_hash ∧
    (bytes.length : Int) = (segment.byte_end : Int) - segment.byte_start) .identity
  pure bytes

end

/-! ### The manifest -/

structure ManifestSegment where
  index : Nat
  start : Nat
  stop : Nat
  hash : String
  name : String
  deriving DecidableEq

structure Manifest where
  format : Nat
  set_id : String
  total_bytes : Nat
  total_hash : String
  segments : List ManifestSegment
  deriving DecidableEq

/-- `Serialize` of a segment of the manifest. -/
def ManifestSegment.toJson (s : ManifestSegment) : Json :=
  .obj [("index", .num s.index), ("start", .num s.start), ("end", .num s.stop),
    ("hash", .str s.hash), ("name", .str s.name)]

/-- `Serialize` of the manifest. -/
def Manifest.toJson (m : Manifest) : Json :=
  .obj [("format", .num m.format), ("set_id", .str m.set_id),
    ("total_bytes", .num m.total_bytes), ("total_hash", .str m.total_hash),
    ("segments", .arr (m.segments.map ManifestSegment.toJson))]

/-- A field that holds an unsigned integer below `bound`. -/
def natField (bound : Nat) (names : List String) (name : String) (content : Json) :
    Option Nat :=
  match structField names name content with
  | some (.num n) => if 0 ≤ n ∧ n < bound then some n.toNat else none
  | _ => none

/-- `deny_unknown_fields`. -/
def knownFields (names : List String) : Json → Bool
  | .obj fields => fields.all fun f => f.1 ∈ names
  | _ => true

def manifestSegmentFields : List String := ["index", "start", "end", "hash", "name"]

/-- `Deserialize` of a segment of the manifest. -/
def ManifestSegment.ofJson (json : Json) : Option ManifestSegment :=
  if knownFields manifestSegmentFields json then do
    let index ← natField (2 ^ 64) manifestSegmentFields "index" json
    let start ← natField (2 ^ 64) manifestSegmentFields "start" json
    let stop ← natField (2 ^ 64) manifestSegmentFields "end" json
    let hash ← stringField manifestSegmentFields "hash" json
    let name ← stringField manifestSegmentFields "name" json
    some ⟨index, start, stop, hash, name⟩
  else none

def manifestFields : List String := ["format", "set_id", "total_bytes", "total_hash", "segments"]

/-- `Deserialize` of the manifest. -/
def Manifest.ofJson (json : Json) : Option Manifest :=
  if knownFields manifestFields json then do
    let format ← natField (2 ^ 32) manifestFields "format" json
    let set_id ← stringField manifestFields "set_id" json
    let total_bytes ← natField (2 ^ 64) manifestFields "total_bytes" json
    let total_hash ← stringField manifestFields "total_hash" json
    match structField manifestFields "segments" json with
    | some (.arr items) => do
      let segments ← items.mapM ManifestSegment.ofJson
      some ⟨format, set_id, total_bytes, total_hash, segments⟩
    | _ => none
  else none

def manifestName : String := "manifest-v1.json"

/-- The name of a segment's file. -/
def segmentName (index : Nat) : String := "segment-" ++ toString index ++ ".bin"

section

variable [Externals]

/-- `serde_json::to_vec`. -/
def manifestBytes (m : Manifest) : Bytes := utf8 (Externals.jsonText m.toJson)

/-- `serde_json::from_slice`. -/
def parseManifest (bytes : Bytes) : Option Manifest := do
  let text ← fromUtf8 bytes
  let json ← Externals.parseJson text
  Manifest.ofJson json

variable [HashCrates]

/-- The loop of `validate_tree` over the segments: each continues the one before it and has
its file.  The value is where the last one stops, and all bytes together. -/
def validateSegmentFiles (set_id : String) :
    Nat → Nat → Bytes → List ManifestSegment → SpoolM (Nat × Bytes)
  | _, start, aggregate, [] => pure (start, aggregate)
  | index, start, aggregate, item :: rest => do
    SpoolM.require (item.index = index ∧ item.start = start ∧ item.start ≤ item.stop ∧
      item.name = segmentName index) .identity
    let content ← readExactFile set_id item.name
    SpoolM.require (content.length = item.stop - item.start ∧ hash content = item.hash) .identity
    validateSegmentFiles set_id (index + 1) item.stop (aggregate ++ content) rest

/-- `validate_tree`. -/
def validateTree (set_id : String) (manifest : Manifest) : SpoolM Unit := do
  let names ← readDir set_id
  let expected := manifestName :: manifest.segments.map ManifestSegment.name
  SpoolM.require (names.all (· ∈ expected) && expected.all (· ∈ names)) .identity
  let (start, aggregate) ← validateSegmentFiles set_id 0 0 [] manifest.segments
  SpoolM.require (start = manifest.total_bytes ∧ hash aggregate = manifest.total_hash) .identity

/-- `validate_manifest`. -/
def validateManifest (delivery : PendingDelivery) : SpoolM Unit := do
  let segment := delivery.spool
  let bytes ← readExactFile segment.set_id manifestName
  let manifest ← SpoolM.some? (parseManifest bytes) .identity
  SpoolM.require (manifest.format = 1 ∧ manifest.set_id = segment.set_id ∧
    manifest.total_bytes = delivery.total_bytes ∧ manifest.total_hash = delivery.total_hash ∧
    manifestBytes manifest = bytes) .identity
  validateTree segment.set_id manifest
  let item ← SpoolM.some? manifest.segments[segment.index]? .identity
  SpoolM.require (item.index = segment.index ∧ item.start = segment.byte_start ∧
    item.stop = segment.byte_end ∧ item.hash = segment.content_hash ∧
    item.name = segment.relative_name) .identity

/-- The part of a segment's bytes that a delivery names. -/
def partSlice (part : DeliveryPart) (segment : OutputSegment) (bytes : Bytes) : Option Bytes :=
  let start := part.byte_start - segment.byte_start
  let stop := part.byte_end - segment.byte_start
  if 0 ≤ start ∧ start ≤ stop ∧ stop ≤ bytes.length then
    some ((bytes.take stop.toNat).drop start.toNat)
  else none

/-- `read_delivery`. -/
def readDelivery (delivery : PendingDelivery) : SpoolM Bytes := do
  validateManifest delivery
  let bytes ← readSegment delivery.spool
  let slice ← SpoolM.some? (partSlice delivery.part delivery.spool bytes) .identity
  SpoolM.require (hash slice = delivery.part.content_hash) .identity
  pure slice

end

/-! ### Removing -/

/-- `remove_file`: a name that is gone already is no error. -/
def removeFile (set_id name : String) : SpoolM Unit :=
  SpoolM.file fun fs =>
    (.ok (), fs.modify set_id fun t => t.deleteWhere fun e => decide (e.name = name))

/-- The check of `validate_dir`. -/
def SetDir.valid (d : SetDir) : Bool := decide (d.mode = 0o700)

/-- `fs::remove_dir`: only an empty directory goes. -/
def removeDir (set_id : String) : SpoolM Unit :=
  SpoolM.file fun fs =>
    match fs.get set_id with
    | none => (.ok (), fs)
    | some d =>
      if d.files.rows = [] then (.ok (), fs.deleteWhere fun d => decide (d.set_id = set_id))
      else (.error .io, fs)

/-- The loop of `cleanup` over the segments. -/
def removeFiles (set_id : String) : List String → SpoolM Unit
  | [] => pure ()
  | name :: rest => do
    removeFile set_id name
    removeFiles set_id rest

/-- `validate_dir`. -/
def validateDir (set_id : String) : SpoolM Unit :=
  SpoolM.file fun fs =>
    (match fs.get set_id with
      | none => .error .io
      | some d => if d.valid then .ok () else .error .identity, fs)

/-- `cleanup`. -/
def cleanup (set_id : String) (segments : List OutputSegment) : SpoolM Unit := do
  let dir_exists ← SpoolM.file fun fs => (.ok (fs.get set_id).isSome, fs)
  if dir_exists then
    validateDir set_id
    removeFiles set_id (segments.map OutputSegment.relative_name)
    removeFile set_id manifestName
    removeDir set_id

end GuiguBridge
