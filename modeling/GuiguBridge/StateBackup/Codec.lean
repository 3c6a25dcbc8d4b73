import GuiguBridge.Lib.ByteCodec

/-!
# Records of backups and restores

The binary records of `isolated_state_backup`: the manifest of a snapshot, the record of the
restore journal (`codec.rs`) and the record of the cleanup journal (`cleanup_codec.rs`).

* `Identity`, `Manifest`, `RestoreRecord`, `CleanupRecord` — the records, with `body` as the source
  writes it;
* `encode`, `digest` — with the digest behind the body;
* `Sized` — what the three have in common: **every body has a size that the decoder takes**.

How the records are read is in `StateBackup.Cursor`.
-/

namespace GuiguBridge.StateBackup

open ByteCodec

/-- `sha2`. -/
class DigestCrates where
  /-- `Sha256::digest`. -/
  sha256 : Bytes → Block 32

/-! ### Fields -/

def putU16 (value : UInt16) : Bytes := bigEndian 2 value.toNat
def putU32 (value : UInt32) : Bytes := bigEndian 4 value.toNat
def putU64 (value : UInt64) : Bytes := bigEndian 8 value.toNat

def putOptional {α : Type} (put : α → Bytes) : Option α → Bytes
  | none => [0]
  | some value => 1 :: put value

/-! ### Records with a digest -/

/-- A body with its digest behind it. -/
def withDigest [DigestCrates] (body : Bytes) : Bytes := body ++ (DigestCrates.sha256 body).1

theorem length_withDigest [DigestCrates] (bytes : Bytes) :
    (withDigest bytes).length = bytes.length + 32 := by
  rw [withDigest, List.length_append, (DigestCrates.sha256 bytes).2]

/-- The bodies of a kind of record have a size that its decoder takes. -/
def Sized {α : Type} (body : α → Bytes) : Prop :=
  ∀ a, 8 ≤ (body a).length ∧ (body a).length ≤ 4000

/-! ### Identities -/

structure Identity where
  device : UInt64
  inode : UInt64
  size : UInt64
  uid : UInt32
  gid : UInt32
  mode : UInt32
  deriving DecidableEq

def putIdentity (value : Identity) : Bytes :=
  [putU64 value.device, putU64 value.inode, putU64 value.size, putU32 value.uid,
    putU32 value.gid, putU32 value.mode].flatten

@[simp] theorem length_putU16 (value : UInt16) : (putU16 value).length = 2 :=
  length_bigEndian 2 _

@[simp] theorem length_putU32 (value : UInt32) : (putU32 value).length = 4 :=
  length_bigEndian 4 _

@[simp] theorem length_putU64 (value : UInt64) : (putU64 value).length = 8 :=
  length_bigEndian 8 _

@[simp] theorem length_putIdentity (value : Identity) : (putIdentity value).length = 36 := by
  simp [putIdentity]

theorem length_putOptional {α : Type} {put : α → Bytes} {size : Nat}
    (h : ∀ a, (put a).length = size) (value : Option α) :
    (putOptional put value).length ≤ size + 1 := by
  cases value <;> simp [putOptional, h]

/-! ### The manifest -/

structure Manifest where
  operator_uid : UInt32
  operator_gid : UInt32
  namespace_ : Identity
  source_main : Identity
  source_wal : Option Identity
  source_shm : Option Identity
  source_set_hash : Block 32
  source_bytes : UInt64
  snapshot : Identity
  snapshot_hash : Block 32
  sqlite_version : UInt32
  page_size : UInt32
  page_count : UInt32
  user_version : UInt32
  schema_hash : Block 32
  snapshot_id : Block 16
  /-- The bits of the `i64`. -/
  created_nanos : UInt64
  deriving DecidableEq

namespace Manifest

/-- `GGT50B01`. -/
def tag : Block 8 := ⟨[0x47, 0x47, 0x54, 0x35, 0x30, 0x42, 0x30, 0x31], rfl⟩

def body (manifest : Manifest) : Bytes :=
  [tag.1, putU16 1, putU32 manifest.operator_uid, putU32 manifest.operator_gid,
    putIdentity manifest.namespace_, putIdentity manifest.source_main,
    putOptional putIdentity manifest.source_wal, putOptional putIdentity manifest.source_shm,
    manifest.source_set_hash.1, putU64 manifest.source_bytes, putIdentity manifest.snapshot,
    manifest.snapshot_hash.1, putU32 manifest.sqlite_version, putU32 manifest.page_size,
    putU32 manifest.page_count, putU32 manifest.user_version, manifest.schema_hash.1,
    manifest.snapshot_id.1, putU64 manifest.created_nanos].flatten

theorem sized : Sized body := by
  intro manifest
  have hwal := length_putOptional length_putIdentity manifest.source_wal
  have hshm := length_putOptional length_putIdentity manifest.source_shm
  simp only [body, List.flatten_cons, List.length_append, List.flatten_nil, List.length_nil,
    length_putU16, length_putU32, length_putU64, length_putIdentity, tag.2,
    manifest.source_set_hash.2, manifest.snapshot_hash.2, manifest.schema_hash.2,
    manifest.snapshot_id.2]
  omega

section

variable [DigestCrates]

def encode (manifest : Manifest) : Bytes := withDigest manifest.body
def digest (manifest : Manifest) : Block 32 := DigestCrates.sha256 manifest.encode

end

end Manifest

/-! ### The record of the restore journal -/

inductive RestorePhase where
  | prepared
  | intentShm
  | intentWal
  | intentMain
  | quarantined
  | newDurable
  | intentPublish
  | published
  | verified
  | committed
  | rollbackStart
  | rollbackNewAbsent
  | rollbackMain
  | rollbackWal
  | rollbackShm
  | restored
  | rollbackIntentRemoveNew
  | rollbackIntentMain
  | rollbackIntentWal
  | rollbackIntentShm
  | rollbackVerifying
  | intentNew
  deriving DecidableEq

namespace RestorePhase

/-- `self.phase as u8`. -/
def toByte : RestorePhase → UInt8
  | .prepared => 1
  | .intentShm => 2
  | .intentWal => 3
  | .intentMain => 4
  | .quarantined => 5
  | .newDurable => 6
  | .intentPublish => 7
  | .published => 8
  | .verified => 9
  | .committed => 10
  | .rollbackStart => 11
  | .rollbackNewAbsent => 12
  | .rollbackMain => 13
  | .rollbackWal => 14
  | .rollbackShm => 15
  | .restored => 16
  | .rollbackIntentRemoveNew => 17
  | .rollbackIntentMain => 18
  | .rollbackIntentWal => 19
  | .rollbackIntentShm => 20
  | .rollbackVerifying => 21
  | .intentNew => 22

def ofByte : UInt8 → Option RestorePhase
  | 1 => some .prepared
  | 2 => some .intentShm
  | 3 => some .intentWal
  | 4 => some .intentMain
  | 5 => some .quarantined
  | 6 => some .newDurable
  | 7 => some .intentPublish
  | 8 => some .published
  | 9 => some .verified
  | 10 => some .committed
  | 11 => some .rollbackStart
  | 12 => some .rollbackNewAbsent
  | 13 => some .rollbackMain
  | 14 => some .rollbackWal
  | 15 => some .rollbackShm
  | 16 => some .restored
  | 17 => some .rollbackIntentRemoveNew
  | 18 => some .rollbackIntentMain
  | 19 => some .rollbackIntentWal
  | 20 => some .rollbackIntentShm
  | 21 => some .rollbackVerifying
  | 22 => some .intentNew
  | _ => none

theorem ofByte_toByte (phase : RestorePhase) : ofByte phase.toByte = some phase := by
  cases phase <;> rfl

end RestorePhase

structure RestoreRecord where
  sequence : UInt64
  predecessor : Block 32
  manifest : Block 32
  snapshot : Block 32
  expected_current : Block 32
  phase : RestorePhase
  bitmap : UInt16
  original_main : Identity
  original_wal : Option Identity
  original_shm : Option Identity
  replacement : Option Identity
  deriving DecidableEq

namespace RestoreRecord

/-- `GGT50R01`. -/
def tag : Block 8 := ⟨[0x47, 0x47, 0x54, 0x35, 0x30, 0x52, 0x30, 0x31], rfl⟩

def body (record : RestoreRecord) : Bytes :=
  [tag.1, putU16 1, putU64 record.sequence, record.predecessor.1, record.manifest.1,
    record.snapshot.1, record.expected_current.1, [record.phase.toByte], putU16 record.bitmap,
    putIdentity record.original_main, putOptional putIdentity record.original_wal,
    putOptional putIdentity record.original_shm,
    putOptional putIdentity record.replacement].flatten

theorem sized : Sized body := by
  intro record
  have hwal := length_putOptional length_putIdentity record.original_wal
  have hshm := length_putOptional length_putIdentity record.original_shm
  have hnew := length_putOptional length_putIdentity record.replacement
  simp only [body, List.flatten_cons, List.length_append, List.flatten_nil, List.length_nil,
    List.length_cons, length_putU16, length_putU64, length_putIdentity, tag.2,
    record.predecessor.2, record.manifest.2, record.snapshot.2, record.expected_current.2]
  omega

section

variable [DigestCrates]

def encode (record : RestoreRecord) : Bytes := withDigest record.body
def digest (record : RestoreRecord) : Block 32 := DigestCrates.sha256 record.encode

end

end RestoreRecord

/-! ### The record of the cleanup journal -/

inductive CleanupKind where
  | backup
  | restore
  deriving DecidableEq

/-- `kind as u8`. -/
def CleanupKind.toByte : CleanupKind → UInt8
  | .backup => 1
  | .restore => 2

inductive CleanupPhase where
  | ready
  | intentManifest
  | manifestDisabled
  | intentShm
  | shmRemoved
  | intentWal
  | walRemoved
  | intentMain
  | mainRemoved
  | intentSnapshot
  | snapshotRemoved
  | intentManifestRemove
  | manifestRemoved
  | terminal
  | intentRestoreJournal
  | restoreJournalRemoved
  deriving DecidableEq

namespace CleanupPhase

/-- `self.phase as u8`. -/
def toByte : CleanupPhase → UInt8
  | .ready => 1
  | .intentManifest => 2
  | .manifestDisabled => 3
  | .intentShm => 4
  | .shmRemoved => 5
  | .intentWal => 6
  | .walRemoved => 7
  | .intentMain => 8
  | .mainRemoved => 9
  | .intentSnapshot => 10
  | .snapshotRemoved => 11
  | .intentManifestRemove => 12
  | .manifestRemoved => 13
  | .terminal => 14
  | .intentRestoreJournal => 15
  | .restoreJournalRemoved => 16

def ofByte : UInt8 → Option CleanupPhase
  | 1 => some .ready
  | 2 => some .intentManifest
  | 3 => some .manifestDisabled
  | 4 => some .intentShm
  | 5 => some .shmRemoved
  | 6 => some .intentWal
  | 7 => some .walRemoved
  | 8 => some .intentMain
  | 9 => some .mainRemoved
  | 10 => some .intentSnapshot
  | 11 => some .snapshotRemoved
  | 12 => some .intentManifestRemove
  | 13 => some .manifestRemoved
  | 14 => some .terminal
  | 15 => some .intentRestoreJournal
  | 16 => some .restoreJournalRemoved
  | _ => none

theorem ofByte_toByte (phase : CleanupPhase) : ofByte phase.toByte = some phase := by
  cases phase <;> rfl

end CleanupPhase

/-- `Record` of `cleanup_codec.rs`. -/
structure CleanupRecord where
  sequence : UInt64
  predecessor : Block 32
  kind : CleanupKind
  phase : CleanupPhase
  bitmap : UInt16
  expected_snapshot : Block 32
  manifest_digest : Block 32
  namespace_ : Identity
  snapshot : Identity
  manifest : Identity
  restore_journal : Option Identity
  restore_journal_digest : Option (Block 32)
  operation_lock : Identity
  old_main : Option Identity
  old_wal : Option Identity
  old_shm : Option Identity
  deriving DecidableEq

namespace CleanupRecord

/-- `GGT50CB1`, or `GGT50CR1`. -/
def tag : CleanupKind → Block 8
  | .backup => ⟨[0x47, 0x47, 0x54, 0x35, 0x30, 0x43, 0x42, 0x31], rfl⟩
  | .restore => ⟨[0x47, 0x47, 0x54, 0x35, 0x30, 0x43, 0x52, 0x31], rfl⟩

def body (record : CleanupRecord) : Bytes :=
  [(tag record.kind).1, putU16 1, putU64 record.sequence, record.predecessor.1,
    [record.kind.toByte], [record.phase.toByte], putU16 record.bitmap,
    record.expected_snapshot.1, record.manifest_digest.1, putIdentity record.namespace_,
    putIdentity record.snapshot, putIdentity record.manifest,
    putOptional putIdentity record.restore_journal,
    putOptional Subtype.val record.restore_journal_digest, putIdentity record.operation_lock,
    putOptional putIdentity record.old_main, putOptional putIdentity record.old_wal,
    putOptional putIdentity record.old_shm].flatten

theorem sized : Sized body := by
  intro record
  have hjournal := length_putOptional length_putIdentity record.restore_journal
  have hdigest := length_putOptional (fun block : Block 32 => block.2)
    record.restore_journal_digest
  have hmain := length_putOptional length_putIdentity record.old_main
  have hwal := length_putOptional length_putIdentity record.old_wal
  have hshm := length_putOptional length_putIdentity record.old_shm
  simp only [body, List.flatten_cons, List.length_append, List.flatten_nil, List.length_nil,
    List.length_cons, length_putU16, length_putU64, length_putIdentity, (tag record.kind).2,
    record.predecessor.2, record.expected_snapshot.2, record.manifest_digest.2]
  omega

section

variable [DigestCrates]

def encode (record : CleanupRecord) : Bytes := withDigest record.body
def digest (record : CleanupRecord) : Block 32 := DigestCrates.sha256 record.encode

end

end CleanupRecord

end GuiguBridge.StateBackup
