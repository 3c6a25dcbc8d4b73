import GuiguBridge.Lib.Cursor
import GuiguBridge.StateBackup.Codec

/-!
# The record decoders at their positions

`isolated_state_backup` reads its records with a position in the bytes (`codec.rs`,
`cleanup_codec.rs`), and slices before it reads.  The decoders stand here as they run, with what
would be a panic.

* `Manifest.readAt`, `RestoreRecord.readAt`, `CleanupRecord.readAt` — the fields, each record with
  its `codec`: **what is read are the bytes that are written**;
* `readDigestedAt` — the decoder around them;
* `Canonical` — **a record is decoded from its bytes and from no others, and no bytes make the
  decoder panic**; `Canonical.of_codec`.
-/

namespace GuiguBridge.StateBackup

open ByteCodec

/-! ### Fields -/

/-- `Reader::magic`. -/
def magicAt (value : Bytes) : Cursor Unit := do
  let found ← Cursor.take value.length
  Cursor.check (found = value)

/-- `Reader::identity`. -/
def identityAt : Cursor Identity := do
  let device ← Cursor.u64
  let inode ← Cursor.u64
  let size ← Cursor.u64
  let uid ← Cursor.u32
  let gid ← Cursor.u32
  let mode ← Cursor.u32
  pure ⟨device, inode, size, uid, gid, mode⟩

/-- `Reader::optional_identity`, `Reader::optional_array`. -/
def optionalAt {α : Type} (field : Cursor α) : Cursor (Option α) := do
  match ← Cursor.byte with
  | 0 => pure none
  | 1 => return some (← field)
  | _ => Cursor.fail

/-- An enumeration that is written as one byte. -/
def enumerationAt {α : Type} (ofByte : UInt8 → Option α) : Cursor α := do
  match ofByte (← Cursor.byte) with
  | some value => pure value
  | none => Cursor.fail

theorem codec_u16 : Codec Cursor.u16 (Written putU16) := Codec.u16

theorem codec_u32 : Codec Cursor.u32 (Written putU32) := Codec.u32

theorem codec_u64 : Codec Cursor.u64 (Written putU64) := Codec.u64

theorem codec_magic (value : Bytes) : Codec (magicAt value) (Written fun _ => value) := by
  refine (Codec.bind (.take _) fun found => .guard (found = value)).congr fun _ bytes => ?_
  constructor
  · rintro ⟨_, _, ⟨rfl, -⟩, _, rfl, rfl, rfl⟩
    exact List.append_nil _
  · rintro rfl
    exact ⟨bytes, bytes, ⟨rfl, rfl⟩, [], (List.append_nil _).symm, rfl, rfl⟩

theorem codec_identity : Codec identityAt (Written putIdentity) := by
  refine (Codec.field codec_u64 fun _ => .field codec_u64 fun _ => .field codec_u64 fun _ =>
    .field codec_u32 fun _ => .field codec_u32 fun _ => .field codec_u32 fun _ =>
    .pure _).congr fun value bytes => ?_
  constructor
  · intro hmore
    obtain ⟨_, _, rfl, _, _, rfl, _, _, rfl, hmore⟩ := hmore
    obtain ⟨_, _, rfl, _, _, rfl, _, _, rfl, rfl, rfl⟩ := hmore
    rfl
  · rintro rfl
    exact ⟨_, _, rfl, _, _, rfl, _, _, rfl, _, _, rfl, _, _, rfl, _, _, rfl, rfl, rfl⟩

theorem codec_optional {α : Type} {field : Cursor α} {put : α → Bytes}
    (h : Codec field (Written put)) : Codec (optionalAt field) (Written (putOptional put)) := by
  have htag : ∀ tag : UInt8, Codec (match tag with
      | 0 => pure none
      | 1 => return some (← field)
      | _ => Cursor.fail : Cursor (Option α)) fun value bytes =>
      (tag = 0 ∧ value = none ∧ bytes = []) ∨ ∃ a, tag = 1 ∧ value = some a ∧ bytes = put a := by
    intro tag
    split
    · refine (Codec.pure none).congr fun value bytes => ?_
      simp
    · refine (Codec.field h fun a => .pure (some a)).congr fun value bytes => ?_
      constructor
      · rintro ⟨a, _, rfl, rfl, rfl⟩
        exact .inr ⟨a, rfl, rfl, List.append_nil _⟩
      · rintro (⟨htag, -⟩ | ⟨a, -, rfl, rfl⟩)
        · cases htag
        · exact ⟨a, [], (List.append_nil _).symm, rfl, rfl⟩
    · rename_i h0 h1
      refine Codec.fail.congr fun value bytes => ?_
      refine iff_of_false id ?_
      rintro (⟨rfl, -⟩ | ⟨a, rfl, -⟩)
      · exact h0 rfl
      · exact h1 rfl
  refine (Codec.field Codec.byte htag).congr fun value bytes => ?_
  constructor
  · rintro ⟨_, _, rfl, ⟨rfl, rfl, rfl⟩ | ⟨a, rfl, rfl, rfl⟩⟩
    · rfl
    · rfl
  · rintro rfl
    cases value with
    | none => exact ⟨0, [], rfl, .inl ⟨rfl, rfl, rfl⟩⟩
    | some a => exact ⟨1, put a, rfl, .inr ⟨a, rfl, rfl, rfl⟩⟩

theorem codec_enumeration {α : Type} {toByte : α → UInt8} {ofByte : UInt8 → Option α}
    (hof : ∀ a, ofByte (toByte a) = some a) (hto : ∀ b a, ofByte b = some a → b = toByte a) :
    Codec (enumerationAt ofByte) (Written fun a => [toByte a]) := by
  have hvalue : ∀ b : UInt8, Codec (match ofByte b with
      | some value => pure value
      | none => Cursor.fail : Cursor α) fun a bytes => ofByte b = some a ∧ bytes = [] := by
    intro b
    cases hb : ofByte b with
    | some value =>
      refine (Codec.pure value).congr fun a bytes => ?_
      rw [Option.some_inj, eq_comm]
    | none =>
      refine Codec.fail.congr fun a bytes => ?_
      exact iff_of_false id fun h => nomatch h.1
  refine (Codec.field Codec.byte hvalue).congr fun a bytes => ?_
  constructor
  · rintro ⟨b, _, rfl, hb, rfl⟩
    rw [hto b a hb]
    rfl
  · rintro rfl
    exact ⟨toByte a, [], rfl, hof a, rfl⟩

/-! ### Records with a digest -/

section

variable [DigestCrates] {α : Type}

/-- The decoders, with the slices and the position they read at. -/
def readDigestedAt (read : Cursor α) (encode : α → Bytes) (bytes : Bytes) : Outcome α :=
  if 4096 < bytes.length ∨ bytes.length < 40 then .err
  else do
    let mid ← usizeSub bytes.length 32
    let (body, tail) ← splitAt bytes mid
    if (DigestCrates.sha256 body).1 ≠ tail then .err
    else do
      let (value, pos) ← read body 0
      if pos ≠ body.length ∨ encode value ≠ bytes then .err else .ok value

/-- What a decoder does with a text: an error, or the record that has these bytes. -/
theorem readDigestedAt_cases {read : Cursor α} {body : α → Bytes}
    (h : Codec read (Written body)) (encode : α → Bytes) (bytes : Bytes) :
    readDigestedAt read encode bytes = .err ∨
      ∃ a, readDigestedAt read encode bytes = .ok a ∧ encode a = bytes := by
  unfold readDigestedAt
  split
  · exact .inl rfl
  · rename_i hsize
    rw [not_or, Nat.not_lt, Nat.not_lt] at hsize
    rw [usizeSub, if_pos (by omega), Outcome.bind_ok, splitAt, if_pos (Nat.sub_le _ _),
      Outcome.bind_ok]
    dsimp only
    split
    · exact .inl rfl
    · have haddr : Addressable (bytes.take (bytes.length - 32)) := by
        rw [Addressable, List.length_take]
        omega
      obtain herr | ⟨a, taken, rest, -, -, hok⟩ := h.run haddr
      · rw [herr]
        exact .inl rfl
      · rw [hok, Outcome.bind_ok]
        dsimp only
        split
        · exact .inl rfl
        · rename_i hgood
          rw [not_or, not_not, not_not] at hgood
          exact .inr ⟨a, rfl, hgood.2⟩

/-- A record is decoded from its bytes. -/
theorem readDigestedAt_encode {readAt : Cursor α} {body : α → Bytes}
    (h : Codec readAt (Written body)) (hsized : Sized body) (a : α) :
    readDigestedAt readAt (fun a => withDigest (body a)) (withDigest (body a)) = .ok a := by
  have hsize := hsized a
  have hlength := length_withDigest (body a)
  have hmid : (withDigest (body a)).length - 32 = (body a).length := by omega
  have hbody : (withDigest (body a)).take (body a).length = body a := List.take_left
  have htail : (withDigest (body a)).drop (body a).length = (DigestCrates.sha256 (body a)).1 :=
    List.drop_left
  have hread : readAt (body a) 0 = .ok (a, (body a).length) := by
    have haddr : Addressable ([] ++ (body a ++ [])) := by
      rw [List.nil_append, List.append_nil, Addressable]
      omega
    have hread := h.reads (Eq.refl (body a)) [] [] haddr
    rwa [List.nil_append, List.append_nil, List.length_nil, Nat.zero_add] at hread
  unfold readDigestedAt
  rw [if_neg (by omega), usizeSub, if_pos (by omega), Outcome.bind_ok, hmid, splitAt,
    if_pos (by omega), Outcome.bind_ok]
  dsimp only
  rw [hbody, htail, if_neg (not_not.mpr rfl), hread, Outcome.bind_ok]
  dsimp only
  rw [if_neg (by simp)]

end

/-- A format of records that are told by their digest. -/
structure Canonical {α : Type} [DigestCrates] (encode : α → Bytes) (decode : Bytes → Outcome α)
    (digest : α → Block 32) : Prop where
  decode_encode : ∀ a, decode (encode a) = .ok a
  encode_decode : ∀ bytes a, decode bytes = .ok a → encode a = bytes
  never_panics : ∀ bytes, decode bytes ≠ .panic
  small : ∀ a, (encode a).length ≤ 4096
  /-- A digest is that of the only bytes of its record. -/
  digest_of : ∀ a, ∃! bytes, decode bytes = .ok a ∧ digest a = DigestCrates.sha256 bytes

section

variable [DigestCrates] {α : Type} {readAt : Cursor α} {body : α → Bytes}

theorem Canonical.of_codec (h : Codec readAt (Written body)) (hsized : Sized body) :
    Canonical (fun a => withDigest (body a)) (readDigestedAt readAt fun a => withDigest (body a))
      fun a => DigestCrates.sha256 (withDigest (body a)) := by
  have hexact : ∀ bytes a, readDigestedAt readAt (fun a => withDigest (body a)) bytes = .ok a →
      withDigest (body a) = bytes := by
    intro bytes a hok
    obtain herr | ⟨b, hb, hbytes⟩ := readDigestedAt_cases h (fun a => withDigest (body a)) bytes
    · rw [herr] at hok
      cases hok
    · rw [hb] at hok
      cases hok
      exact hbytes
  refine ⟨readDigestedAt_encode h hsized, hexact, ?_, ?_, ?_⟩
  · intro bytes hpanic
    obtain herr | ⟨b, hb, -⟩ := readDigestedAt_cases h (fun a => withDigest (body a)) bytes
    · rw [herr] at hpanic
      cases hpanic
    · rw [hb] at hpanic
      cases hpanic
  · intro a
    have hsize := hsized a
    rw [length_withDigest]
    omega
  · intro a
    refine ⟨withDigest (body a), ⟨readDigestedAt_encode h hsized a, rfl⟩, ?_⟩
    rintro bytes ⟨hok, -⟩
    exact (hexact bytes a hok).symm

end

/-! ### The records -/

/-- `Manifest::decode`, past the digest. -/
def Manifest.readAt : Cursor Manifest := do
  magicAt Manifest.tag.1
  let version ← Cursor.u16
  Cursor.check (version = 1)
  let operator_uid ← Cursor.u32
  let operator_gid ← Cursor.u32
  let namespace_ ← identityAt
  let source_main ← identityAt
  let source_wal ← optionalAt identityAt
  let source_shm ← optionalAt identityAt
  let source_set_hash ← Cursor.array 32
  let source_bytes ← Cursor.u64
  let snapshot ← identityAt
  let snapshot_hash ← Cursor.array 32
  let sqlite_version ← Cursor.u32
  let page_size ← Cursor.u32
  let page_count ← Cursor.u32
  let user_version ← Cursor.u32
  let schema_hash ← Cursor.array 32
  let snapshot_id ← Cursor.array 16
  let created_nanos ← Cursor.u64
  pure {
    operator_uid, operator_gid, namespace_, source_main, source_wal, source_shm,
    source_set_hash, source_bytes, snapshot, snapshot_hash, sqlite_version, page_size,
    page_count, user_version, schema_hash, snapshot_id, created_nanos }

theorem Manifest.codec : Codec Manifest.readAt (Written Manifest.body) := by
  have hid := codec_optional codec_identity
  refine (Codec.field (codec_magic _) fun _ => .field codec_u16 fun _ => .check <|
    .field codec_u32 fun _ => .field codec_u32 fun _ => .field codec_identity fun _ =>
    .field codec_identity fun _ => .field hid fun _ => .field hid fun _ =>
    .field (.array 32) fun _ => .field codec_u64 fun _ => .field codec_identity fun _ =>
    .field (.array 32) fun _ => .field codec_u32 fun _ => .field codec_u32 fun _ =>
    .field codec_u32 fun _ => .field codec_u32 fun _ => .field (.array 32) fun _ =>
    .field (.array 16) fun _ => .field codec_u64 fun _ => .pure _).congr fun manifest bytes => ?_
  constructor
  · intro hall
    obtain ⟨_, _, rfl, _, _, rfl, rfl, _, _, rfl, hall⟩ := hall
    obtain ⟨_, _, rfl, _, _, rfl, _, _, rfl, hall⟩ := hall
    obtain ⟨_, _, rfl, _, _, rfl, _, _, rfl, hall⟩ := hall
    obtain ⟨_, _, rfl, _, _, rfl, _, _, rfl, hall⟩ := hall
    obtain ⟨_, _, rfl, _, _, rfl, _, _, rfl, hall⟩ := hall
    obtain ⟨_, _, rfl, _, _, rfl, _, _, rfl, hall⟩ := hall
    obtain ⟨_, _, rfl, rfl, rfl⟩ := hall
    rfl
  · rintro rfl
    exact ⟨(), _, rfl, 1, _, rfl, rfl, _, _, rfl, _, _, rfl, _, _, rfl, _, _, rfl, _, _, rfl,
      _, _, rfl, _, _, rfl, _, _, rfl, _, _, rfl, _, _, rfl, _, _, rfl, _, _, rfl, _, _, rfl,
      _, _, rfl, _, _, rfl, _, _, rfl, _, _, rfl, rfl, rfl⟩

section

variable [DigestCrates]

def Manifest.decodeAt (bytes : Bytes) : Outcome Manifest :=
  readDigestedAt Manifest.readAt Manifest.encode bytes

theorem Manifest.canonical :
    Canonical Manifest.encode Manifest.decodeAt Manifest.digest :=
  Canonical.of_codec Manifest.codec Manifest.sized

end

/-- `RestoreRecord::decode`, past the digest. -/
def RestoreRecord.readAt : Cursor RestoreRecord := do
  magicAt RestoreRecord.tag.1
  let version ← Cursor.u16
  Cursor.check (version = 1)
  let sequence ← Cursor.u64
  let predecessor ← Cursor.array 32
  let manifest ← Cursor.array 32
  let snapshot ← Cursor.array 32
  let expected_current ← Cursor.array 32
  let phase ← enumerationAt RestorePhase.ofByte
  let bitmap ← Cursor.u16
  let original_main ← identityAt
  let original_wal ← optionalAt identityAt
  let original_shm ← optionalAt identityAt
  let replacement ← optionalAt identityAt
  pure {
    sequence, predecessor, manifest, snapshot, expected_current, phase, bitmap, original_main,
    original_wal, original_shm, replacement }

theorem RestorePhase.eq_toByte {b : UInt8} {phase : RestorePhase}
    (h : RestorePhase.ofByte b = some phase) : b = phase.toByte := by
  unfold RestorePhase.ofByte at h
  split at h <;> first | (cases h; rfl) | cases h

theorem RestoreRecord.codec : Codec RestoreRecord.readAt (Written RestoreRecord.body) := by
  have hid := codec_optional codec_identity
  have hphase := codec_enumeration RestorePhase.ofByte_toByte fun _ _ => RestorePhase.eq_toByte
  refine (Codec.field (codec_magic _) fun _ => .field codec_u16 fun _ => .check <|
    .field codec_u64 fun _ => .field (.array 32) fun _ => .field (.array 32) fun _ =>
    .field (.array 32) fun _ => .field (.array 32) fun _ => .field hphase fun _ =>
    .field codec_u16 fun _ => .field codec_identity fun _ => .field hid fun _ =>
    .field hid fun _ => .field hid fun _ => .pure _).congr fun record bytes => ?_
  constructor
  · intro hall
    obtain ⟨_, _, rfl, _, _, rfl, rfl, _, _, rfl, hall⟩ := hall
    obtain ⟨_, _, rfl, _, _, rfl, _, _, rfl, hall⟩ := hall
    obtain ⟨_, _, rfl, _, _, rfl, _, _, rfl, hall⟩ := hall
    obtain ⟨_, _, rfl, _, _, rfl, _, _, rfl, hall⟩ := hall
    obtain ⟨_, _, rfl, rfl, rfl⟩ := hall
    rfl
  · rintro rfl
    exact ⟨(), _, rfl, 1, _, rfl, rfl, _, _, rfl, _, _, rfl, _, _, rfl, _, _, rfl, _, _, rfl,
      _, _, rfl, _, _, rfl, _, _, rfl, _, _, rfl, _, _, rfl, _, _, rfl, rfl, rfl⟩

section

variable [DigestCrates]

def RestoreRecord.decodeAt (bytes : Bytes) : Outcome RestoreRecord :=
  readDigestedAt RestoreRecord.readAt RestoreRecord.encode bytes

theorem RestoreRecord.canonical :
    Canonical RestoreRecord.encode RestoreRecord.decodeAt RestoreRecord.digest :=
  Canonical.of_codec RestoreRecord.codec RestoreRecord.sized

end

/-- The kind of a record, by its first bytes. -/
def kindAt : Cursor CleanupKind := do
  let found ← Cursor.take 8
  if found = (CleanupRecord.tag .backup).1 then pure .backup
  else if found = (CleanupRecord.tag .restore).1 then pure .restore
  else Cursor.fail

theorem codec_kind : Codec kindAt (Written fun kind => (CleanupRecord.tag kind).1) := by
  have hkind : ∀ found : Bytes, Codec (if found = (CleanupRecord.tag .backup).1 then pure .backup
      else if found = (CleanupRecord.tag .restore).1 then pure .restore
      else Cursor.fail : Cursor CleanupKind) fun kind bytes =>
        found = (CleanupRecord.tag kind).1 ∧ bytes = [] := by
    intro found
    have hne : (CleanupRecord.tag .restore).1 ≠ (CleanupRecord.tag .backup).1 := by decide
    split
    · rename_i hbackup
      refine (Codec.pure _).congr fun kind bytes => and_congr_left fun _ => ?_
      cases kind with
      | backup => exact iff_of_true rfl hbackup
      | restore => exact iff_of_false (fun h => nomatch h) fun h => hne (h.symm.trans hbackup)
    · rename_i hbackup
      split
      · rename_i hrestore
        refine (Codec.pure _).congr fun kind bytes => and_congr_left fun _ => ?_
        cases kind with
        | backup => exact iff_of_false (fun h => nomatch h) hbackup
        | restore => exact iff_of_true rfl hrestore
      · rename_i hrestore
        refine Codec.fail.congr fun kind bytes => iff_of_false id ?_
        cases kind with
        | backup => exact fun h => hbackup h.1
        | restore => exact fun h => hrestore h.1
  refine (Codec.bind (.take 8) hkind).congr fun kind bytes => ?_
  constructor
  · rintro ⟨_, _, ⟨rfl, -⟩, _, rfl, rfl, rfl⟩
    exact List.append_nil _
  · rintro rfl
    exact ⟨_, _, ⟨rfl, (CleanupRecord.tag kind).2⟩, [], (List.append_nil _).symm, rfl, rfl⟩

/-- `Record::decode` of the cleanup journal, past the digest. -/
def CleanupRecord.readAt : Cursor CleanupRecord := do
  let kind ← kindAt
  let version ← Cursor.u16
  Cursor.check (version = 1)
  let sequence ← Cursor.u64
  let predecessor ← Cursor.array 32
  let again ← Cursor.byte
  Cursor.check (again = kind.toByte)
  let phase ← enumerationAt CleanupPhase.ofByte
  let bitmap ← Cursor.u16
  let expected_snapshot ← Cursor.array 32
  let manifest_digest ← Cursor.array 32
  let namespace_ ← identityAt
  let snapshot ← identityAt
  let manifest ← identityAt
  let restore_journal ← optionalAt identityAt
  let restore_journal_digest ← optionalAt (Cursor.array 32)
  let operation_lock ← identityAt
  let old_main ← optionalAt identityAt
  let old_wal ← optionalAt identityAt
  let old_shm ← optionalAt identityAt
  pure {
    sequence, predecessor, kind, phase, bitmap, expected_snapshot, manifest_digest, namespace_,
    snapshot, manifest, restore_journal, restore_journal_digest, operation_lock, old_main,
    old_wal, old_shm }

theorem CleanupPhase.eq_toByte {b : UInt8} {phase : CleanupPhase}
    (h : CleanupPhase.ofByte b = some phase) : b = phase.toByte := by
  unfold CleanupPhase.ofByte at h
  split at h <;> first | (cases h; rfl) | cases h

theorem CleanupRecord.codec : Codec CleanupRecord.readAt (Written CleanupRecord.body) := by
  have hid := codec_optional codec_identity
  have hdigest := codec_optional (Codec.array 32)
  have hphase := codec_enumeration CleanupPhase.ofByte_toByte fun _ _ => CleanupPhase.eq_toByte
  refine (Codec.field codec_kind fun _ => .field codec_u16 fun _ => .check <|
    .field codec_u64 fun _ => .field (.array 32) fun _ => .field .byte fun _ => .check <|
    .field hphase fun _ => .field codec_u16 fun _ => .field (.array 32) fun _ =>
    .field (.array 32) fun _ => .field codec_identity fun _ => .field codec_identity fun _ =>
    .field codec_identity fun _ => .field hid fun _ => .field hdigest fun _ =>
    .field codec_identity fun _ => .field hid fun _ => .field hid fun _ => .field hid fun _ =>
    .pure _).congr fun record bytes => ?_
  constructor
  · intro hall
    obtain ⟨_, _, rfl, _, _, rfl, rfl, _, _, rfl, hall⟩ := hall
    obtain ⟨_, _, rfl, _, _, rfl, rfl, _, _, rfl, hall⟩ := hall
    obtain ⟨_, _, rfl, _, _, rfl, _, _, rfl, hall⟩ := hall
    obtain ⟨_, _, rfl, _, _, rfl, _, _, rfl, hall⟩ := hall
    obtain ⟨_, _, rfl, _, _, rfl, _, _, rfl, hall⟩ := hall
    obtain ⟨_, _, rfl, _, _, rfl, _, _, rfl, rfl, rfl⟩ := hall
    rfl
  · rintro rfl
    exact ⟨_, _, rfl, 1, _, rfl, rfl, _, _, rfl, _, _, rfl, _, _, rfl, rfl, _, _, rfl,
      _, _, rfl, _, _, rfl, _, _, rfl, _, _, rfl, _, _, rfl, _, _, rfl, _, _, rfl, _, _, rfl,
      _, _, rfl, _, _, rfl, _, _, rfl, _, _, rfl, rfl, rfl⟩

section

variable [DigestCrates]

def CleanupRecord.decodeAt (bytes : Bytes) : Outcome CleanupRecord :=
  readDigestedAt CleanupRecord.readAt CleanupRecord.encode bytes

theorem CleanupRecord.canonical :
    Canonical CleanupRecord.encode CleanupRecord.decodeAt CleanupRecord.digest :=
  Canonical.of_codec CleanupRecord.codec CleanupRecord.sized

end

end GuiguBridge.StateBackup
