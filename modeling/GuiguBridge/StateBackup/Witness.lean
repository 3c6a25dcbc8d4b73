import GuiguBridge.StateBackup.Cursor

/-!
# The witness of a cleanup

A cleanup keeps its record and the phase it is in under a digest of their own
(`src/src/isolated_state_backup/cleanup_witness.rs`).

* `witnessBytes`, `witnessDecode` — the bytes of a witness, and how they are read;
* `witnessDecode_bytes`, `witnessDecode_cases` — **a witness is decoded from its bytes and from no
  others**;
* `records_canonical` — **so it is for every record of a backup, a restore or a cleanup**: no bytes
  make a decoder panic, and a digest belongs to one encoding.
-/

namespace GuiguBridge.StateBackup

open ByteCodec

/-- `GGT50O01`. -/
def witnessTag : Block 8 := ⟨[0x47, 0x47, 0x54, 0x35, 0x30, 0x4f, 0x30, 0x31], rfl⟩

section

variable [DigestCrates]

/-- `bytes`. -/
def witnessBytes (record : CleanupRecord) (phase : UInt8) : Bytes :=
  withDigest (witnessTag.1 ++ 1 :: phase ::
    (putU16 (.ofNat record.encode.length) ++ record.encode))

/-- `decode`. -/
def witnessDecode (bytes : Bytes) : Outcome (UInt8 × CleanupRecord) := do
  if bytes.length < 44 then .err
  else
    let magic ← slice bytes 0 8
    if magic ≠ witnessTag.1 then .err
    else
      let version ← index bytes 8
      if version ≠ 1 then .err
      else
        let field ← tryInto 2 (← slice bytes 10 12)
        let length := (UInt16.ofNat (fromBigEndian field.1)).toNat
        let stop ← Outcome.ofOption (checkedAdd 12 length)
        let total ← Outcome.ofOption (checkedAdd stop 32)
        if total ≠ bytes.length then .err
        else
          let body ← slice bytes 0 stop
          let tail ← slice bytes stop bytes.length
          if (DigestCrates.sha256 body).1 ≠ tail then .err
          else
            let phase ← index bytes 9
            let record ← CleanupRecord.decodeAt (← slice bytes 12 stop)
            .ok (phase, record)

/-- A witness, part by part. -/
theorem witnessDecode_parts (magic : Block 8) (version phase : UInt8) (field : Block 2)
    (inner : Bytes) (tail : Block 32) :
    witnessDecode (magic.1 ++ version :: phase :: (field.1 ++ (inner ++ tail.1))) =
      if magic = witnessTag ∧ version = 1 ∧
          (UInt16.ofNat (fromBigEndian field.1)).toNat = inner.length ∧
          DigestCrates.sha256 (magic.1 ++ version :: phase :: (field.1 ++ inner)) = tail then do
        let record ← CleanupRecord.decodeAt inner
        .ok (phase, record)
      else .err := by
  have hmagic := magic.2
  have hfield := field.2
  have htail := tail.2
  generalize hbytes : magic.1 ++ version :: phase :: (field.1 ++ (inner ++ tail.1)) = bytes
  have hlength : bytes.length = inner.length + 44 := by
    rw [← hbytes]
    simp only [List.length_append, List.length_cons]
    omega
  have h8 : slice bytes 0 8 = .ok magic.1 :=
    slice_append [] _ (hbytes.symm.trans (List.nil_append _).symm) rfl (by omega)
  have hversion : index bytes 8 = .ok version := index_append magic.1 _ hbytes.symm hmagic
  have hphase : index bytes 9 = .ok phase := by
    refine index_append (magic.1 ++ [version]) (field.1 ++ (inner ++ tail.1)) ?_ (by simp [hmagic])
    rw [← hbytes, List.append_assoc, List.singleton_append]
  have h10 : slice bytes 10 12 = .ok field.1 := by
    refine slice_append (magic.1 ++ [version, phase]) (inner ++ tail.1) ?_ (by simp [hmagic])
      (by omega)
    rw [← hbytes, List.append_assoc, List.cons_append, List.singleton_append]
  unfold witnessDecode
  rw [if_neg (by omega), h8, Outcome.bind_ok]
  by_cases htag : magic.1 = witnessTag.1
  case neg =>
    rw [if_pos htag, if_neg fun h => htag (congrArg Subtype.val h.1)]
  rw [if_neg (not_not.mpr htag), hversion, Outcome.bind_ok]
  by_cases hone : version = 1
  case neg =>
    rw [if_pos hone, if_neg fun h => hone h.2.1]
  rw [if_neg (not_not.mpr hone), h10, Outcome.bind_ok, tryInto_block, Outcome.bind_ok]
  have hlt := (UInt16.ofNat (fromBigEndian field.1)).toNat_lt
  generalize (UInt16.ofNat (fromBigEndian field.1)).toNat = length at hlt
  dsimp only
  rw [checkedAdd, if_pos (by omega), Outcome.ofOption, Outcome.bind_ok, checkedAdd,
    if_pos (by omega), Outcome.ofOption, Outcome.bind_ok]
  by_cases htotal : 12 + length + 32 = bytes.length
  case neg =>
    rw [if_pos htotal, if_neg fun h => htotal (by omega)]
  have hinner : length = inner.length := by omega
  have hbody : slice bytes 0 (12 + length) =
      .ok (magic.1 ++ version :: phase :: (field.1 ++ inner)) := by
    refine slice_append [] tail.1 ?_ rfl ?_
    · rw [← hbytes]
      simp only [List.nil_append, List.append_assoc, List.cons_append]
    · simp only [List.length_append, List.length_cons]
      omega
  have hend : slice bytes (12 + length) bytes.length = .ok tail.1 := by
    refine slice_append (magic.1 ++ version :: phase :: (field.1 ++ inner)) [] ?_ ?_ (by omega)
    · rw [← hbytes]
      simp only [List.append_nil, List.append_assoc, List.cons_append]
    · simp only [List.length_append, List.length_cons]
      omega
  have h12 : slice bytes 12 (12 + length) = .ok inner := by
    refine slice_append (magic.1 ++ version :: phase :: field.1) tail.1 ?_ ?_ (by omega)
    · rw [← hbytes]
      simp only [List.append_assoc, List.cons_append]
    · simp only [List.length_append, List.length_cons]
      omega
  rw [if_neg (not_not.mpr htotal), hbody, Outcome.bind_ok, hend, Outcome.bind_ok]
  by_cases hdigest :
      DigestCrates.sha256 (magic.1 ++ version :: phase :: (field.1 ++ inner)) = tail
  case neg =>
    rw [if_pos fun h => hdigest (Subtype.ext h), if_neg fun h => hdigest h.2.2.2]
  rw [if_neg (not_not.mpr (congrArg Subtype.val hdigest)), hphase, Outcome.bind_ok, h12,
    Outcome.bind_ok, if_pos ⟨Subtype.ext htag, hone, hinner, hdigest⟩]

/-- The length of a record fits its two bytes. -/
theorem toNat_length_encode (record : CleanupRecord) :
    (UInt16.ofNat record.encode.length).toNat = record.encode.length := by
  have hsmall := CleanupRecord.canonical.small record
  exact UInt16.toNat_ofNat_of_lt' (Nat.lt_of_le_of_lt hsmall (by decide))

theorem witnessDecode_bytes (record : CleanupRecord) (phase : UInt8) :
    witnessDecode (witnessBytes record phase) = .ok (phase, record) := by
  have hlength := toNat_length_encode record
  have hdecode := CleanupRecord.canonical.decode_encode record
  unfold witnessBytes withDigest
  generalize record.encode = inner at hlength hdecode ⊢
  have hfield : (putU16 (.ofNat inner.length)).length = 2 := length_putU16 _
  have hparts := witnessDecode_parts witnessTag 1 phase ⟨_, hfield⟩ inner
    (DigestCrates.sha256 (witnessTag.1 ++ 1 :: phase :: (putU16 (.ofNat inner.length) ++ inner)))
  have hnumber : (UInt16.ofNat (fromBigEndian (putU16 (.ofNat inner.length)))).toNat =
      inner.length := by
    rw [putU16, fromBigEndian_bigEndian (UInt16.toNat_lt _), UInt16.ofNat_toNat, hlength]
  rw [if_pos ⟨rfl, rfl, hnumber, rfl⟩, hdecode, Outcome.bind_ok] at hparts
  rw [← hparts]
  simp only [List.append_assoc, List.cons_append]

/-- What the decoder does with a text: an error, or the witness that has these bytes. -/
theorem witnessDecode_cases (bytes : Bytes) : witnessDecode bytes = .err ∨
    ∃ phase record, witnessDecode bytes = .ok (phase, record) ∧
      witnessBytes record phase = bytes := by
  by_cases hsize : bytes.length < 44
  · unfold witnessDecode
    rw [if_pos hsize]
    exact .inl rfl
  -- the parts that the decoder takes by their positions
  obtain ⟨magic, version, phase, field, inner, tail, rfl⟩ : ∃ (magic : Block 8)
      (version phase : UInt8) (field : Block 2) (inner : Bytes) (tail : Block 32),
      bytes = magic.1 ++ version :: phase :: (field.1 ++ (inner ++ tail.1)) := by
    obtain ⟨magic, rest, rfl⟩ := exists_block 8 (by omega : 8 ≤ bytes.length)
    rw [List.length_append, magic.2] at hsize
    obtain ⟨version, rest, rfl⟩ := List.exists_cons_of_length_pos (by omega : 0 < rest.length)
    rw [List.length_cons] at hsize
    obtain ⟨phase, rest, rfl⟩ := List.exists_cons_of_length_pos (by omega : 0 < rest.length)
    rw [List.length_cons] at hsize
    obtain ⟨field, rest, rfl⟩ := exists_block 2 (by omega : 2 ≤ rest.length)
    rw [List.length_append, field.2] at hsize
    obtain ⟨inner, tail, rfl⟩ := exists_block_end 32 (by omega : 32 ≤ rest.length)
    exact ⟨magic, version, phase, field, inner, tail, rfl⟩
  rw [witnessDecode_parts]
  split
  · rename_i h
    obtain ⟨rfl, rfl, hlength, hdigest⟩ := h
    have hcanonical := CleanupRecord.canonical
    cases hdecode : CleanupRecord.decodeAt inner with
    | err => exact .inl rfl
    | panic => exact absurd hdecode (hcanonical.never_panics inner)
    | ok record =>
      refine .inr ⟨phase, record, rfl, ?_⟩
      have hinner := hcanonical.encode_decode inner record hdecode
      have hfield : putU16 (.ofNat inner.length) = field.1 := by
        have hlt := fromBigEndian_lt field.1
        have hdigits := bigEndian_fromBigEndian field.1
        rw [field.2] at hlt hdigits
        rw [← hlength, UInt16.ofNat_toNat, putU16, UInt16.toNat_ofNat_of_lt' hlt, hdigits]
      unfold witnessBytes withDigest
      rw [hinner, hfield, hdigest]
      simp only [List.append_assoc, List.cons_append]
  · exact .inl rfl

/-- **The records of a backup, a restore and a cleanup are decoded from their bytes and from no
others**, and so is a witness. -/
theorem records_canonical :
    Canonical Manifest.encode Manifest.decodeAt Manifest.digest ∧
      Canonical RestoreRecord.encode RestoreRecord.decodeAt RestoreRecord.digest ∧
      Canonical CleanupRecord.encode CleanupRecord.decodeAt CleanupRecord.digest ∧
      (∀ record phase, witnessDecode (witnessBytes record phase) = .ok (phase, record) ∧
        (UInt16.ofNat record.encode.length).toNat = record.encode.length) ∧
      (∀ bytes phase record, witnessDecode bytes = .ok (phase, record) →
        witnessBytes record phase = bytes) ∧
      ∀ bytes, witnessDecode bytes ≠ .panic := by
  refine ⟨Manifest.canonical, RestoreRecord.canonical, CleanupRecord.canonical,
    fun record phase => ⟨witnessDecode_bytes record phase, toNat_length_encode record⟩, ?_, ?_⟩
  · intro bytes phase record hok
    obtain herr | ⟨_, _, hdecode, hbytes⟩ := witnessDecode_cases bytes
    · rw [herr] at hok
      cases hok
    · rw [hdecode] at hok
      cases hok
      exact hbytes
  · intro bytes hpanic
    obtain herr | ⟨_, _, hdecode, -⟩ := witnessDecode_cases bytes
    · rw [herr] at hpanic
      cases hpanic
    · rw [hdecode] at hpanic
      cases hpanic

end

end GuiguBridge.StateBackup
