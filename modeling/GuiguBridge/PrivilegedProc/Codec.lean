import GuiguBridge.Lib.Cursor

/-!
# The artifacts of the privileged proof

The helper that looks at processes is started by an artifact manifest and a policy, both in binary
(`src/src/privileged_proc_proof/codec.rs`).

* `ArtifactManifest`, `Policy` — with `encode` and `decode` as the source has them;
* `ArtifactManifest.decode_ok_iff`, `Policy.decode_ok_iff` — **what is decoded is a valid value
  from its own bytes**;
* `ArtifactManifest.decode_ne_panic`, `Policy.decode_ne_panic` — no bytes make a decoder panic;
* `Policy.length_encode` — the bytes of a policy, counted by its paths and names.
-/

namespace GuiguBridge.PrivilegedProc

open ByteCodec

/-! ### The manifest -/

structure ArtifactManifest where
  source_commit : Block 20
  build_identity : Block 32
  parent_hash : Block 32
  helper_hash : Block 32
  policy_hash : Block 32
  parent_uid : UInt32
  parent_gid : UInt32
  parent_mode : UInt32
  helper_uid : UInt32
  helper_gid : UInt32
  helper_mode : UInt32
  capability_permitted : UInt64
  capability_inheritable : UInt64
  capability_flags : UInt32
  policy_uid : UInt32
  policy_gid : UInt32
  policy_mode : UInt32
  generation : UInt64
  deriving DecidableEq

/-- `GGPFM001`. -/
def manifestMagic : Block 8 := ⟨[0x47, 0x47, 0x50, 0x46, 0x4d, 0x30, 0x30, 0x31], rfl⟩

/-- The unused end of a manifest. -/
def reserved : Bytes := List.replicate 32 0

theorem length_reserved : reserved.length = 32 := List.length_replicate

namespace ArtifactManifest

def encode (value : ArtifactManifest) : Bytes :=
  [manifestMagic.1, be16 1, be16 256, value.source_commit.1, value.build_identity.1,
    value.parent_hash.1, value.helper_hash.1, value.policy_hash.1, be32 value.parent_uid,
    be32 value.parent_gid, be32 value.parent_mode, be32 value.helper_uid, be32 value.helper_gid,
    be32 value.helper_mode, be64 value.capability_permitted, be64 value.capability_inheritable,
    be32 value.capability_flags, be32 value.policy_uid, be32 value.policy_gid,
    be32 value.policy_mode, be64 value.generation, reserved].flatten

/-- What `decode` asks of the fields. -/
def Valid (value : ArtifactManifest) : Prop :=
  value.parent_mode = 0o755 ∧ value.helper_uid = 0 ∧ value.helper_mode = 0o750 ∧
    value.capability_permitted = (1 : UInt64) <<< 19 ∧ value.capability_inheritable = 0 ∧
    value.capability_flags = 1 ∧ value.policy_uid = 0 ∧ value.policy_gid = 0 ∧
    value.policy_mode = 0o644 ∧ value.generation ≠ 0

instance (value : ArtifactManifest) : Decidable value.Valid := by
  unfold Valid
  infer_instance

/-- The fields of `decode` behind the hashes. -/
def ownersAt (source_commit : Block 20)
    (build_identity parent_hash helper_hash policy_hash : Block 32) :
    Cursor ArtifactManifest := do
  let parent_uid ← Cursor.u32
  let parent_gid ← Cursor.u32
  let parent_mode ← Cursor.u32
  let helper_uid ← Cursor.u32
  let helper_gid ← Cursor.u32
  let helper_mode ← Cursor.u32
  let capability_permitted ← Cursor.u64
  let capability_inheritable ← Cursor.u64
  let capability_flags ← Cursor.u32
  let policy_uid ← Cursor.u32
  let policy_gid ← Cursor.u32
  let policy_mode ← Cursor.u32
  let generation ← Cursor.u64
  pure {
    source_commit, build_identity, parent_hash, helper_hash, policy_hash, parent_uid, parent_gid,
    parent_mode, helper_uid, helper_gid, helper_mode, capability_permitted,
    capability_inheritable, capability_flags, policy_uid, policy_gid, policy_mode, generation }

/-- The fields of `decode`, in their order. -/
def readAt : Cursor ArtifactManifest := do
  let magic ← Cursor.array 8
  Cursor.check (magic = manifestMagic)
  let version ← Cursor.u16
  Cursor.check (version = 1)
  let size ← Cursor.u16
  Cursor.check (size = 256)
  let source_commit ← Cursor.array 20
  let build_identity ← Cursor.array 32
  let parent_hash ← Cursor.array 32
  let helper_hash ← Cursor.array 32
  let policy_hash ← Cursor.array 32
  let value ← ownersAt source_commit build_identity parent_hash helper_hash policy_hash
  Cursor.expect reserved
  Cursor.check value.Valid
  pure value

def decode (bytes : Bytes) : Outcome ArtifactManifest :=
  if bytes.length ≠ 256 then .err
  else do
    let (value, _) ← readAt bytes 0
    .ok value

/-- The bytes behind the hashes. -/
def owners (value : ArtifactManifest) : Bytes :=
  [be32 value.parent_uid, be32 value.parent_gid, be32 value.parent_mode, be32 value.helper_uid,
    be32 value.helper_gid, be32 value.helper_mode, be64 value.capability_permitted,
    be64 value.capability_inheritable, be32 value.capability_flags, be32 value.policy_uid,
    be32 value.policy_gid, be32 value.policy_mode, be64 value.generation].flatten

theorem codec_owners (source_commit : Block 20)
    (build_identity parent_hash helper_hash policy_hash : Block 32) :
    Codec (ownersAt source_commit build_identity parent_hash helper_hash policy_hash)
      fun value bytes => bytes = value.owners ∧ value.source_commit = source_commit ∧
        value.build_identity = build_identity ∧ value.parent_hash = parent_hash ∧
        value.helper_hash = helper_hash ∧ value.policy_hash = policy_hash := by
  refine Codec.congr (.field .u32 fun _ => .field .u32 fun _ => .field .u32 fun _ =>
    .field .u32 fun _ => .field .u32 fun _ => .field .u32 fun _ => .field .u64 fun _ =>
    .field .u64 fun _ => .field .u32 fun _ => .field .u32 fun _ => .field .u32 fun _ =>
    .field .u32 fun _ => .field .u64 fun _ => .pure _) fun value bytes => ?_
  constructor
  · intro hall
    obtain ⟨_, _, rfl, _, _, rfl, _, _, rfl, hall⟩ := hall
    obtain ⟨_, _, rfl, _, _, rfl, _, _, rfl, hall⟩ := hall
    obtain ⟨_, _, rfl, _, _, rfl, _, _, rfl, hall⟩ := hall
    obtain ⟨_, _, rfl, _, _, rfl, _, _, rfl, hall⟩ := hall
    obtain ⟨_, _, rfl, rfl, rfl⟩ := hall
    exact ⟨rfl, rfl, rfl, rfl, rfl, rfl⟩
  · rintro ⟨rfl, rfl, rfl, rfl, rfl, rfl⟩
    exact ⟨_, _, rfl, _, _, rfl, _, _, rfl, _, _, rfl, _, _, rfl, _, _, rfl, _, _, rfl,
      _, _, rfl, _, _, rfl, _, _, rfl, _, _, rfl, _, _, rfl, _, _, rfl, rfl, rfl⟩

theorem encode_eq (value : ArtifactManifest) : value.encode =
    [manifestMagic.1, be16 1, be16 256, value.source_commit.1, value.build_identity.1,
      value.parent_hash.1, value.helper_hash.1, value.policy_hash.1, value.owners,
      reserved].flatten := by
  simp only [encode, owners, List.flatten_cons, List.flatten_nil, List.append_nil,
    List.append_assoc]

theorem codec : Codec readAt fun value bytes => bytes = value.encode ∧ value.Valid := by
  have hreserved : reserved.length < 2 ^ 63 := by
    rw [length_reserved]
    decide
  refine Codec.congr (.field (.array 8) fun _ => .check <| .field .u16 fun _ => .check <|
    .field .u16 fun _ => .check <| .field (.array 20) fun _ => .field (.array 32) fun _ =>
    .field (.array 32) fun _ => .field (.array 32) fun _ => .field (.array 32) fun _ =>
    .bind (codec_owners _ _ _ _ _) fun _ => .field (.expect hreserved) fun _ =>
    .check <| .pure _) fun value bytes => ?_
  rw [encode_eq]
  constructor
  · intro hall
    obtain ⟨_, _, rfl, rfl, _, _, rfl, rfl, _, _, rfl, hall⟩ := hall
    obtain ⟨rfl, _, _, rfl, _, _, rfl, _, _, rfl, hall⟩ := hall
    obtain ⟨_, _, rfl, _, _, rfl, _, _, ⟨rfl, rfl, rfl, rfl, rfl, rfl⟩, _, rfl, hall⟩ := hall
    obtain ⟨_, _, rfl, hvalid, rfl, rfl⟩ := hall
    exact ⟨rfl, hvalid⟩
  · rintro ⟨rfl, hvalid⟩
    exact ⟨manifestMagic, _, rfl, rfl, 1, _, rfl, rfl, 256, _, rfl, rfl, _, _, rfl, _, _, rfl,
      _, _, rfl, _, _, rfl, _, _, rfl, value, _, ⟨rfl, rfl, rfl, rfl, rfl, rfl⟩, _, rfl, (), _,
      rfl, hvalid, rfl, rfl⟩

theorem length_encode (value : ArtifactManifest) : value.encode.length = 256 := by
  simp only [encode, List.flatten_cons, List.flatten_nil, List.length_append, List.length_nil,
    length_be16, length_be32, length_be64, length_reserved, manifestMagic.2,
    value.source_commit.2, value.build_identity.2, value.parent_hash.2, value.helper_hash.2,
    value.policy_hash.2]

/-- A manifest of 256 bytes is read to its end. -/
theorem decode_eq_whole {bytes : Bytes} (hlen : bytes.length = 256) :
    decode bytes = readAt.whole bytes := by
  have haddr : Addressable bytes := by
    rw [Addressable, hlen]
    decide
  rw [decode, if_neg (not_not.mpr hlen), Cursor.whole]
  have hcodec := codec
  obtain herr | ⟨value, taken, rest, hbytes, ⟨rfl, -⟩, hread⟩ := hcodec.run haddr
  · rw [herr]
    rfl
  · rw [hread, length_encode, Outcome.bind_ok, Outcome.bind_ok]
    exact (if_neg (not_not.mpr hlen.symm)).symm

/-- **What is decoded is a valid manifest from its own bytes.** -/
theorem decode_ok_iff (bytes : Bytes) (value : ArtifactManifest) :
    decode bytes = .ok value ↔ bytes = value.encode ∧ value.Valid := by
  by_cases hlen : bytes.length = 256
  · have haddr : Addressable bytes := by
      rw [Addressable, hlen]
      decide
    have hcodec := codec
    rw [decode_eq_whole hlen, hcodec.whole_ok_iff haddr]
  · rw [decode, if_pos hlen]
    refine iff_of_false (fun h => by cases h) ?_
    rintro ⟨rfl, -⟩
    exact hlen value.length_encode

theorem decode_ne_panic (bytes : Bytes) : decode bytes ≠ .panic := by
  by_cases hlen : bytes.length = 256
  · have haddr : Addressable bytes := by
      rw [Addressable, hlen]
      decide
    have hcodec := codec
    rw [decode_eq_whole hlen]
    exact hcodec.whole_ne_panic haddr
  · rw [decode, if_pos hlen]
    intro h
    cases h

end ArtifactManifest

/-! ### Files -/

structure FileIdentity where
  path : Bytes
  device : UInt64
  inode : UInt64
  file_type : UInt32
  mode : UInt32
  uid : UInt32
  gid : UInt32
  deriving DecidableEq

/-- `std::str::from_utf8(path).is_ok()`. -/
def isUtf8 (path : Bytes) : Bool := ByteArray.validateUTF8 ⟨path.toArray⟩

/-- `canonical_absolute_path`: `/` is 47, and `.` is 46. -/
def canonicalAbsolutePath (path : Bytes) : Outcome Bool :=
  if path.head? = some 47 ∧ 1 < path.length ∧ 0 ∉ path ∧ isUtf8 path = true ∧
      path.getLast? ≠ some 47 then do
    let rest ← slice path 1 path.length
    .ok ((rest.splitOn 47).all fun part => !part.isEmpty && part ≠ [46] && part ≠ [46, 46])
  else .ok false

theorem canonicalAbsolutePath_ne_panic (path : Bytes) : canonicalAbsolutePath path ≠ .panic := by
  rw [canonicalAbsolutePath]
  split
  · rename_i h
    obtain ⟨b, rest, rfl⟩ := List.exists_cons_of_length_pos (Nat.lt_of_succ_lt h.2.1)
    have hslice : slice (b :: rest) 1 (b :: rest).length = .ok rest := by
      refine slice_append [b] [] ?_ rfl ?_
      · rw [List.append_nil, List.singleton_append]
      · rw [List.length_cons, Nat.add_comm]
    rw [hslice, Outcome.bind_ok]
    exact fun hpanic => nomatch hpanic
  · exact fun hpanic => nomatch hpanic

/-- `encode_identity`. -/
def encodeIdentity (value : FileIdentity) : Bytes :=
  [be16 (.ofNat value.path.length), value.path, be64 value.device, be64 value.inode,
    be32 value.file_type, be32 value.mode, be32 value.uid, be32 value.gid].flatten

/-- A path that `decode_identity` reads. -/
def CanonicalPath (path : Bytes) : Prop :=
  1 ≤ path.length ∧ path.length ≤ 1024 ∧ canonicalAbsolutePath path = .ok true

/-- The fields of `decode_identity`, in their order. -/
def identityAt : Cursor FileIdentity := do
  let path_len ← Cursor.u16
  Cursor.check (1 ≤ path_len.toNat ∧ path_len.toNat ≤ 1024)
  let path ← Cursor.chunk path_len.toNat
  let canonical ← Cursor.lift (canonicalAbsolutePath path)
  Cursor.check (canonical = true)
  let device ← Cursor.u64
  let inode ← Cursor.u64
  let file_type ← Cursor.u32
  let mode ← Cursor.u32
  let uid ← Cursor.u32
  let gid ← Cursor.u32
  pure { path, device, inode, file_type, mode, uid, gid }

/-- `decode_identity`. -/
def decodeIdentity (bytes : Bytes) : Outcome FileIdentity := do
  let value ← identityAt.whole bytes
  if value.inode = 0 then .err else .ok value

theorem toNat_ofNat_of_le {n : Nat} (h : n ≤ 1024) : (UInt16.ofNat n).toNat = n :=
  UInt16.toNat_ofNat_of_lt' (Nat.lt_of_le_of_lt h (by decide))

theorem codec_identity :
    Codec identityAt fun value bytes => bytes = encodeIdentity value ∧ CanonicalPath value.path := by
  have hchunk : ∀ n : UInt16, n.toNat < 2 ^ 63 := fun n =>
    Nat.lt_trans n.toNat_lt (by decide)
  refine Codec.congr (.field .u16 fun n => .check <| .bind (.chunk (hchunk n)) fun path =>
    .bind (.lift (canonicalAbsolutePath_ne_panic path)) fun _ => .check <| .field .u64 fun _ =>
    .field .u64 fun _ => .field .u32 fun _ => .field .u32 fun _ => .field .u32 fun _ =>
    .field .u32 fun _ => .pure _) fun value bytes => ?_
  constructor
  · intro hall
    obtain ⟨n, _, rfl, ⟨hpos, hle⟩, path, _, ⟨rfl, hlen⟩, _, rfl, hall⟩ := hall
    obtain ⟨_, _, ⟨hcanonical, rfl⟩, _, rfl, rfl, _, _, rfl, hall⟩ := hall
    obtain ⟨_, _, rfl, _, _, rfl, _, _, rfl, hall⟩ := hall
    obtain ⟨_, _, rfl, _, _, rfl, rfl, rfl⟩ := hall
    refine ⟨?_, hpos.trans_eq hlen.symm, hlen.trans_le hle, hcanonical⟩
    rw [encodeIdentity, hlen, UInt16.ofNat_toNat]
    rfl
  · rintro ⟨rfl, hpos, hle, hcanonical⟩
    have hnat := toNat_ofNat_of_le hle
    exact ⟨.ofNat value.path.length, _, rfl, ⟨by omega, by omega⟩, value.path, _, ⟨rfl, hnat.symm⟩, _,
      rfl, true, _, ⟨hcanonical, rfl⟩, _, rfl, rfl, _, _, rfl, _, _, rfl, _, _, rfl, _, _, rfl,
      _, _, rfl, _, _, rfl, rfl, rfl⟩

/-- **What is decoded is the file from its own bytes.** -/
theorem decodeIdentity_ok_iff {bytes : Bytes} (haddr : Addressable bytes) (value : FileIdentity) :
    decodeIdentity bytes = .ok value ↔
      bytes = encodeIdentity value ∧ CanonicalPath value.path ∧ value.inode ≠ 0 := by
  have hcodec := codec_identity
  rw [← and_assoc, ← hcodec.whole_ok_iff haddr, decodeIdentity]
  cases identityAt.whole bytes with
  | ok found =>
    rw [Outcome.bind_ok]
    split
    · rename_i hzero
      refine iff_of_false (fun h => nomatch h) ?_
      rintro ⟨hfound, hinode⟩
      cases hfound
      exact hinode hzero
    · rename_i hinode
      constructor
      · intro hfound
        cases hfound
        exact ⟨rfl, hinode⟩
      · exact fun h => h.1
  | err => exact iff_of_false (fun h => nomatch h) fun h => nomatch h.1
  | panic => exact iff_of_false (fun h => nomatch h) fun h => nomatch h.1

theorem decodeIdentity_ne_panic {bytes : Bytes} (haddr : Addressable bytes) :
    decodeIdentity bytes ≠ .panic := by
  have hcodec := codec_identity
  have hwhole := hcodec.whole_ne_panic haddr
  rw [decodeIdentity]
  cases hread : identityAt.whole bytes with
  | ok found =>
    rw [Outcome.bind_ok]
    split
    · exact fun h => nomatch h
    · exact fun h => nomatch h
  | err => exact fun h => nomatch h
  | panic => exact absurd hread hwhole

theorem length_encodeIdentity (value : FileIdentity) :
    (encodeIdentity value).length = value.path.length + 34 := by
  simp only [encodeIdentity, List.flatten_cons, List.flatten_nil, List.length_append,
    List.length_nil, length_be16, length_be32, length_be64]
  omega

/-! ### The policy -/

structure Policy where
  operator_uid : UInt32
  operator_gid : UInt32
  binary : FileIdentity
  config : FileIdentity
  database_root : FileIdentity
  admission_lock : Bytes
  unit : Bytes
  ports : UInt16 × UInt16
  deriving DecidableEq

/-- `MAX_POLICY_SIZE`. -/
def maxPolicySize : Nat := 4096

/-- `GGPFP001`. -/
def policyMagic : Block 8 := ⟨[0x47, 0x47, 0x50, 0x46, 0x50, 0x30, 0x30, 0x31], rfl⟩

/-- `.runtime-admission.lock`. -/
def admissionLock : Bytes :=
  [0x2e, 0x72, 0x75, 0x6e, 0x74, 0x69, 0x6d, 0x65, 0x2d, 0x61, 0x64, 0x6d, 0x69, 0x73, 0x73, 0x69,
    0x6f, 0x6e, 0x2e, 0x6c, 0x6f, 0x63, 0x6b]

/-- `guigu-codex-test.service`. -/
def serviceUnit : Bytes :=
  [0x67, 0x75, 0x69, 0x67, 0x75, 0x2d, 0x63, 0x6f, 0x64, 0x65, 0x78, 0x2d, 0x74, 0x65, 0x73, 0x74,
    0x2e, 0x73, 0x65, 0x72, 0x76, 0x69, 0x63, 0x65]

/-- `push_tlv`. -/
def pushTlv (tag : UInt16) (value : Bytes) : Bytes :=
  be16 tag ++ (be16 (.ofNat value.length) ++ value)

/-- `fields.len() as u16 + 1`. -/
def nextTag (count : Nat) : Outcome UInt16 :=
  if (UInt16.ofNat count).toNat + 1 < 2 ^ 16 then .ok (.ofNat count + 1) else .panic

/-- One round of the loop of `Policy::decode`, after so many fields. -/
def tlvAt (count : Nat) : Cursor Bytes := do
  let tag ← Cursor.u16
  let len ← Cursor.u16
  let value ← Cursor.take len.toNat
  let expected ← Cursor.lift (nextTag count)
  Cursor.check (tag = expected)
  pure value

theorem tlvAt_advances (count : Nat) : Advances (tlvAt count) 2 := by
  have hend : ∀ (value : Bytes) (tag : UInt16), Advances (do
      let expected ← Cursor.lift (nextTag count)
      Cursor.check (tag = expected)
      pure value) 0 := fun value tag =>
    (Advances.lift _).bind fun _ => (Advances.check _).bind fun _ => Advances.pure value
  have hvalue : ∀ (len : Nat) (tag : UInt16), Advances (do
      let value ← Cursor.take len
      let expected ← Cursor.lift (nextTag count)
      Cursor.check (tag = expected)
      pure value) 0 := fun len tag =>
    ((Advances.take len).bind fun value => hend value tag).mono (Nat.zero_le _)
  exact Advances.u16.bind fun tag =>
    (Advances.u16.bind fun len => hvalue len.toNat tag).mono (Nat.zero_le _)

/-- The loop of `Policy::decode`. -/
def fieldsFrom (bytes : Bytes) (pos : Nat) (fields : List Bytes) : Outcome (List Bytes) :=
  if _hpos : pos < bytes.length then
    match _hstep : tlvAt fields.length bytes pos with
    | .ok (value, stop) => fieldsFrom bytes stop (fields ++ [value])
    | .err => .err
    | .panic => .panic
  else .ok fields
termination_by bytes.length - pos
decreasing_by
  have hadvance := tlvAt_advances fields.length bytes pos value stop _hstep
  omega

/-! #### The loop -/

theorem nextTag_of_lt {count : Nat} (h : count + 1 < 2 ^ 16) :
    nextTag count = .ok (.ofNat (count + 1)) := by
  have hnat : (UInt16.ofNat count).toNat = count :=
    UInt16.toNat_ofNat_of_lt' (Nat.lt_of_succ_lt h)
  rw [nextTag, hnat, if_pos h, UInt16.ofNat_add]
  rfl

theorem codec_tlv {count : Nat} (h : count + 1 < 2 ^ 16) :
    Codec (tlvAt count) fun value bytes =>
      bytes = pushTlv (.ofNat (count + 1)) value ∧ value.length < 2 ^ 16 := by
  have hpanic : nextTag count ≠ .panic := by
    rw [nextTag_of_lt h]
    exact fun h => nomatch h
  refine Codec.congr (.field .u16 fun _ => .field .u16 fun len => .bind (.take len.toNat) fun _ =>
    .bind (.lift hpanic) fun _ => .check <| .pure _) fun value bytes => ?_
  constructor
  · intro hall
    obtain ⟨tag, _, rfl, len, _, rfl, _, _, ⟨rfl, hlen⟩, _, rfl, hall⟩ := hall
    obtain ⟨_, _, ⟨htag, rfl⟩, _, rfl, rfl, rfl, rfl⟩ := hall
    rw [nextTag_of_lt h] at htag
    cases htag
    refine ⟨?_, hlen.trans_lt len.toNat_lt⟩
    rw [pushTlv, hlen, UInt16.ofNat_toNat, List.append_nil]
  · rintro ⟨rfl, hlt⟩
    exact ⟨_, _, rfl, _, _, rfl, value, _, ⟨rfl, (UInt16.toNat_ofNat_of_lt' hlt).symm⟩, [],
      (List.append_nil _).symm, _, [], ⟨nextTag_of_lt h, rfl⟩, [], rfl, rfl, rfl, rfl⟩

/-- The fields of a policy, after so many others. -/
def tlvs : Nat → List Bytes → Bytes
  | _, [] => []
  | count, value :: values => pushTlv (.ofNat (count + 1)) value ++ tlvs (count + 1) values

theorem length_pushTlv (tag : UInt16) (value : Bytes) :
    (pushTlv tag value).length = value.length + 4 := by
  simp only [pushTlv, List.length_append, length_be16]
  omega

theorem length_le_tlvs (count : Nat) (values : List Bytes) :
    values.length ≤ (tlvs count values).length := by
  induction values generalizing count with
  | nil => exact le_rfl
  | cons value values ih =>
    have hrest := ih (count + 1)
    rw [tlvs, List.length_append, length_pushTlv, List.length_cons]
    omega

theorem fieldsFrom_end (front : Bytes) (fields : List Bytes) :
    fieldsFrom front front.length fields = .ok fields := by
  rw [fieldsFrom, dif_neg (Nat.lt_irrefl _)]

theorem fieldsFrom_step {bytes : Bytes} {pos stop : Nat} {fields : List Bytes} {value : Bytes}
    (hpos : pos < bytes.length) (h : tlvAt fields.length bytes pos = .ok (value, stop)) :
    fieldsFrom bytes pos fields = fieldsFrom bytes stop (fields ++ [value]) := by
  rw [fieldsFrom, dif_pos hpos]
  split
  · rename_i heq
    rw [h] at heq
    cases heq
    rfl
  · rename_i heq
    rw [h] at heq
    cases heq
  · rename_i heq
    rw [h] at heq
    cases heq

theorem fieldsFrom_err {bytes : Bytes} {pos : Nat} {fields : List Bytes}
    (hpos : pos < bytes.length) (h : tlvAt fields.length bytes pos = .err) :
    fieldsFrom bytes pos fields = .err := by
  rw [fieldsFrom, dif_pos hpos]
  split
  · rename_i heq
    rw [h] at heq
    cases heq
  · rfl
  · rename_i heq
    rw [h] at heq
    cases heq

/-- The loop reads the fields that were written. -/
theorem fieldsFrom_tlvs (values : List Bytes) (front : Bytes) (fields : List Bytes)
    (hlt : ∀ value ∈ values, value.length < 2 ^ 16)
    (hcount : fields.length + values.length < 2 ^ 16)
    (haddr : Addressable (front ++ tlvs fields.length values)) :
    fieldsFrom (front ++ tlvs fields.length values) front.length fields =
      .ok (fields ++ values) := by
  induction values generalizing front fields with
  | nil => rw [tlvs, List.append_nil, fieldsFrom_end, List.append_nil]
  | cons value values ih =>
    rw [tlvs] at haddr ⊢
    rw [List.length_cons] at hcount
    have hvalue := hlt value List.mem_cons_self
    have hread := (codec_tlv (by omega)).reads ⟨rfl, hvalue⟩ front
      (tlvs (fields.length + 1) values) haddr
    have hpos : front.length <
        (front ++ (pushTlv (.ofNat (fields.length + 1)) value ++
          tlvs (fields.length + 1) values)).length := by
      rw [List.length_append, List.length_append, length_pushTlv]
      omega
    have hlen : (fields ++ [value]).length = fields.length + 1 := by
      rw [List.length_append, List.length_singleton]
    have hrest := ih (front ++ pushTlv (.ofNat (fields.length + 1)) value) (fields ++ [value])
      (fun value hmem => hlt value (List.mem_cons_of_mem _ hmem)) (by omega)
      (by rwa [hlen, List.append_assoc])
    rw [hlen, List.append_assoc, List.length_append, List.append_assoc,
      List.singleton_append] at hrest
    rw [fieldsFrom_step hpos hread, hrest]

/-- What the loop does: an error, or the fields that stand there. -/
theorem fieldsFrom_cases (size : Nat) (front back : Bytes) (fields : List Bytes)
    (hsize : back.length ≤ size) (hcount : fields.length + back.length < 2 ^ 16)
    (haddr : Addressable (front ++ back)) :
    fieldsFrom (front ++ back) front.length fields = .err ∨
      ∃ values, back = tlvs fields.length values ∧ ∀ value ∈ values, value.length < 2 ^ 16 := by
  induction size generalizing front back fields with
  | zero =>
    have hback : back = [] := List.eq_nil_of_length_eq_zero (by omega)
    exact .inr ⟨[], hback, by simp⟩
  | succ size ih =>
    by_cases hempty : back = []
    · exact .inr ⟨[], hempty, by simp⟩
    have hback := List.length_pos_iff.mpr hempty
    have hpos : front.length < (front ++ back).length := by
      rw [List.length_append]
      omega
    have hcodec := codec_tlv (show fields.length + 1 < 2 ^ 16 by omega)
    obtain herr | ⟨value, taken, rest, rfl, hG⟩ := hcodec.only front back haddr
    · exact .inl (fieldsFrom_err hpos herr)
    · have hread := hcodec.reads hG front rest haddr
      obtain ⟨rfl, hvalue⟩ := hG
      have hlen : (fields ++ [value]).length = fields.length + 1 := by
        rw [List.length_append, List.length_singleton]
      rw [List.length_append, length_pushTlv] at hsize hcount
      have hrest := ih (front ++ pushTlv (.ofNat (fields.length + 1)) value) rest
        (fields ++ [value]) (by omega) (by omega) (by rwa [List.append_assoc])
      rw [hlen, List.append_assoc, List.length_append] at hrest
      rw [fieldsFrom_step hpos hread]
      obtain herr | ⟨values, rfl, hvalues⟩ := hrest
      · exact .inl herr
      · refine .inr ⟨value :: values, rfl, ?_⟩
        rw [List.forall_mem_cons]
        exact ⟨hvalue, hvalues⟩

/-! #### The fields -/

/-- `one_u32`. -/
def oneU32 (value : Bytes) : Outcome UInt32 := do
  let bytes ← tryInto 4 value
  .ok (.ofNat (fromBigEndian bytes.1))

/-- Two bytes of the ports. -/
def portAt (ports : Bytes) (start : Nat) : Outcome UInt16 := do
  let bytes ← tryInto 2 (← slice ports start (start + 2))
  .ok (.ofNat (fromBigEndian bytes.1))

/-- What `Policy::decode` makes of the fields. -/
def policyOf (fields : List Bytes) : Outcome Policy := do
  if fields.length ≠ 8 then .err
  else
    let ports ← index fields 7
    if ports.length ≠ 4 then .err
    else
      let operator_uid ← oneU32 (← index fields 0)
      let operator_gid ← oneU32 (← index fields 1)
      let binary ← decodeIdentity (← index fields 2)
      let config ← decodeIdentity (← index fields 3)
      let database_root ← decodeIdentity (← index fields 4)
      let admission_lock ← index fields 5
      let unit ← index fields 6
      let first ← portAt ports 0
      let second ← portAt ports 2
      if admission_lock ≠ admissionLock ∨ unit ≠ serviceUnit ∨ (first, second) ≠ (9291, 9292) then
        .err
      else
        .ok {
          operator_uid, operator_gid, binary, config, database_root, admission_lock, unit,
          ports := (first, second) }

namespace Policy

/-- The fields of a policy. -/
def fields (policy : Policy) : List Bytes :=
  [be32 policy.operator_uid, be32 policy.operator_gid, encodeIdentity policy.binary,
    encodeIdentity policy.config, encodeIdentity policy.database_root, policy.admission_lock,
    policy.unit, be16 policy.ports.1 ++ be16 policy.ports.2]

/-- What `Policy::encode` writes behind its head. -/
def body (policy : Policy) : Bytes :=
  [pushTlv 1 (be32 policy.operator_uid), pushTlv 2 (be32 policy.operator_gid),
    pushTlv 3 (encodeIdentity policy.binary), pushTlv 4 (encodeIdentity policy.config),
    pushTlv 5 (encodeIdentity policy.database_root), pushTlv 6 policy.admission_lock,
    pushTlv 7 policy.unit, pushTlv 8 (be16 policy.ports.1 ++ be16 policy.ports.2)].flatten

def encode (policy : Policy) : Bytes :=
  [policyMagic.1, be16 1, be16 (.ofNat (12 + policy.body.length)), policy.body].flatten

/-- The head of `Policy::decode`, of so many bytes. -/
def headAt (size : Nat) : Cursor Unit := do
  let magic ← Cursor.array 8
  Cursor.check (magic = policyMagic)
  let version ← Cursor.u16
  Cursor.check (version = 1)
  let length ← Cursor.u16
  Cursor.check (length.toNat = size)

def decode (bytes : Bytes) : Outcome Policy := do
  if maxPolicySize < bytes.length ∨ bytes.length < 12 then .err
  else
    let (_, pos) ← headAt bytes.length bytes 0
    let fields ← fieldsFrom bytes pos []
    policyOf fields

/-- What `decode` asks of a policy. -/
structure Valid (policy : Policy) : Prop where
  binary : CanonicalPath policy.binary.path ∧ policy.binary.inode ≠ 0
  config : CanonicalPath policy.config.path ∧ policy.config.inode ≠ 0
  database_root : CanonicalPath policy.database_root.path ∧ policy.database_root.inode ≠ 0
  admission_lock : policy.admission_lock = admissionLock
  unit : policy.unit = serviceUnit
  ports : policy.ports = (9291, 9292)

theorem body_eq (policy : Policy) : policy.body = tlvs 0 policy.fields := rfl

theorem policyOf_eight (f0 f1 f2 f3 f4 f5 f6 f7 : Bytes) :
    policyOf [f0, f1, f2, f3, f4, f5, f6, f7] =
      (if f7.length ≠ 4 then .err
      else do
        let operator_uid ← oneU32 f0
        let operator_gid ← oneU32 f1
        let binary ← decodeIdentity f2
        let config ← decodeIdentity f3
        let database_root ← decodeIdentity f4
        let first ← portAt f7 0
        let second ← portAt f7 2
        if f5 ≠ admissionLock ∨ f6 ≠ serviceUnit ∨ (first, second) ≠ (9291, 9292) then .err
        else .ok ⟨operator_uid, operator_gid, binary, config, database_root, f5, f6,
          (first, second)⟩) := by
  unfold policyOf
  rfl

theorem oneU32_ok_iff (value : Bytes) (n : UInt32) : oneU32 value = .ok n ↔ value = be32 n := by
  rw [oneU32, Outcome.bind_eq_ok]
  constructor
  · rintro ⟨block, hblock, hn⟩
    cases hn
    rw [be32_ofNat]
    rw [tryInto] at hblock
    split at hblock
    · cases hblock
      rfl
    · cases hblock
  · rintro rfl
    refine ⟨⟨be32 n, length_be32 n⟩, dif_pos (length_be32 n), ?_⟩
    rw [ofNat_be32]

theorem oneU32_ne_panic (value : Bytes) : oneU32 value ≠ .panic := by
  refine Outcome.bind_ne_panic ?_ fun _ _ h => by cases h
  intro h
  rw [tryInto] at h
  split at h
  · cases h
  · cases h

/-- A port that stands at its place. -/
theorem portAt_append (front rest : Bytes) {ports : Bytes} {start : Nat} (port : UInt16)
    (hports : ports = front ++ (be16 port ++ rest)) (hstart : front.length = start) :
    portAt ports start = .ok port := by
  have hslice : slice ports start (start + 2) = .ok (be16 port) :=
    slice_append front rest hports hstart (by rw [length_be16])
  rw [portAt, hslice, Outcome.bind_ok]
  have hblock : tryInto 2 (be16 port) = .ok ⟨be16 port, length_be16 port⟩ :=
    dif_pos (length_be16 port)
  rw [hblock, Outcome.bind_ok, ofNat_be16]

/-- Four bytes are two ports. -/
theorem exists_ports {ports : Bytes} (h : ports.length = 4) :
    ∃ first second, ports = be16 first ++ be16 second := by
  obtain ⟨front, rest, rfl⟩ := exists_block 2 (by omega : 2 ≤ ports.length)
  rw [List.length_append, front.2] at h
  have hrest := be16_ofNat ⟨rest, by omega⟩
  refine ⟨.ofNat (fromBigEndian front.1), .ofNat (fromBigEndian rest), ?_⟩
  rw [be16_ofNat front]
  exact congrArg (front.1 ++ ·) hrest.symm

theorem portAt_ports (first second : UInt16) :
    portAt (be16 first ++ be16 second) 0 = .ok first ∧
      portAt (be16 first ++ be16 second) 2 = .ok second := by
  constructor
  · exact portAt_append [] (be16 second) first rfl rfl
  · refine portAt_append (be16 first) [] second ?_ (length_be16 first)
    rw [List.append_nil]

theorem exists_eight {fields : List Bytes} (h : fields.length = 8) :
    ∃ f0 f1 f2 f3 f4 f5 f6 f7, fields = [f0, f1, f2, f3, f4, f5, f6, f7] := by
  match fields, h with
  | [f0, f1, f2, f3, f4, f5, f6, f7], _ => exact ⟨f0, f1, f2, f3, f4, f5, f6, f7, rfl⟩

theorem addressable_of_lt {value : Bytes} (h : value.length < 2 ^ 16) : Addressable value :=
  h.trans (by decide)

theorem policyOf_ok_iff {fields : List Bytes} (hlt : ∀ value ∈ fields, value.length < 2 ^ 16)
    (policy : Policy) : policyOf fields = .ok policy ↔ fields = policy.fields ∧ policy.Valid := by
  by_cases hlen : fields.length = 8
  case neg =>
    rw [policyOf, if_pos hlen]
    refine iff_of_false (fun h => nomatch h) ?_
    rintro ⟨rfl, -⟩
    exact hlen rfl
  obtain ⟨f0, f1, f2, f3, f4, f5, f6, f7, rfl⟩ := exists_eight hlen
  have haddr : ∀ f ∈ [f0, f1, f2, f3, f4, f5, f6, f7], Addressable f := fun f hf =>
    addressable_of_lt (hlt f hf)
  have h2 := decodeIdentity_ok_iff (haddr f2 (by simp))
  have h3 := decodeIdentity_ok_iff (haddr f3 (by simp))
  have h4 := decodeIdentity_ok_iff (haddr f4 (by simp))
  rw [policyOf_eight]
  constructor
  · intro h
    split at h
    · cases h
    · rename_i hports
      rw [not_not] at hports
      simp only [Outcome.bind_eq_ok, oneU32_ok_iff, h2, h3, h4] at h
      obtain ⟨uid, rfl, gid, rfl, binary, ⟨rfl, hbinary⟩, config, ⟨rfl, hconfig⟩, root, ⟨rfl, hroot⟩,
        first, hfirst, second, hsecond, h⟩ := h
      split at h
      · cases h
      · rename_i hnames
        rw [not_or, not_or, not_not, not_not, not_not] at hnames
        cases h
        obtain ⟨a, b, rfl⟩ := exists_ports hports
        obtain ⟨ha, hb⟩ := portAt_ports a b
        rw [ha] at hfirst
        rw [hb] at hsecond
        cases hfirst
        cases hsecond
        exact ⟨rfl, hbinary, hconfig, hroot, hnames.1, hnames.2.1, hnames.2.2⟩
  · rintro ⟨hfields, hvalid⟩
    simp only [fields, List.cons.injEq, and_true] at hfields
    obtain ⟨rfl, rfl, hf2, hf3, hf4, rfl, rfl, rfl⟩ := hfields
    obtain ⟨hfirst, hsecond⟩ := portAt_ports policy.ports.1 policy.ports.2
    rw [if_neg (by simp), (oneU32_ok_iff _ _).mpr rfl, Outcome.bind_ok,
      (oneU32_ok_iff _ _).mpr rfl, Outcome.bind_ok, (h2 _).mpr ⟨hf2, hvalid.binary⟩,
      Outcome.bind_ok, (h3 _).mpr ⟨hf3, hvalid.config⟩, Outcome.bind_ok,
      (h4 _).mpr ⟨hf4, hvalid.database_root⟩, Outcome.bind_ok, hfirst, Outcome.bind_ok, hsecond,
      Outcome.bind_ok, if_neg]
    rintro (hlock | hunit | hports)
    · exact hlock hvalid.admission_lock
    · exact hunit hvalid.unit
    · exact hports hvalid.ports

theorem policyOf_ne_panic {fields : List Bytes} (hlt : ∀ value ∈ fields, value.length < 2 ^ 16) :
    policyOf fields ≠ .panic := by
  by_cases hlen : fields.length = 8
  case neg =>
    rw [policyOf, if_pos hlen]
    exact fun h => nomatch h
  obtain ⟨f0, f1, f2, f3, f4, f5, f6, f7, rfl⟩ := exists_eight hlen
  have hidentity : ∀ f ∈ [f0, f1, f2, f3, f4, f5, f6, f7], decodeIdentity f ≠ .panic := fun f hf =>
    decodeIdentity_ne_panic (addressable_of_lt (hlt f hf))
  rw [policyOf_eight]
  split
  · exact fun h => nomatch h
  · rename_i hports
    rw [not_not] at hports
    obtain ⟨first, second, rfl⟩ := exists_ports hports
    obtain ⟨hfirst, hsecond⟩ := portAt_ports first second
    refine Outcome.bind_ne_panic (oneU32_ne_panic f0) fun _ _ => ?_
    refine Outcome.bind_ne_panic (oneU32_ne_panic f1) fun _ _ => ?_
    refine Outcome.bind_ne_panic (hidentity f2 (by simp)) fun _ _ => ?_
    refine Outcome.bind_ne_panic (hidentity f3 (by simp)) fun _ _ => ?_
    refine Outcome.bind_ne_panic (hidentity f4 (by simp)) fun _ _ => ?_
    rw [hfirst, Outcome.bind_ok, hsecond, Outcome.bind_ok]
    split
    · exact fun h => nomatch h
    · exact fun h => nomatch h

theorem codec_head (size : Nat) : Codec (headAt size) fun _ bytes =>
    ∃ length : UInt16, length.toNat = size ∧
      bytes = [policyMagic.1, be16 1, be16 length].flatten := by
  refine Codec.congr (.field (.array 8) fun _ => .check <| .field .u16 fun _ => .check <|
    .field .u16 fun length => .guard (length.toNat = size)) fun _ bytes => ?_
  constructor
  · rintro ⟨_, _, rfl, rfl, _, _, rfl, rfl, length, _, rfl, hlength, rfl⟩
    exact ⟨length, hlength, rfl⟩
  · rintro ⟨length, hlength, rfl⟩
    exact ⟨policyMagic, _, rfl, rfl, 1, _, rfl, rfl, length, _, rfl, hlength, rfl⟩

theorem length_head (length : UInt16) :
    [policyMagic.1, be16 1, be16 length].flatten.length = 12 := by
  simp only [List.flatten_cons, List.flatten_nil, List.length_append, List.length_nil,
    length_be16, policyMagic.2]

/-- The bytes of a policy, by its paths and its names. -/
theorem length_body (policy : Policy) : policy.body.length =
    146 + policy.binary.path.length + policy.config.path.length +
      policy.database_root.path.length + policy.admission_lock.length + policy.unit.length := by
  simp only [body, List.flatten_cons, List.flatten_nil, List.length_append, List.length_nil,
    length_pushTlv, length_encodeIdentity, length_be16, length_be32]
  omega

theorem encode_eq (policy : Policy) : policy.encode =
    [policyMagic.1, be16 1, be16 (.ofNat (12 + policy.body.length))].flatten ++
      tlvs 0 policy.fields := by
  rw [← body_eq]
  simp only [encode, List.flatten_cons, List.flatten_nil, List.append_nil, List.append_assoc]

theorem length_encode (policy : Policy) : policy.encode.length = 12 + policy.body.length := by
  rw [encode_eq, ← body_eq, List.length_append, length_head]

/-- Three canonical paths, and the names that `decode` asks for. -/
structure Bounded (policy : Policy) : Prop where
  binary : CanonicalPath policy.binary.path
  config : CanonicalPath policy.config.path
  database_root : CanonicalPath policy.database_root.path
  admission_lock : policy.admission_lock = admissionLock
  unit : policy.unit = serviceUnit

theorem Valid.bounded {policy : Policy} (h : policy.Valid) : policy.Bounded :=
  ⟨h.binary.1, h.config.1, h.database_root.1, h.admission_lock, h.unit⟩

theorem Bounded.names {policy : Policy} (h : policy.Bounded) :
    policy.admission_lock.length = 23 ∧ policy.unit.length = 24 :=
  ⟨congrArg List.length h.admission_lock, congrArg List.length h.unit⟩

theorem Bounded.fits {policy : Policy} (h : policy.Bounded) :
    policy.encode.length ≤ maxPolicySize := by
  have hbinary := h.binary.2.1
  have hconfig := h.config.2.1
  have hroot := h.database_root.2.1
  rw [length_encode, length_body, h.names.1, h.names.2, maxPolicySize]
  omega

theorem Bounded.fields_lt {policy : Policy} (h : policy.Bounded) :
    ∀ value ∈ policy.fields, value.length < 2 ^ 16 := by
  have hbinary := h.binary.2.1
  have hconfig := h.config.2.1
  have hroot := h.database_root.2.1
  simp only [fields, List.forall_mem_cons, List.not_mem_nil, false_implies, implies_true, and_true,
    length_encodeIdentity, List.length_append, length_be16, length_be32, h.names.1, h.names.2]
  omega

/-- The lengths that are written in a policy. -/
def lengths (policy : Policy) : List Nat :=
  [policy.binary.path.length, policy.config.path.length, policy.database_root.path.length,
    12 + policy.body.length] ++ policy.fields.map List.length

/-- No length is cut off. -/
theorem Bounded.lengths_exact {policy : Policy} (h : policy.Bounded) :
    ∀ n ∈ policy.lengths, (UInt16.ofNat n).toNat = n := by
  have hbinary := h.binary.2.1
  have hconfig := h.config.2.1
  have hroot := h.database_root.2.1
  have htotal := h.fits
  rw [length_encode, maxPolicySize] at htotal
  have hlt : ∀ n ∈ policy.lengths, n < 2 ^ 16 := by
    intro n hn
    rw [lengths, List.mem_append] at hn
    obtain hn | hn := hn
    · simp only [List.mem_cons, List.not_mem_nil, or_false] at hn
      omega
    · obtain ⟨value, hvalue, rfl⟩ := List.mem_map.mp hn
      exact h.fields_lt value hvalue
  exact fun n hn => UInt16.toNat_ofNat_of_lt' (hlt n hn)

/-- **A policy that `decode` admits is decoded from its bytes.** -/
theorem decode_encode {policy : Policy} (h : policy.Valid) :
    decode policy.encode = .ok policy := by
  have hfits := h.bounded.fits
  have hlength := length_encode policy
  have hfields := h.bounded.fields_lt
  have hnat : (UInt16.ofNat (12 + policy.body.length)).toNat = policy.encode.length := by
    rw [hlength]
    exact UInt16.toNat_ofNat_of_lt' (by rw [← hlength]; exact hfits.trans_lt (by decide))
  have haddr : Addressable policy.encode := hfits.trans_lt (by decide)
  rw [decode, if_neg (by omega)]
  -- the head, and then the loop from where it ends
  rw [encode_eq] at haddr ⊢
  have hhead := (codec_head policy.encode.length).reads (a := ()) ⟨_, hnat, rfl⟩ []
    (tlvs 0 policy.fields) haddr
  rw [List.nil_append, List.length_nil, Nat.zero_add, encode_eq] at hhead
  have hloop := fieldsFrom_tlvs policy.fields
    [policyMagic.1, be16 1, be16 (.ofNat (12 + policy.body.length))].flatten [] hfields
    (show 0 + 8 < 2 ^ 16 by decide) haddr
  rw [hhead, Outcome.bind_ok]
  dsimp only
  rw [List.length_nil] at hloop
  rw [hloop, Outcome.bind_ok, List.nil_append]
  exact (policyOf_ok_iff hfields policy).mpr ⟨rfl, h⟩

/-- What `decode` does: an error, or a valid policy from its own bytes. -/
theorem decode_cases (bytes : Bytes) : decode bytes = .err ∨
    ∃ policy, decode bytes = .ok policy ∧ bytes = policy.encode ∧ policy.Valid := by
  rw [decode]
  split
  · exact .inl rfl
  rename_i hsize
  rw [not_or, Nat.not_lt, Nat.not_lt, maxPolicySize] at hsize
  have haddr : Addressable bytes := by
    rw [Addressable]
    omega
  obtain herr | ⟨_, taken, rest, hbytes, ⟨length, hlength, htaken⟩, hhead⟩ :=
    (codec_head bytes.length).run haddr
  · rw [herr]
    exact .inl rfl
  rw [hhead, Outcome.bind_ok]
  dsimp only
  have hrest : rest.length ≤ bytes.length := by
    rw [hbytes, List.length_append]
    omega
  have hcount : ([] : List Bytes).length + rest.length < 2 ^ 16 := by
    rw [List.length_nil]
    omega
  rw [hbytes] at haddr ⊢
  obtain herr | ⟨values, hvalues, hlt⟩ :=
    fieldsFrom_cases rest.length taken rest [] le_rfl hcount haddr
  · rw [herr]
    exact .inl rfl
  rw [hvalues] at haddr hrest ⊢
  have hcount' : ([] : List Bytes).length + values.length < 2 ^ 16 := by
    have hvalues := length_le_tlvs 0 values
    rw [List.length_nil] at hrest ⊢
    omega
  rw [fieldsFrom_tlvs values taken [] hlt hcount' haddr, Outcome.bind_ok, List.nil_append]
  cases hpolicy : policyOf values with
  | err => exact .inl rfl
  | panic => exact absurd hpolicy (policyOf_ne_panic hlt)
  | ok policy =>
    obtain ⟨rfl, hvalid⟩ := (policyOf_ok_iff hlt policy).mp hpolicy
    refine .inr ⟨policy, rfl, ?_, hvalid⟩
    have htotal : length.toNat = 12 + policy.body.length := by
      rw [hlength, hbytes, htaken, List.length_append, length_head, hvalues]
      rfl
    rw [encode_eq, ← htotal, UInt16.ofNat_toNat, htaken]
    rfl

/-- **What is decoded is a valid policy from its own bytes.** -/
theorem decode_ok_iff (bytes : Bytes) (policy : Policy) :
    decode bytes = .ok policy ↔ bytes = policy.encode ∧ policy.Valid := by
  constructor
  · intro hok
    obtain herr | ⟨found, hfound, hbytes, hvalid⟩ := decode_cases bytes
    · rw [herr] at hok
      cases hok
    · rw [hfound] at hok
      cases hok
      exact ⟨hbytes, hvalid⟩
  · rintro ⟨rfl, hvalid⟩
    exact decode_encode hvalid

theorem decode_ne_panic (bytes : Bytes) : decode bytes ≠ .panic := by
  obtain herr | ⟨policy, hok, -⟩ := decode_cases bytes
  · rw [herr]
    exact fun h => nomatch h
  · rw [hok]
    exact fun h => nomatch h

end Policy

end GuiguBridge.PrivilegedProc
