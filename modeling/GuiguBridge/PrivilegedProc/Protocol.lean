import GuiguBridge.PrivilegedProc.Codec

/-!
# The packets of the privileged proof

One request goes to the helper, and one response comes back
(`src/src/privileged_proc_proof/protocol.rs`).

* `Request`, `Response` — with `encode` and `decode` as the source has them;
* `Request.decode_ok_iff` — **what is decoded is a valid request from its own bytes**;
* `Response.decode_encode`, `Response.encode_decode` — a response comes back, its count cut at
  65535;
* `packets_canonical` — **the packets and what they carry**: their round trips, their sizes, and
  that nothing makes a decoder panic.
-/

namespace GuiguBridge.PrivilegedProc

open ByteCodec

/-! ### The request -/

/-- `MAX_PACKET_SIZE`. -/
def maxPacketSize : Nat := 8192

structure ArtifactIdentity where
  device : UInt64
  inode : UInt64
  size : UInt64
  mode : UInt32
  uid : UInt32
  gid : UInt32
  deriving DecidableEq

namespace ArtifactIdentity

def encode (value : ArtifactIdentity) : Bytes :=
  [be64 value.device, be64 value.inode, be64 value.size, be32 value.mode, be32 value.uid,
    be32 value.gid].flatten

/-- `decode`. -/
def readAt : Cursor ArtifactIdentity := do
  let device ← Cursor.u64
  let inode ← Cursor.u64
  let size ← Cursor.u64
  let mode ← Cursor.u32
  let uid ← Cursor.u32
  let gid ← Cursor.u32
  pure { device, inode, size, mode, uid, gid }

theorem codec : Codec readAt (Written encode) := by
  refine Codec.congr (.field .u64 fun _ => .field .u64 fun _ => .field .u64 fun _ =>
    .field .u32 fun _ => .field .u32 fun _ => .field .u32 fun _ => .pure _) fun value bytes => ?_
  constructor
  · intro hmore
    obtain ⟨_, _, rfl, _, _, rfl, _, _, rfl, hmore⟩ := hmore
    obtain ⟨_, _, rfl, _, _, rfl, _, _, rfl, rfl, rfl⟩ := hmore
    rfl
  · rintro rfl
    exact ⟨_, _, rfl, _, _, rfl, _, _, rfl, _, _, rfl, _, _, rfl, _, _, rfl, rfl, rfl⟩

@[simp] theorem length_encode (value : ArtifactIdentity) : value.encode.length = 36 := by
  simp only [encode, List.flatten_cons, List.flatten_nil, List.length_append, List.length_nil,
    length_be32, length_be64]

end ArtifactIdentity

structure Request where
  manifest : Block 256
  policy : Bytes
  manifest_identity : ArtifactIdentity
  policy_identity : ArtifactIdentity
  nonce : Block 16
  mode : UInt8
  parent_pid : UInt32
  parent_starttime : UInt64
  admission_device : UInt64
  admission_inode : UInt64
  deadline_ms : UInt32
  deriving DecidableEq

/-- `GGPFR001`. -/
def requestMagic : Block 8 := ⟨[0x47, 0x47, 0x50, 0x46, 0x52, 0x30, 0x30, 0x31], rfl⟩

/-- `u16::try_from`. -/
def u16TryFrom (n : Nat) : Outcome UInt16 := if n < 2 ^ 16 then .ok (.ofNat n) else .err

namespace Request

/-- What is written behind the length. -/
def body (request : Request) : Bytes :=
  [request.manifest.1, be16 (.ofNat request.policy.length), request.policy,
    request.manifest_identity.encode, request.policy_identity.encode, request.nonce.1,
    [request.mode], [0, 0, 0], be32 request.parent_pid, be64 request.parent_starttime,
    be64 request.admission_device, be64 request.admission_inode,
    be32 request.deadline_ms].flatten

/-- A packet of a request, which says this length. -/
def packet (length : UInt16) (request : Request) : Bytes :=
  [requestMagic.1, be16 1, be16 length, request.body].flatten

def encode (request : Request) : Outcome Bytes :=
  if maxPolicySize < request.policy.length ∨ ¬ (1 ≤ request.mode ∧ request.mode ≤ 5) then .err
  else do
    let out := request.packet 0
    let len ← u16TryFrom out.length
    copyInto out 10 (be16 len)

/-- The fields of `decode`, in their order, in a packet of so many bytes. -/
def readAt (size : Nat) : Cursor Request := do
  let magic ← Cursor.array 8
  Cursor.check (magic = requestMagic)
  let version ← Cursor.u16
  Cursor.check (version = 1)
  let length ← Cursor.u16
  Cursor.check (length.toNat = size)
  let manifest ← Cursor.array 256
  let policy_len ← Cursor.u16
  let policy ← Cursor.chunk policy_len.toNat
  let manifest_identity ← ArtifactIdentity.readAt
  let policy_identity ← ArtifactIdentity.readAt
  let nonce ← Cursor.array 16
  let mode ← Cursor.getByte
  Cursor.expect [0, 0, 0]
  let parent_pid ← Cursor.u32
  let parent_starttime ← Cursor.u64
  let admission_device ← Cursor.u64
  let admission_inode ← Cursor.u64
  let deadline_ms ← Cursor.u32
  pure {
    manifest, policy, manifest_identity, policy_identity, nonce, mode, parent_pid,
    parent_starttime, admission_device, admission_inode, deadline_ms }

def decode (bytes : Bytes) : Outcome Request := do
  if maxPacketSize < bytes.length then .err
  else
    let value ← (readAt bytes.length).whole bytes
    if ¬ (1 ≤ value.mode ∧ value.mode ≤ 5) ∨ 5000 < value.deadline_ms then .err
    else
      let _ ← ArtifactManifest.decode value.manifest.1
      let _ ← Policy.decode value.policy
      .ok value

/-- What `decode` asks of a request. -/
structure Valid (request : Request) : Prop where
  mode : 1 ≤ request.mode ∧ request.mode ≤ 5
  deadline_ms : request.deadline_ms ≤ 5000
  manifest : ∃ manifest : ArtifactManifest, request.manifest.1 = manifest.encode ∧ manifest.Valid
  policy : ∃ policy : Policy, request.policy = policy.encode ∧ policy.Valid

theorem packet_eq (length : UInt16) (request : Request) :
    request.packet length = requestMagic.1 ++ (be16 1 ++ (be16 length ++ request.body)) := by
  simp only [packet, List.flatten_cons, List.flatten_nil, List.append_nil]

theorem length_packet (length : UInt16) (request : Request) :
    (request.packet length).length = request.policy.length + 394 := by
  simp only [packet_eq, body, List.flatten_cons, List.flatten_nil, List.length_append,
    List.length_nil, List.length_cons, length_be16, length_be32, length_be64, requestMagic.2,
    request.manifest.2, request.nonce.2, ArtifactIdentity.length_encode]
  omega

theorem codec (size : Nat) : Codec (readAt size) fun request bytes =>
    ∃ length : UInt16, length.toNat = size ∧ bytes = request.packet length ∧
      request.policy.length < 2 ^ 16 := by
  have hchunk : ∀ n : UInt16, n.toNat < 2 ^ 63 := fun n =>
    Nat.lt_trans n.toNat_lt (by decide)
  have hzeros : ([0, 0, 0] : Bytes).length < 2 ^ 63 := by decide
  refine Codec.congr (.field (.array 8) fun _ => .check <| .field .u16 fun _ => .check <|
    .field .u16 fun _ => .check <| .field (.array 256) fun _ => .field .u16 fun n =>
    .bind (.chunk (hchunk n)) fun _ => .field ArtifactIdentity.codec fun _ =>
    .field ArtifactIdentity.codec fun _ => .field (.array 16) fun _ => .field .getByte fun _ =>
    .field (.expect hzeros) fun _ => .field .u32 fun _ => .field .u64 fun _ =>
    .field .u64 fun _ => .field .u64 fun _ => .field .u32 fun _ => .pure _)
    fun request bytes => ?_
  constructor
  · intro hmore
    obtain ⟨_, _, rfl, rfl, _, _, rfl, rfl, length, _, rfl, hmore⟩ := hmore
    obtain ⟨hlength, _, _, rfl, n, _, rfl, _, _, ⟨rfl, hlen⟩, hmore⟩ := hmore
    obtain ⟨_, rfl, _, _, rfl, _, _, rfl, _, _, rfl, hmore⟩ := hmore
    obtain ⟨_, _, rfl, _, _, rfl, _, _, rfl, hmore⟩ := hmore
    obtain ⟨_, _, rfl, _, _, rfl, _, _, rfl, hmore⟩ := hmore
    obtain ⟨_, _, rfl, rfl, rfl⟩ := hmore
    refine ⟨length, hlength, ?_, hlen.trans_lt n.toNat_lt⟩
    rw [packet_eq, body, hlen, UInt16.ofNat_toNat]
    rfl
  · rintro ⟨length, hlength, rfl, hlt⟩
    rw [packet_eq]
    exact ⟨requestMagic, _, rfl, rfl, 1, _, rfl, rfl, length, _, rfl, hlength, _, _, rfl,
      .ofNat request.policy.length, _, rfl, request.policy, _,
      ⟨rfl, (UInt16.toNat_ofNat_of_lt' hlt).symm⟩, _, rfl, _, _, rfl, _, _, rfl, _, _, rfl,
      _, _, rfl, (), _, rfl, _, _, rfl, _, _, rfl, _, _, rfl, _, _, rfl, _, _, rfl, rfl, rfl⟩

/-- What `encode` does with a request that it admits. -/
theorem encode_of_fits {request : Request} (hpolicy : request.policy.length ≤ maxPolicySize)
    (hmode : 1 ≤ request.mode ∧ request.mode ≤ 5) :
    request.encode = .ok (request.packet (.ofNat (request.policy.length + 394))) := by
  have hlt : request.policy.length + 394 < 2 ^ 16 := by
    rw [maxPolicySize] at hpolicy
    omega
  have hcopy : copyInto (request.packet 0) 10 (be16 (.ofNat (request.policy.length + 394))) =
      .ok ((requestMagic.1 ++ be16 1) ++
        (be16 (.ofNat (request.policy.length + 394)) ++ request.body)) := by
    refine copyInto_append (requestMagic.1 ++ be16 1) (be16 0) request.body ?_ ?_ ?_
    · rw [packet_eq, List.append_assoc]
    · rw [List.length_append, requestMagic.2, length_be16]
    · rw [length_be16, length_be16]
  rw [encode, if_neg (not_or.mpr ⟨Nat.not_lt.2 hpolicy, not_not.mpr hmode⟩)]
  dsimp only
  rw [length_packet, u16TryFrom, if_pos hlt, Outcome.bind_ok, hcopy, packet_eq, List.append_assoc]

/-- A request that `encode` admits fits a packet, which says its length. -/
theorem encode_fits {request : Request} (hpolicy : request.policy.length ≤ maxPolicySize)
    (hmode : 1 ≤ request.mode ∧ request.mode ≤ 5) :
    ∃ bytes, request.encode = .ok bytes ∧ bytes.length ≤ maxPacketSize ∧
      (UInt16.ofNat bytes.length).toNat = bytes.length := by
  refine ⟨_, encode_of_fits hpolicy hmode, ?_, ?_⟩
  · rw [length_packet]
    rw [maxPolicySize] at hpolicy
    rw [maxPacketSize]
    omega
  · rw [maxPolicySize] at hpolicy
    rw [length_packet]
    exact UInt16.toNat_ofNat_of_lt' (show _ < 2 ^ 16 by omega)

theorem Valid.policy_le {request : Request} (h : request.Valid) :
    request.policy.length ≤ maxPolicySize := by
  obtain ⟨policy, hpolicy, hvalid⟩ := h.policy
  rw [hpolicy]
  exact hvalid.bounded.fits

/-- What `decode` does with a text: an error, or a valid request from its own bytes. -/
theorem decode_cases (bytes : Bytes) : decode bytes = .err ∨
    ∃ request, decode bytes = .ok request ∧ request.encode = .ok bytes ∧ request.Valid := by
  rw [decode]
  split
  · exact .inl rfl
  rename_i hsize
  rw [Nat.not_lt, maxPacketSize] at hsize
  have haddr : Addressable bytes := by
    rw [Addressable]
    omega
  have hread := (codec bytes.length).whole_ok_iff haddr
  cases hwhole : (readAt bytes.length).whole bytes with
  | err => exact .inl rfl
  | panic => exact absurd hwhole ((codec bytes.length).whole_ne_panic haddr)
  | ok request =>
    obtain ⟨length, hlength, hbytes, hlt⟩ := (hread request).mp hwhole
    rw [Outcome.bind_ok]
    split
    · exact .inl rfl
    rename_i hlimits
    rw [not_or, not_not, UInt32.not_lt] at hlimits
    cases hmanifest : ArtifactManifest.decode request.manifest.1 with
    | err => exact .inl rfl
    | panic => exact absurd hmanifest (ArtifactManifest.decode_ne_panic _)
    | ok manifest =>
      cases hpolicy : Policy.decode request.policy with
      | err => exact .inl rfl
      | panic => exact absurd hpolicy (Policy.decode_ne_panic _)
      | ok policy =>
        have hvalid : request.Valid := ⟨hlimits.1, hlimits.2,
          ⟨manifest, (ArtifactManifest.decode_ok_iff _ _).mp hmanifest⟩,
          ⟨policy, (Policy.decode_ok_iff _ _).mp hpolicy⟩⟩
        refine .inr ⟨request, rfl, ?_, hvalid⟩
        have htotal : length.toNat = request.policy.length + 394 := by
          rw [hlength, hbytes, length_packet]
        rw [encode_of_fits hvalid.policy_le hvalid.mode, ← htotal, UInt16.ofNat_toNat, ← hbytes]

/-- **A request that `decode` admits is decoded from its bytes.** -/
theorem decode_encode {request : Request} (h : request.Valid) :
    ∃ bytes, request.encode = .ok bytes ∧ decode bytes = .ok request := by
  have hpolicy := h.policy_le
  rw [maxPolicySize] at hpolicy
  refine ⟨_, encode_of_fits h.policy_le h.mode, ?_⟩
  have hlength := length_packet (.ofNat (request.policy.length + 394)) request
  have hnat : (UInt16.ofNat (request.policy.length + 394)).toNat = request.policy.length + 394 :=
    UInt16.toNat_ofNat_of_lt' (show _ < 2 ^ 16 by omega)
  generalize hpacket : request.packet (.ofNat (request.policy.length + 394)) = bytes at hlength ⊢
  have haddr : Addressable bytes := by
    rw [Addressable]
    omega
  have hread : (readAt bytes.length).whole bytes = .ok request :=
    ((codec bytes.length).whole_ok_iff haddr request).mpr
      ⟨_, hnat.trans hlength.symm, hpacket.symm, by omega⟩
  obtain ⟨manifest, hmanifest⟩ := h.manifest
  obtain ⟨policy, hpolicy⟩ := h.policy
  rw [decode, if_neg (by rw [maxPacketSize]; omega), hread, Outcome.bind_ok, if_neg,
    (ArtifactManifest.decode_ok_iff _ manifest).mpr hmanifest, Outcome.bind_ok,
    (Policy.decode_ok_iff _ policy).mpr hpolicy, Outcome.bind_ok]
  rintro (hmode | hdeadline)
  · exact hmode h.mode
  · exact UInt32.not_lt.2 h.deadline_ms hdeadline

/-- **What is decoded is a valid request from its own bytes.** -/
theorem decode_ok_iff (bytes : Bytes) (request : Request) :
    decode bytes = .ok request ↔ request.encode = .ok bytes ∧ request.Valid := by
  constructor
  · intro hok
    obtain herr | ⟨found, hfound, hbytes, hvalid⟩ := decode_cases bytes
    · rw [herr] at hok
      cases hok
    · rw [hfound] at hok
      cases hok
      exact ⟨hbytes, hvalid⟩
  · rintro ⟨hbytes, hvalid⟩
    obtain ⟨found, hfound, hdecode⟩ := decode_encode hvalid
    rw [hbytes] at hfound
    cases hfound
    exact hdecode

theorem decode_ne_panic (bytes : Bytes) : decode bytes ≠ .panic := by
  obtain herr | ⟨request, hok, -⟩ := decode_cases bytes
  · rw [herr]
    exact fun h => nomatch h
  · rw [hok]
    exact fun h => nomatch h

end Request

/-! ### The response -/

inductive ProofResult where
  | clean
  | process
  | listener
  | unknown
  deriving DecidableEq

namespace ProofResult

def toByte : ProofResult → UInt8
  | .clean => 0
  | .process => 1
  | .listener => 2
  | .unknown => 3

def ofByte : UInt8 → Option ProofResult
  | 0 => some .clean
  | 1 => some .process
  | 2 => some .listener
  | 3 => some .unknown
  | _ => none

theorem ofByte_toByte (result : ProofResult) : ofByte result.toByte = some result := by
  cases result <;> rfl

theorem eq_toByte {b : UInt8} {result : ProofResult} (h : ofByte b = some result) :
    b = result.toByte := by
  unfold ofByte at h
  split at h <;> first | (cases h; rfl) | cases h

end ProofResult

structure Response where
  nonce : Block 16
  result : ProofResult
  cause : UInt8
  count : UInt32
  deriving DecidableEq

/-- `GGPFO001`. -/
def resultMagic : Block 8 := ⟨[0x47, 0x47, 0x50, 0x46, 0x4f, 0x30, 0x30, 0x31], rfl⟩

namespace Response

/-- `encode`; the count is cut to what its two bytes hold. -/
def encode (response : Response) : Outcome Bytes := do
  let out ← copyInto (List.replicate 32 0) 0 resultMagic.1
  let out ← copyInto out 8 (be16 1)
  let out ← copyInto out 10 (be16 32)
  let out ← copyInto out 12 response.nonce.1
  let out ← copyInto out 28 [response.result.toByte]
  let out ← copyInto out 29 [response.cause]
  copyInto out 30 (be16 (.ofNat (min response.count.toNat 65535)))

def decode (bytes : Bytes) : Outcome Response := do
  if bytes.length ≠ 32 then .err
  else
    let magic ← slice bytes 0 8
    if magic ≠ resultMagic.1 then .err
    else
      let version ← slice bytes 8 10
      if version ≠ be16 1 then .err
      else
        let size ← slice bytes 10 12
        if size ≠ be16 32 then .err
        else
          let nonce ← tryInto 16 (← slice bytes 12 28)
          let result ← Outcome.ofOption (ProofResult.ofByte (← index bytes 28))
          let cause ← index bytes 29
          let count ← tryInto 2 (← slice bytes 30 32)
          .ok ⟨nonce, result, cause, (UInt16.ofNat (fromBigEndian count.1)).toUInt32⟩

/-- The bytes of a response with this count. -/
def packet (response : Response) (count : UInt16) : Bytes :=
  resultMagic.1 ++ (be16 1 ++ (be16 32 ++ (response.nonce.1 ++
    ([response.result.toByte] ++ ([response.cause] ++ be16 count)))))

/-- What comes back of a response. -/
def saturated (response : Response) : Response :=
  { response with count := min response.count 65535 }

theorem encode_eq (response : Response) :
    response.encode = .ok (response.packet (.ofNat (min response.count.toNat 65535))) := by
  have hmagic := resultMagic.2
  have hnonce := response.nonce.2
  generalize hcount : be16 (.ofNat (min response.count.toNat 65535)) = count
  have hlen : count.length = 2 := by rw [← hcount, length_be16]
  -- one step a field, over zeros of its length
  have h0 : copyInto (List.replicate 32 0) 0 resultMagic.1 =
      .ok (resultMagic.1 ++ List.replicate 24 0) :=
    copyInto_append [] (List.replicate 8 0) (List.replicate 24 0) rfl rfl hmagic.symm
  have h1 : copyInto (resultMagic.1 ++ List.replicate 24 0) 8 (be16 1) =
      .ok (resultMagic.1 ++ (be16 1 ++ List.replicate 22 0)) :=
    copyInto_append resultMagic.1 (List.replicate 2 0) (List.replicate 22 0) rfl hmagic rfl
  have h2 : copyInto (resultMagic.1 ++ (be16 1 ++ List.replicate 22 0)) 10 (be16 32) =
      .ok ((resultMagic.1 ++ be16 1) ++ (be16 32 ++ List.replicate 20 0)) := by
    refine copyInto_append _ (List.replicate 2 0) (List.replicate 20 0) ?_ ?_ rfl
    · rw [List.append_assoc]
      rfl
    · rw [List.length_append, hmagic, length_be16]
  have h3 : copyInto ((resultMagic.1 ++ be16 1) ++ (be16 32 ++ List.replicate 20 0)) 12
      response.nonce.1 = .ok ((resultMagic.1 ++ be16 1 ++ be16 32) ++
        (response.nonce.1 ++ List.replicate 4 0)) := by
    refine copyInto_append _ (List.replicate 16 0) (List.replicate 4 0) ?_ ?_ hnonce.symm
    · rw [List.append_assoc (resultMagic.1 ++ be16 1)]
      rfl
    · rw [List.length_append, List.length_append, hmagic, length_be16, length_be16]
  have h4 : copyInto ((resultMagic.1 ++ be16 1 ++ be16 32) ++
      (response.nonce.1 ++ List.replicate 4 0)) 28 [response.result.toByte] =
      .ok ((resultMagic.1 ++ be16 1 ++ be16 32 ++ response.nonce.1) ++
        ([response.result.toByte] ++ List.replicate 3 0)) := by
    refine copyInto_append _ (List.replicate 1 0) (List.replicate 3 0) ?_ ?_ rfl
    · rw [List.append_assoc (resultMagic.1 ++ be16 1 ++ be16 32)]
      rfl
    · rw [List.length_append, List.length_append, List.length_append, hmagic, length_be16,
        length_be16, hnonce]
  have h5 : copyInto ((resultMagic.1 ++ be16 1 ++ be16 32 ++ response.nonce.1) ++
      ([response.result.toByte] ++ List.replicate 3 0)) 29 [response.cause] =
      .ok ((resultMagic.1 ++ be16 1 ++ be16 32 ++ response.nonce.1 ++ [response.result.toByte]) ++
        ([response.cause] ++ List.replicate 2 0)) := by
    refine copyInto_append _ (List.replicate 1 0) (List.replicate 2 0) ?_ ?_ rfl
    · rw [List.append_assoc (resultMagic.1 ++ be16 1 ++ be16 32 ++ response.nonce.1)]
      rfl
    · simp only [List.length_append, hmagic, length_be16, hnonce, List.length_singleton]
  have h6 : copyInto ((resultMagic.1 ++ be16 1 ++ be16 32 ++ response.nonce.1 ++
      [response.result.toByte]) ++ ([response.cause] ++ List.replicate 2 0)) 30 count =
      .ok ((resultMagic.1 ++ be16 1 ++ be16 32 ++ response.nonce.1 ++ [response.result.toByte] ++
        [response.cause]) ++ (count ++ [])) := by
    refine copyInto_append _ (List.replicate 2 0) [] ?_ ?_ hlen.symm
    · rw [List.append_nil, List.append_assoc (resultMagic.1 ++ be16 1 ++ be16 32 ++
        response.nonce.1 ++ [response.result.toByte])]
    · simp only [List.length_append, hmagic, length_be16, hnonce, List.length_singleton]
  rw [encode, h0, Outcome.bind_ok, h1, Outcome.bind_ok, h2, Outcome.bind_ok, h3, Outcome.bind_ok,
    h4, Outcome.bind_ok, h5, Outcome.bind_ok, hcount, h6, packet, hcount]
  simp only [List.append_assoc, List.append_nil]

/-- A packet of 32 bytes, part by part. -/
theorem decode_parts (magic : Block 8) (version size : Block 2) (nonce : Block 16)
    (result cause : UInt8) (count : Block 2) :
    decode (magic.1 ++ (version.1 ++ (size.1 ++ (nonce.1 ++ (result :: cause :: count.1))))) =
      if magic = resultMagic ∧ version.1 = be16 1 ∧ size.1 = be16 32 then do
        let result ← Outcome.ofOption (ProofResult.ofByte result)
        .ok ⟨nonce, result, cause, (UInt16.ofNat (fromBigEndian count.1)).toUInt32⟩
      else .err := by
  have hmagic := magic.2
  have hversion := version.2
  have hsize := size.2
  have hnonce := nonce.2
  have hcount := count.2
  generalize hbytes : magic.1 ++ (version.1 ++ (size.1 ++ (nonce.1 ++
    (result :: cause :: count.1)))) = bytes
  have hlength : bytes.length = 32 := by
    rw [← hbytes]
    simp only [List.length_append, List.length_cons, hmagic, hversion, hsize, hnonce, hcount]
  have h0 : slice bytes 0 8 = .ok magic.1 :=
    slice_append [] _ (hbytes.symm.trans (List.nil_append _).symm) rfl (by omega)
  have h8 : slice bytes 8 10 = .ok version.1 :=
    slice_append magic.1 _ hbytes.symm hmagic (by omega)
  have h10 : slice bytes 10 12 = .ok size.1 := by
    refine slice_append (magic.1 ++ version.1) (nonce.1 ++ (result :: cause :: count.1)) ?_ ?_
      (by omega)
    · rw [← hbytes, List.append_assoc]
    · rw [List.length_append, hmagic, hversion]
  have h12 : slice bytes 12 28 = .ok nonce.1 := by
    refine slice_append (magic.1 ++ version.1 ++ size.1) (result :: cause :: count.1) ?_ ?_
      (by omega)
    · rw [← hbytes, List.append_assoc, List.append_assoc]
    · rw [List.length_append, List.length_append, hmagic, hversion, hsize]
  have h28 : index bytes 28 = .ok result := by
    refine index_append (magic.1 ++ version.1 ++ size.1 ++ nonce.1) (cause :: count.1) ?_ ?_
    · rw [← hbytes, List.append_assoc, List.append_assoc, List.append_assoc]
    · simp only [List.length_append, hmagic, hversion, hsize, hnonce]
  have h29 : index bytes 29 = .ok cause := by
    refine index_append (magic.1 ++ version.1 ++ size.1 ++ nonce.1 ++ [result]) count.1 ?_ ?_
    · rw [← hbytes]
      simp only [List.append_assoc, List.singleton_append]
    · simp only [List.length_append, hmagic, hversion, hsize, hnonce, List.length_singleton]
  have h30 : slice bytes 30 32 = .ok count.1 := by
    refine slice_append (magic.1 ++ version.1 ++ size.1 ++ nonce.1 ++ [result, cause]) [] ?_ ?_
      (by omega)
    · rw [← hbytes, List.append_nil]
      simp only [List.append_assoc, List.cons_append, List.nil_append]
    · simp only [List.length_append, hmagic, hversion, hsize, hnonce, List.length_cons,
        List.length_nil]
  rw [decode, if_neg (not_not.mpr hlength), h0, Outcome.bind_ok]
  by_cases htag : magic.1 = resultMagic.1
  case neg => rw [if_pos htag, if_neg fun h => htag (congrArg Subtype.val h.1)]
  rw [if_neg (not_not.mpr htag), h8, Outcome.bind_ok]
  by_cases hone : version.1 = be16 1
  case neg => rw [if_pos hone, if_neg fun h => hone h.2.1]
  rw [if_neg (not_not.mpr hone), h10, Outcome.bind_ok]
  by_cases hthirty : size.1 = be16 32
  case neg => rw [if_pos hthirty, if_neg fun h => hthirty h.2.2]
  rw [if_neg (not_not.mpr hthirty), h12, Outcome.bind_ok, tryInto_block, Outcome.bind_ok, h28,
    Outcome.bind_ok, if_pos ⟨Subtype.ext htag, hone, hthirty⟩]
  cases ProofResult.ofByte result with
  | none => rfl
  | some result =>
    rw [Outcome.ofOption, Outcome.bind_ok, h29, Outcome.bind_ok, h30, Outcome.bind_ok,
      tryInto_block, Outcome.bind_ok]
    rfl

theorem toUInt32_saturated (count : UInt32) :
    (UInt16.ofNat (min count.toNat 65535)).toUInt32 = min count 65535 := by
  have hlt : min count.toNat 65535 < 2 ^ 16 := by omega
  have hlimit : (65535 : UInt32).toNat = 65535 := rfl
  have hmin : (min count 65535).toNat = min count.toNat 65535 := by
    have hif : min count 65535 = if count ≤ 65535 then count else 65535 := Std.min_eq_if
    rw [hif]
    split
    · rename_i hle
      rw [UInt32.le_iff_toNat_le, hlimit] at hle
      omega
    · rename_i hgt
      rw [UInt32.le_iff_toNat_le, hlimit] at hgt
      omega
  apply UInt32.toNat_inj.mp
  rw [UInt16.toNat_toUInt32, UInt16.toNat_ofNat_of_lt' hlt, hmin]

/-- **A response comes back, its count cut to what its two bytes hold.** -/
theorem decode_encode (response : Response) :
    ∃ bytes, response.encode = .ok bytes ∧ decode bytes = .ok response.saturated := by
  refine ⟨_, encode_eq response, ?_⟩
  have hparts := decode_parts resultMagic ⟨be16 1, length_be16 1⟩ ⟨be16 32, length_be16 32⟩
    response.nonce response.result.toByte response.cause
    ⟨be16 (.ofNat (min response.count.toNat 65535)), length_be16 _⟩
  rw [if_pos ⟨rfl, rfl, rfl⟩, ProofResult.ofByte_toByte, Outcome.ofOption, Outcome.bind_ok,
    ofNat_be16, toUInt32_saturated] at hparts
  exact hparts

/-- What `decode` does with a text: an error, or a response from its own bytes. -/
theorem decode_cases (bytes : Bytes) : decode bytes = .err ∨
    ∃ response, decode bytes = .ok response ∧ response.encode = .ok bytes := by
  by_cases hlen : bytes.length = 32
  case neg =>
    rw [decode, if_pos hlen]
    exact .inl rfl
  -- the parts that `decode` takes by their positions
  obtain ⟨magic, version, size, nonce, result, cause, count, rfl⟩ : ∃ (magic : Block 8)
      (version size : Block 2) (nonce : Block 16) (result cause : UInt8) (count : Block 2),
      bytes = magic.1 ++ (version.1 ++ (size.1 ++ (nonce.1 ++ (result :: cause :: count.1)))) := by
    obtain ⟨magic, rest, rfl⟩ := exists_block 8 (by omega : 8 ≤ bytes.length)
    rw [List.length_append, magic.2] at hlen
    obtain ⟨version, rest, rfl⟩ := exists_block 2 (by omega : 2 ≤ rest.length)
    rw [List.length_append, version.2] at hlen
    obtain ⟨size, rest, rfl⟩ := exists_block 2 (by omega : 2 ≤ rest.length)
    rw [List.length_append, size.2] at hlen
    obtain ⟨nonce, rest, rfl⟩ := exists_block 16 (by omega : 16 ≤ rest.length)
    rw [List.length_append, nonce.2] at hlen
    obtain ⟨result, rest, rfl⟩ := List.exists_cons_of_length_pos (by omega : 0 < rest.length)
    rw [List.length_cons] at hlen
    obtain ⟨cause, rest, rfl⟩ := List.exists_cons_of_length_pos (by omega : 0 < rest.length)
    rw [List.length_cons] at hlen
    exact ⟨magic, version, size, nonce, result, cause, ⟨rest, by omega⟩, rfl⟩
  rw [decode_parts]
  split
  · rename_i h
    obtain ⟨rfl, hversion, hsize⟩ := h
    cases hresult : ProofResult.ofByte result with
    | none => exact .inl rfl
    | some found =>
      rw [Outcome.ofOption, Outcome.bind_ok]
      refine .inr ⟨_, rfl, ?_⟩
      have hlt := (UInt16.ofNat (fromBigEndian count.1)).toNat_lt
      have hcount : min (UInt16.ofNat (fromBigEndian count.1)).toUInt32.toNat 65535 =
          (UInt16.ofNat (fromBigEndian count.1)).toNat := by
        rw [UInt16.toNat_toUInt32]
        omega
      rw [encode_eq, packet, hcount, UInt16.ofNat_toNat, be16_ofNat, hversion, hsize,
        ProofResult.eq_toByte hresult]
      rfl
  · exact .inl rfl

theorem encode_decode {bytes : Bytes} {response : Response} (h : decode bytes = .ok response) :
    response.encode = .ok bytes := by
  obtain herr | ⟨found, hfound, hbytes⟩ := decode_cases bytes
  · rw [herr] at h
    cases h
  · rw [hfound] at h
    cases h
    exact hbytes

theorem decode_ne_panic (bytes : Bytes) : decode bytes ≠ .panic := by
  obtain herr | ⟨response, hok, -⟩ := decode_cases bytes
  · rw [herr]
    exact fun h => nomatch h
  · rw [hok]
    exact fun h => nomatch h

end Response

/-! ### The packets and what they carry -/

/-- **The codecs of the proof**: what is decoded is a valid value from its own bytes, a valid value
is decoded from them, a response comes back up to its count, a policy with canonical paths and
its two names fits, as does a request that carries it, and no bytes make a decoder panic. -/
theorem packets_canonical :
    ((∀ bytes value, ArtifactManifest.decode bytes = .ok value ↔
        bytes = value.encode ∧ value.Valid) ∧
      (∀ bytes policy, Policy.decode bytes = .ok policy ↔ bytes = policy.encode ∧ policy.Valid) ∧
      (∀ bytes request, Request.decode bytes = .ok request ↔
        request.encode = .ok bytes ∧ request.Valid) ∧
      (∀ request : Request, request.Valid →
        ∃ bytes, request.encode = .ok bytes ∧ Request.decode bytes = .ok request) ∧
      (∀ bytes response, Response.decode bytes = .ok response → response.encode = .ok bytes) ∧
      ∀ response : Response, ∃ bytes, response.encode = .ok bytes ∧
        Response.decode bytes = .ok response.saturated) ∧
    (∀ policy : Policy, policy.Bounded →
      policy.encode.length ≤ maxPolicySize ∧
      (∀ n ∈ policy.lengths, (UInt16.ofNat n).toNat = n) ∧
      ∀ request : Request, request.policy = policy.encode →
        1 ≤ request.mode ∧ request.mode ≤ 5 →
        ∃ bytes, request.encode = .ok bytes ∧ bytes.length ≤ maxPacketSize ∧
          ∀ n ∈ [request.policy.length, bytes.length], (UInt16.ofNat n).toNat = n) ∧
    ∀ bytes, ArtifactManifest.decode bytes ≠ .panic ∧ Policy.decode bytes ≠ .panic ∧
      Request.decode bytes ≠ .panic ∧ Response.decode bytes ≠ .panic := by
  refine ⟨⟨ArtifactManifest.decode_ok_iff, Policy.decode_ok_iff, Request.decode_ok_iff,
    fun request h => Request.decode_encode h, fun bytes response h => Response.encode_decode h,
    Response.decode_encode⟩, ?_, ?_⟩
  · intro policy h
    refine ⟨h.fits, h.lengths_exact, fun request hpolicy hmode => ?_⟩
    have hfits : request.policy.length ≤ maxPolicySize := by
      rw [hpolicy]
      exact h.fits
    obtain ⟨bytes, hencode, hsize, hexact⟩ := Request.encode_fits hfits hmode
    refine ⟨bytes, hencode, hsize, ?_⟩
    rw [List.forall_mem_cons, List.forall_mem_cons]
    exact ⟨UInt16.toNat_ofNat_of_lt' (hfits.trans_lt (by decide)), hexact, by simp⟩
  · exact fun bytes => ⟨ArtifactManifest.decode_ne_panic bytes, Policy.decode_ne_panic bytes,
      Request.decode_ne_panic bytes, Response.decode_ne_panic bytes⟩

/-- A file of the root directory. -/
def someFile : FileIdentity := ⟨[47, 97], 1, 1, 0, 0, 0, 0⟩

/-- A policy whose lock has a long name. -/
def longLock : Policy :=
  ⟨0, 0, someFile, someFile, someFile, List.replicate 4096 0, serviceUnit, (9291, 9292)⟩

/-- Three canonical paths alone do not make a policy fit. -/
theorem policy_of_long_names :
    (CanonicalPath longLock.binary.path ∧ CanonicalPath longLock.config.path ∧
      CanonicalPath longLock.database_root.path) ∧ maxPolicySize < longLock.encode.length := by
  have hpath : CanonicalPath someFile.path := by
    refine ⟨by decide, by decide, ?_⟩
    decide
  refine ⟨⟨hpath, hpath, hpath⟩, ?_⟩
  have hlock : longLock.admission_lock.length = 4096 := List.length_replicate
  rw [Policy.length_encode, Policy.length_body, hlock, maxPolicySize]
  omega

end GuiguBridge.PrivilegedProc
