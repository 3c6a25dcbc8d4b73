import GuiguBridge.Acp.OutputFiles
import GuiguBridge.Lib.ByteCodec
import GuiguBridge.Lib.Utf8

/-!
# Cutting an output

An output is cut into segments for the disk, and each of them into parts for the room, always
between two characters (`src/src/acp/output_policy.rs`, `utf8_ranges` of
`src/src/acp/output_files.rs`).

* `DurableOutputPolicy.derive` — the limits, from the limit of a turn; a derived policy is
  `Derived`;
* `utf8Ranges` — the cut; `utf8Ranges_encode` — **an output whose characters fit is cut into pieces
  that fit, and nothing is lost**;
* `segmentParts` — the parts of a segment.
-/

namespace GuiguBridge

open Relational Utf8

/-! ### The policy -/

def memoryHighWater : Nat := 1048576
def spoolSegment : Nat := 262144
def matrixSegment : Nat := 24576
def processQuota : Nat := 268435456
def deliveryAttempts : Nat := 8
def staleClaim : Duration := 300 * 10 ^ 9
def matrixSendTimeout : Duration := 30 * 10 ^ 9

/-- The limits; where the spool is, no function here asks. -/
structure DurableOutputPolicy where
  max_output_bytes : Nat
  memory_high_water_bytes : Nat
  spool_segment_bytes : Nat
  matrix_segment_bytes : Nat
  process_quota_bytes : Nat
  delivery_attempt_limit : Nat
  stale_claim_after : Duration
  matrix_send_timeout : Duration
  deriving DecidableEq

namespace DurableOutputPolicy

/-- `validate`. -/
def validate (policy : DurableOutputPolicy) : Bool :=
  decide (0 < policy.max_output_bytes ∧ 0 < policy.memory_high_water_bytes ∧
    0 < policy.spool_segment_bytes ∧ 0 < policy.matrix_segment_bytes ∧
    policy.memory_high_water_bytes ≤ policy.max_output_bytes ∧
    policy.spool_segment_bytes ≤ policy.max_output_bytes ∧
    policy.matrix_segment_bytes ≤ policy.spool_segment_bytes ∧
    policy.max_output_bytes ≤ policy.process_quota_bytes ∧
    0 < policy.delivery_attempt_limit ∧ policy.matrix_send_timeout ≠ 0)

/-- The limits for a turn. -/
def ofTurn (turn_max : Nat) : DurableOutputPolicy :=
  { max_output_bytes := turn_max, memory_high_water_bytes := min memoryHighWater turn_max,
    spool_segment_bytes := min spoolSegment turn_max,
    matrix_segment_bytes := min matrixSegment turn_max, process_quota_bytes := processQuota,
    delivery_attempt_limit := deliveryAttempts, stale_claim_after := staleClaim,
    matrix_send_timeout := matrixSendTimeout }

/-- `derive`, in a directory that there is. -/
def derive (turn_max : Nat) : Option DurableOutputPolicy :=
  if (ofTurn turn_max).validate then some (ofTurn turn_max) else none

/-- How the limits of a derived policy relate to the limit of a turn. -/
structure Derived (policy : DurableOutputPolicy) : Prop where
  max_pos : 0 < policy.max_output_bytes
  spool : policy.spool_segment_bytes = min spoolSegment policy.max_output_bytes
  matrix : policy.matrix_segment_bytes = min matrixSegment policy.max_output_bytes
  quota : policy.max_output_bytes ≤ policy.process_quota_bytes
  process : policy.process_quota_bytes = processQuota
  attempts : policy.delivery_attempt_limit = deliveryAttempts

theorem derived {turn_max : Nat} {policy : DurableOutputPolicy}
    (h : derive turn_max = some policy) : Derived policy ∧ policy.max_output_bytes = turn_max := by
  unfold derive at h
  simp only [Option.ite_none_right_eq_some, Option.some.injEq] at h
  obtain ⟨hvalid, rfl⟩ := h
  unfold validate at hvalid
  obtain ⟨hpos, -, -, -, -, -, -, hquota, -, -⟩ := of_decide_eq_true hvalid
  exact ⟨⟨hpos, rfl, rfl, hquota, rfl, rfl⟩, rfl⟩

/-- **A turn has a policy when its limit is positive and no more than the quota.** -/
theorem derive_isSome_iff (turn_max : Nat) :
    (derive turn_max).isSome = true ↔ 0 < turn_max ∧ turn_max ≤ processQuota := by
  have hsome : (derive turn_max).isSome = true ↔ (ofTurn turn_max).validate = true := by
    unfold derive
    cases (ofTurn turn_max).validate with
    | false => exact Iff.rfl
    | true => exact Iff.rfl
  have h1 : 0 < memoryHighWater := by decide
  have h2 : 0 < spoolSegment := by decide
  have h3 : 0 < matrixSegment := by decide
  have h4 : matrixSegment ≤ spoolSegment := by decide
  have h5 : 0 < deliveryAttempts := by decide
  have h6 : matrixSendTimeout ≠ 0 := by decide
  rw [hsome]
  unfold validate ofTurn
  rw [decide_eq_true_iff]
  constructor
  · rintro ⟨hpos, -, -, -, -, -, -, hquota, -⟩
    exact ⟨hpos, hquota⟩
  · rintro ⟨hpos, hquota⟩
    refine ⟨hpos, ?_, ?_, ?_, ?_, ?_, ?_, hquota, h5, h6⟩
    all_goals
      simp only
      omega

/-- A character of a text that a turn may have fits into every segment. -/
theorem Derived.fits {policy : DurableOutputPolicy} (h : Derived policy) {size : Nat}
    (hfour : size ≤ 4) (hmax : size ≤ policy.max_output_bytes) :
    size ≤ policy.spool_segment_bytes ∧ size ≤ policy.matrix_segment_bytes := by
  have h2 : 4 ≤ spoolSegment := by decide
  have h3 : 4 ≤ matrixSegment := by decide
  rw [h.spool, h.matrix]
  omega

end DurableOutputPolicy

/-! ### Ranges -/

/-- The loop of `utf8_ranges`. -/
def utf8RangesFrom (bytes : Bytes) (max start : Nat) :
    Except OutputSpoolError (List (Nat × Nat)) :=
  if _hstart : start < bytes.length then
    let stop := backTo bytes start (min (start + max) bytes.length)
    if _hstop : stop = start then .error .identity
    else (utf8RangesFrom bytes max stop).map fun ranges => (start, stop) :: ranges
  else .ok []
termination_by bytes.length - start
decreasing_by
  have hle : start ≤ min (start + max) bytes.length := by omega
  have := le_backTo bytes hle
  show bytes.length - backTo bytes start (min (start + max) bytes.length) < bytes.length - start
  have : backTo bytes start (min (start + max) bytes.length) ≠ start := _hstop
  omega

/-- `utf8_ranges`. -/
def utf8Ranges (bytes : Bytes) (max : Nat) : Except OutputSpoolError (List (Nat × Nat)) :=
  match fromUtf8 bytes with
  | none => .error .identity
  | some _ => if bytes = [] then .ok [(0, 0)] else utf8RangesFrom bytes max 0

/-- The rest of a text, cut into pieces that fit. -/
theorem utf8RangesFrom_encode {max : Nat} (pre suf : List Char)
    (hfits : ∀ c ∈ suf, c.utf8Size ≤ max) :
    ∃ pieces, pieces.flatten = suf ∧
      utf8RangesFrom (encode (pre ++ suf)) max (encode pre).length =
        .ok (offsets (encode pre).length pieces) ∧
      ∀ piece ∈ pieces, piece ≠ [] ∧ (encode piece).length ≤ max := by
  induction hn : suf.length using Nat.strongRecOn generalizing pre suf with
  | ind n ih =>
    cases suf with
    | nil =>
      refine ⟨[], rfl, ?_, nofun⟩
      unfold utf8RangesFrom
      rw [List.append_nil, dif_neg (Nat.lt_irrefl _)]
      rfl
    | cons c tail =>
      have hlen : (encode (pre ++ c :: tail)).length =
          (encode pre).length + (c.utf8Size + (encode tail).length) := by
        rw [encode_append, encode_cons, List.length_append, List.length_append,
          String.length_utf8EncodeChar]
      have hsize := c.utf8Size_pos
      have hmax := hfits c List.mem_cons_self
      obtain ⟨piece, rest, hsplit, hback, hle, hsome⟩ := backTo_split pre (c :: tail)
        (n := min ((encode pre).length + max) (encode (pre ++ c :: tail)).length) (by omega)
      have hne : piece ≠ [] := hsome c tail rfl (by omega)
      have hpos : (encode piece).length ≠ 0 := by
        intro hzero
        exact hne (encode_eq_nil.1 (List.length_eq_zero_iff.mp hzero))
      have hshorter : rest.length < n := by
        rw [← hn, hsplit, List.length_append]
        have := List.length_pos_iff.mpr hne
        omega
      have hrest : ∀ c ∈ rest, c.utf8Size ≤ max := by
        intro d hd
        exact hfits d (hsplit ▸ List.mem_append_right _ hd)
      obtain ⟨pieces, hflat, hranges, hall⟩ := ih rest.length hshorter (pre ++ piece) rest hrest rfl
      refine ⟨piece :: pieces, ?_, ?_, ?_⟩
      · rw [List.flatten_cons, hflat, hsplit]
      · unfold utf8RangesFrom
        have hstart : (encode pre).length < (encode (pre ++ c :: tail)).length := by omega
        rw [dif_pos hstart]
        simp only [hback]
        rw [dif_neg (by omega)]
        have hboth : (encode (pre ++ piece)).length =
            (encode pre).length + (encode piece).length := by
          rw [encode_append, List.length_append]
        rw [List.append_assoc, ← hsplit, hboth] at hranges
        rw [hranges]
        rfl
      · intro p hp
        cases List.mem_cons.mp hp with
        | inl h =>
          subst h
          exact ⟨hne, by omega⟩
        | inr h => exact hall p h

/-- **A text whose characters fit is cut into pieces that fit.**  The text without characters has
one piece, which is empty. -/
theorem utf8Ranges_encode {max : Nat} (cs : List Char) (hfits : ∀ c ∈ cs, c.utf8Size ≤ max) :
    ∃ pieces, pieces.flatten = cs ∧ pieces ≠ [] ∧
      utf8Ranges (encode cs) max = .ok (offsets 0 pieces) ∧
      ∀ piece ∈ pieces, (cs ≠ [] → piece ≠ []) ∧ (encode piece).length ≤ max := by
  unfold utf8Ranges fromUtf8
  rw [fromUTF8_encode]
  cases cs with
  | nil => exact ⟨[[]], rfl, by simp, rfl, by simp⟩
  | cons c cs =>
    obtain ⟨pieces, hflat, hranges, hall⟩ := utf8RangesFrom_encode [] (c :: cs) hfits
    have hne : encode (c :: cs) ≠ [] := by
      rw [Ne, encode_eq_nil]
      exact List.cons_ne_nil _ _
    refine ⟨pieces, hflat, ?_, ?_, ?_⟩
    · rintro rfl
      cases hflat
    · simp only [if_neg hne]
      exact hranges
    · intro piece hpiece
      exact ⟨fun _ => (hall piece hpiece).1, (hall piece hpiece).2⟩

/-! ### Parts -/

section

variable [HashCrates]

/-- `stable_txn`. -/
def stableTxn (set : String) (index : Nat) (content_hash : String) : String :=
  "t051-" ++ hash (utf8 "guigu-acp-output-v1\x00" ++ utf8 set ++ ByteCodec.bigEndian 8 index ++
    utf8 content_hash)

/-- The part of a segment's content at a range. -/
def partAt (set_id : String) (spool_index start : Nat) (content : Bytes) (index : Nat)
    (range : Nat × Nat) : DeliveryPart :=
  let content_hash := hash (slice content range.1 range.2)
  { index := index, spool_index := spool_index, byte_start := (start + range.1 : Nat),
    byte_end := (start + range.2 : Nat), content_hash := content_hash,
    stable_txn_id := stableTxn set_id index content_hash }

/-- The loop over the ranges of one segment, which `delivery_parts` and `add_deliveries` share. -/
def segmentParts (set_id : String) (max spool_index start : Nat) (content : Bytes)
    (parts : List DeliveryPart) : Except OutputSpoolError (List DeliveryPart) :=
  (utf8Ranges content max).map fun ranges =>
    ranges.foldl (fun parts range =>
      parts ++ [partAt set_id spool_index start content parts.length range]) parts

end

end GuiguBridge
