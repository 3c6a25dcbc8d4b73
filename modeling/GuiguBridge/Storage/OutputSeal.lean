import GuiguBridge.Lib.Tiling
import GuiguBridge.Storage.OutputDelivery

/-!
# Sealing a set

What the statements of a publisher write when they succeed, and what `seal_set` accepts.

* `reserveSegment_new`, `releaseReserved_last`, `landSegment_last` — the segment that a publisher is
  at is the last row of its table;
* `Sealable` — the segments and the parts each tile the output, and each part lies in a segment;
* `sealSet_sealable` — **`seal_set` accepts nothing else**; `sealSet_accepts` — and it accepts that,
  with a row for every part.
-/

namespace GuiguBridge

open Relational Tiling

/-! ### Segments -/

section

variable {db : Db} {set_id hash name owner now : String} {index start bytes : Nat}

/-- The row of a segment that was reserved. -/
def reservedRow (set_id : String) (index start bytes : Nat) (hash name owner now : String) :
    SegmentRow :=
  { set_id := set_id, segment_index := index, byte_start := start, byte_length := bytes,
    content_hash := hash, relative_name := name, state := .reserved, reservation_owner := owner,
    revision := 0, created_at := now, updated_at := now }

/-- The store with other segments, after some bytes were reserved and some landed. -/
def Db.withSegments (db : Db) (segments : Table SegmentRow.key) (reserved landed : Int)
    (revision : Nat) : Db :=
  { db with acpOutputSegments := segments, acpOutputQuota := ⟨reserved, landed, revision⟩ }

/-- An update of the quota that takes place. -/
theorem updateQuota_take {p : QuotaRow → Bool} {f : QuotaRow → QuotaRow} {q : QuotaRow}
    (hp : p db.acpOutputQuota = true) (hf : f db.acpOutputQuota = q)
    (hq : 0 ≤ q.reserved_bytes ∧ 0 ≤ q.landed_bytes ∧ q.reserved_bytes < 2 ^ 63 ∧
      q.landed_bytes < 2 ^ 63) :
    updateQuota p f db = .ok (1, { db with acpOutputQuota := q }) := by
  subst hf
  unfold updateQuota
  rw [if_pos hp]
  exact if_pos hq

theorem reserveSegment_new (spool : OutputSpoolStore) (db : Db) (set_id : String)
    (index start bytes : Nat) (hash name owner now : String) (hasm : db.assembling set_id = true)
    (hfree : ∀ r ∈ db.acpOutputSegments.rows, r.set_id = set_id →
      r.segment_index ≠ index ∧ r.relative_name ≠ name)
    (hres : 0 ≤ db.acpOutputQuota.reserved_bytes) (hland : 0 ≤ db.acpOutputQuota.landed_bytes)
    (hroom : db.acpOutputQuota.reserved_bytes + db.acpOutputQuota.landed_bytes + bytes ≤
      spool.quota_limit) (hend : start + bytes < 2 ^ 63) :
    ∃ t : Table SegmentRow.key,
      t.rows = db.acpOutputSegments.rows ++
        [reservedRow set_id index start bytes hash name owner now] ∧
      reserveSegment spool set_id index start bytes hash name owner now db =
        (.ok (), db.withSegments t (db.acpOutputQuota.reserved_bytes + bytes)
          db.acpOutputQuota.landed_bytes (db.acpOutputQuota.revision + 1)) := by
  have hlimit := spool.quota_limit_lt
  obtain ⟨t, hinsert⟩ := Table.exists_insert
    (t := db.acpOutputSegments) (r := reservedRow set_id index start bytes hash name owner now) (by
      intro r hr hkey
      have hkey' : (r.set_id, r.segment_index) = (set_id, index) := hkey
      rw [Prod.mk.injEq] at hkey'
      exact (hfree r hr hkey'.1).1 hkey'.2)
  refine ⟨t, ((Table.insert_eq_some_iff _ _ _).mp hinsert).2, ?_⟩
  unfold reserveSegment
  apply Tx.commit_of_ok
  have hquota : updateQuota
      (fun q => decide (q.reserved_bytes + q.landed_bytes + (bytes : Int) ≤ spool.quota_limit))
      (fun q => { q with reserved_bytes := q.reserved_bytes + bytes, revision := q.revision + 1 })
      db = .ok (1, { db with acpOutputQuota :=
        ⟨db.acpOutputQuota.reserved_bytes + bytes, db.acpOutputQuota.landed_bytes,
          db.acpOutputQuota.revision + 1⟩ }) := by
    unfold updateQuota
    rw [if_pos (decide_eq_true hroom), if_pos ⟨by simp only; omega, hland, by simp only; omega,
      by simp only; omega⟩]
  have hname : (db.acpOutputSegments.rows.any fun r =>
      decide (r.set_id = set_id ∧ r.relative_name = name)) = false := by
    rw [List.any_eq_false]
    intro r hr
    rw [decide_eq_true_eq]
    rintro ⟨hset, hrel⟩
    exact (hfree r hr hset).2 hrel
  simp only [Tx.bind_ok, Tx.read_ok, Tx.require_ok, Tx.insert_ok, Tx.pure_ok]
  exact ⟨(), _, ⟨decide_eq_true (by omega), rfl⟩, 1, _, hquota, (), _, ⟨decide_eq_true rfl, rfl⟩, _, _,
    ⟨rfl, rfl⟩, (), _, ⟨hasm, rfl⟩, (), _, ⟨decide_eq_true (by omega), rfl⟩, _, _, ⟨rfl, rfl⟩,
    (), _, ⟨by simp only [hname, Bool.not_false], rfl⟩, (), _, ⟨t, hinsert, rfl⟩, trivial, rfl⟩

/-- The reservation of a row that is in no other. -/
theorem find_reservation {before : List SegmentRow}
    (hfree : ∀ r ∈ before, r.set_id = set_id → r.segment_index ≠ index) :
    (before ++ [reservedRow set_id index start bytes hash name owner now]).find?
      (isReservation set_id index owner) =
        some (reservedRow set_id index start bytes hash name owner now) := by
  have hbefore : before.find? (isReservation set_id index owner) = none := by
    rw [List.find?_eq_none]
    intro r hr hres
    obtain ⟨hset, hindex, -, -⟩ := of_decide_eq_true hres
    exact hfree r hr hset (by exact_mod_cast hindex)
  rw [List.find?_append, hbefore]
  simp [isReservation, reservedRow]

theorem releaseReserved_last {before : List SegmentRow}
    (hfree : ∀ r ∈ before, r.set_id = set_id → r.segment_index ≠ index)
    (hrows : db.acpOutputSegments.rows =
      before ++ [reservedRow set_id index start bytes hash name owner now])
    (hres : (bytes : Int) ≤ db.acpOutputQuota.reserved_bytes)
    (hland : 0 ≤ db.acpOutputQuota.landed_bytes)
    (hlt : db.acpOutputQuota.reserved_bytes < 2 ^ 63)
    (hlandlt : db.acpOutputQuota.landed_bytes < 2 ^ 63) :
    ∃ t : Table SegmentRow.key, t.rows = before ∧
      releaseReserved set_id index owner db =
        (.ok (), db.withSegments t (db.acpOutputQuota.reserved_bytes - bytes)
          db.acpOutputQuota.landed_bytes (db.acpOutputQuota.revision + 1)) := by
  refine ⟨db.acpOutputSegments.deleteWhere (isReservation set_id index owner), ?_, ?_⟩
  · show db.acpOutputSegments.rows.filter _ = _
    rw [hrows, List.filter_append]
    have hbefore : before.filter (fun r => !isReservation set_id index owner r) = before := by
      rw [List.filter_eq_self]
      intro r hr
      rw [Bool.not_eq_true', isReservation, decide_eq_false_iff_not]
      rintro ⟨hset, hindex, -, -⟩
      exact hfree r hr hset (by exact_mod_cast hindex)
    rw [hbefore]
    simp [isReservation, reservedRow]
  · unfold releaseReserved
    apply Tx.commit_of_ok
    simp only [Tx.bind_ok, Tx.read_ok, Tx.orElse_ok, Tx.require_ok, Tx.delete_ok, Tx.pure_ok]
    refine ⟨_, _, ⟨rfl, rfl⟩, reservedRow set_id index start bytes hash name owner now, _, ⟨?_, rfl⟩,
      (), _, rfl, 1, _, updateQuota_take (decide_eq_true hres) rfl ⟨?_, hland, ?_, hlandlt⟩, (), _,
      ⟨decide_eq_true rfl, rfl⟩, trivial, rfl⟩
    · rw [hrows]
      exact find_reservation hfree
    · show 0 ≤ db.acpOutputQuota.reserved_bytes - bytes
      omega
    · show db.acpOutputQuota.reserved_bytes - bytes < 2 ^ 63
      omega

theorem landSegment_last {before : List SegmentRow} (later : String)
    (hfree : ∀ r ∈ before, r.set_id = set_id → r.segment_index ≠ index)
    (hrows : db.acpOutputSegments.rows =
      before ++ [reservedRow set_id index start bytes hash name owner now])
    (hres : (bytes : Int) ≤ db.acpOutputQuota.reserved_bytes)
    (hland : 0 ≤ db.acpOutputQuota.landed_bytes)
    (hlt : db.acpOutputQuota.reserved_bytes + db.acpOutputQuota.landed_bytes < 2 ^ 63) :
    ∃ t : Table SegmentRow.key,
      t.rows = before ++
        [(reservedRow set_id index start bytes hash name owner now).land later] ∧
      landSegment set_id index owner later db =
        (.ok (), db.withSegments t (db.acpOutputQuota.reserved_bytes - bytes)
          (db.acpOutputQuota.landed_bytes + bytes) (db.acpOutputQuota.revision + 1)) := by
  refine ⟨db.acpOutputSegments.updateWhere (isReservation set_id index owner)
    (SegmentRow.land later) (SegmentRow.land_key later), ?_, ?_⟩
  · show db.acpOutputSegments.rows.map _ = _
    rw [hrows, List.map_append]
    congr 1
    · conv => rhs; rw [← List.map_id before]
      refine List.map_congr_left fun r hr => ?_
      have hnot : isReservation set_id index owner r = false := by
        rw [isReservation, decide_eq_false_iff_not]
        rintro ⟨hset, hindex, -, -⟩
        exact hfree r hr hset (by exact_mod_cast hindex)
      simp [hnot]
    · simp [isReservation, reservedRow]
  · unfold landSegment
    apply Tx.commit_of_ok
    simp only [Tx.bind_ok, Tx.read_ok, Tx.orElse_ok, Tx.require_ok, Tx.update_ok, Tx.pure_ok]
    refine ⟨_, _, ⟨rfl, rfl⟩, reservedRow set_id index start bytes hash name owner now, _, ⟨?_, rfl⟩,
      _, _, ⟨rfl, rfl⟩, 1, _, updateQuota_take (decide_eq_true hres) rfl ⟨?_, ?_, ?_, ?_⟩, (), _,
      ⟨decide_eq_true rfl, rfl⟩, trivial, rfl⟩
    · rw [hrows]
      exact find_reservation hfree
    · show 0 ≤ db.acpOutputQuota.reserved_bytes - bytes
      omega
    · show 0 ≤ db.acpOutputQuota.landed_bytes + bytes
      omega
    · show db.acpOutputQuota.reserved_bytes - bytes < 2 ^ 63
      omega
    · show db.acpOutputQuota.landed_bytes + bytes < 2 ^ 63
      omega

end

/-! ### Sealing -/

def SegmentRow.span (r : SegmentRow) : Int × Int × Int := (r.segment_index, r.byte_start, r.byte_end)

def DeliveryPart.span (p : DeliveryPart) : Int × Int × Int := (p.index, p.byte_start, p.byte_end)

/-- What a set is sealed with: its segments are landed and tile the output, and so do the parts,
each of them inside its segment. -/
structure Sealable (db : Db) (set_id : String) (total : Int) (deliveries : List DeliveryPart) :
    Prop where
  landed : ∀ r ∈ db.segmentsOf set_id [.reserved, .landed, .cleaned, .quarantined],
    r.state = .landed
  segments : Tiles 0 0 total
    ((db.segmentsOf set_id [.reserved, .landed, .cleaned, .quarantined]).map SegmentRow.span)
  parts : Tiles 0 0 total (deliveries.map DeliveryPart.span)
  inside : ∀ p ∈ deliveries, ∃ r ∈ db.segmentsOf set_id [.reserved, .landed, .cleaned, .quarantined],
    (r.segment_index : Int) = p.spool_index ∧ (r.byte_start : Int) ≤ p.byte_start ∧
      p.byte_end ≤ (r.byte_end : Int)

section

variable {set_id : String} {db : Db}

/-- Every state is one of the four. -/
theorem mem_segmentsOf_all {r : SegmentRow} :
    r ∈ db.segmentsOf set_id [.reserved, .landed, .cleaned, .quarantined] ↔
      r ∈ db.acpOutputSegments.rows ∧ r.set_id = set_id := by
  rw [mem_segmentsOf]
  constructor
  · rintro ⟨hr, hset, -⟩
    exact ⟨hr, hset⟩
  · rintro ⟨hr, hset⟩
    exact ⟨hr, hset, by cases r.state <;> simp⟩

/-- The step of `validate_segments`. -/
def segmentStep (acc : Option (Nat × Nat)) (row : SegmentRow) : Option (Nat × Nat) :=
  acc.bind fun (expected, stop) =>
    if row.segment_index = expected ∧ row.byte_start = stop ∧ row.state = .landed then
      some (expected + 1, row.byte_end)
    else none

theorem foldl_segmentStep_none (rows : List SegmentRow) : rows.foldl segmentStep none = none := by
  induction rows with
  | nil => rfl
  | cons row rest ih => exact ih

/-- The loop gets to its end when the rows tile, and that is where they stop. -/
theorem foldl_segmentStep (rows : List SegmentRow) (expected start : Nat) (total : Int) :
    (∃ n stop, rows.foldl segmentStep (some (expected, start)) = some (n, stop) ∧
      (stop : Int) = total) ↔
      Tiles expected start total (rows.map SegmentRow.span) ∧ ∀ r ∈ rows, r.state = .landed := by
  induction rows generalizing expected start with
  | nil =>
    constructor
    · rintro ⟨n, stop, hsome, htotal⟩
      cases hsome
      exact ⟨htotal, nofun⟩
    · rintro ⟨htotal, -⟩
      exact ⟨expected, start, rfl, htotal⟩
  | cons row rest ih =>
    rw [List.foldl_cons, List.map_cons, List.forall_mem_cons]
    by_cases hrow : row.segment_index = expected ∧ row.byte_start = start ∧ row.state = .landed
    · have hstep : segmentStep (some (expected, start)) row = some (expected + 1, row.byte_end) :=
        if_pos hrow
      rw [hstep, ih]
      obtain ⟨hindex, hstart, hlanded⟩ := hrow
      have hle : (row.byte_start : Int) ≤ row.byte_end := by
        unfold SegmentRow.byte_end
        omega
      constructor
      · rintro ⟨htiles, hall⟩
        exact ⟨⟨congrArg Nat.cast hindex, congrArg Nat.cast hstart, hle, by exact_mod_cast htiles⟩,
          hlanded, hall⟩
      · rintro ⟨⟨-, -, -, htiles⟩, -, hall⟩
        exact ⟨by exact_mod_cast htiles, hall⟩
    · have hstep : segmentStep (some (expected, start)) row = none := if_neg hrow
      rw [hstep, foldl_segmentStep_none]
      constructor
      · rintro ⟨_, _, hnone, -⟩
        cases hnone
      · rintro ⟨⟨hindex, hstart, -, -⟩, hlanded, -⟩
        exact absurd ⟨Int.ofNat_inj.mp hindex, Int.ofNat_inj.mp hstart, hlanded⟩ hrow

/-- **`validate_segments` accepts landed segments that tile the output**, and no others. -/
theorem validateSegments_iff (rows : List SegmentRow) (total : Int) :
    validateSegments rows total = true ↔
      Tiles 0 0 total (rows.map SegmentRow.span) ∧ ∀ r ∈ rows, r.state = .landed := by
  have hfold := foldl_segmentStep rows 0 0 total
  rw [show ((0 : Nat) : Int) = 0 from rfl] at hfold
  rw [← hfold]
  unfold validateSegments
  simp only
  split
  · rename_i n stop hrows
    have hrows : rows.foldl segmentStep (some (0, 0)) = some (n, stop) := hrows
    simp [hrows]
  · rename_i hrows
    have hrows : rows.foldl segmentStep (some (0, 0)) = none := hrows
    simp [hrows]

/-- A segment that a part lies in. -/
def SegmentRow.covers (set_id : String) (p : DeliveryPart) (r : SegmentRow) : Bool :=
  decide (r.set_id = set_id ∧ (r.segment_index : Int) = p.spool_index ∧
    (r.byte_start : Int) ≤ p.byte_start ∧ p.byte_end ≤ (r.byte_end : Int))

theorem covers_key {p : DeliveryPart} (r : SegmentRow) (h : r.covers set_id p = true) :
    r.key = (set_id, p.spool_index.toNat) := by
  obtain ⟨hset, hindex, -⟩ := of_decide_eq_true h
  unfold SegmentRow.key
  rw [hset, ← hindex, Int.toNat_natCast]

/-- The loop over the parts accepts nothing but ranges that follow one another, each inside a
segment. -/
theorem sealDeliveries_tiles (parts : List DeliveryPart) {expected : Nat} {stop last : Int}
    {s s' : Db} (h : sealDeliveries set_id expected stop parts s = .ok (last, s')) :
    Tiles expected stop last (parts.map DeliveryPart.span) ∧
      ∀ p ∈ parts, ∃ r ∈ s.acpOutputSegments.rows, r.covers set_id p = true := by
  induction parts generalizing expected stop s with
  | nil =>
    obtain ⟨hlast, -⟩ := Tx.pure_ok.1 h
    exact ⟨hlast, nofun⟩
  | cons part rest ih =>
    simp only [sealDeliveries, Tx.bind_ok, Tx.require_ok, Tx.read_ok, Tx.insert_ok] at h
    obtain ⟨_, _, ⟨hpart, rfl⟩, _, _, ⟨hcovered, rfl⟩, _, _, ⟨hone, rfl⟩, _, _, ⟨-, rfl⟩, _, _,
      ⟨-, rfl⟩, _, _, ⟨t, -, rfl⟩, hrest⟩ := h
    obtain ⟨hindex, hstart, hle⟩ := of_decide_eq_true hpart
    have haffected : s.acpOutputSegments.affected (SegmentRow.covers set_id part) = 1 :=
      hcovered.trans (of_decide_eq_true hone)
    obtain ⟨r, hget, hr⟩ := (Table.affected_eq_one_iff covers_key).mp haffected
    obtain ⟨htiles, hall⟩ := ih hrest
    refine ⟨⟨hindex, hstart, hle, by exact_mod_cast htiles⟩, ?_⟩
    rw [List.forall_mem_cons]
    exact ⟨⟨r, Table.mem_of_get hget, hr⟩, hall⟩

/-- **`seal_set` accepts nothing else**: what it seals is `Sealable`. -/
theorem sealSet_sealable {total count : Int} {total_hash now : String} {parts : List DeliveryPart}
    {db' : Db} (h : sealSet set_id total total_hash count parts now db = (.ok (), db')) :
    Sealable db set_id total parts ∧ count = parts.length := by
  obtain hok | ⟨-, _, -, hbad⟩ := Tx.commit_cases h
  · simp only [Tx.bind_ok, Tx.read_ok, Tx.update_ok, Tx.require_ok, Tx.pure_ok] at hok
    obtain ⟨_, _, ⟨hcount, rfl⟩, rows, _, ⟨hrows, rfl⟩, _, _, ⟨hvalid, rfl⟩, last, s₁, hseal, _, _,
      ⟨hlast, -⟩, -⟩ := hok
    subst hrows
    obtain ⟨hsegments, hlanded⟩ := (validateSegments_iff _ _).mp hvalid
    obtain ⟨hparts, hinside⟩ := sealDeliveries_tiles parts hseal
    have hlast := of_decide_eq_true hlast
    subst hlast
    refine ⟨⟨hlanded, hsegments, hparts, ?_⟩, of_decide_eq_true hcount⟩
    intro p hp
    obtain ⟨r, hr, hcovers⟩ := hinside p hp
    obtain ⟨hset, hrest⟩ := of_decide_eq_true hcovers
    exact ⟨r, mem_segmentsOf_all.2 ⟨hr, hset⟩, hrest⟩
  · cases hbad

/-- The row of a part. -/
def DeliveryPart.row (set_id : String) (p : DeliveryPart) : DeliverySegmentRow :=
  { set_id := set_id, delivery_index := p.index, spool_index := p.spool_index,
    byte_start := p.byte_start, byte_end := p.byte_end, content_hash := p.content_hash,
    stable_txn_id := p.stable_txn_id }

/-- The loop over the parts gets to its end when the parts tile, each lies in a segment, and keys and
transaction ids are free. -/
theorem sealDeliveries_accepts (parts : List DeliveryPart) {expected : Nat} {stop last : Int}
    {s : Db} (htiles : Tiles expected stop last (parts.map DeliveryPart.span))
    (hinside : ∀ p ∈ parts, ∃ r ∈ s.acpOutputSegments.rows, r.covers set_id p = true)
    (hids : (parts.map DeliveryPart.stable_txn_id).Nodup)
    (hfresh : ∀ d ∈ s.acpOutputDeliverySegments.rows, ∀ p ∈ parts,
      d.stable_txn_id ≠ p.stable_txn_id)
    (hkeys : ∀ d ∈ s.acpOutputDeliverySegments.rows, d.set_id = set_id →
      d.delivery_index < expected) :
    ∃ t : Table DeliverySegmentRow.key,
      t.rows = s.acpOutputDeliverySegments.rows ++ parts.map (DeliveryPart.row set_id) ∧
      sealDeliveries set_id expected stop parts s =
        .ok (last, { s with acpOutputDeliverySegments := t }) := by
  induction parts generalizing expected stop s with
  | nil =>
    cases htiles
    exact ⟨s.acpOutputDeliverySegments, (List.append_nil _).symm, rfl⟩
  | cons part rest ih =>
    obtain ⟨hindex, hstart, hle, hrest⟩ := htiles
    rw [List.forall_mem_cons] at hinside
    rw [List.map_cons, List.nodup_cons] at hids
    obtain ⟨⟨r, hr, hcovers⟩, hinside⟩ := hinside
    have hcovered : s.acpOutputSegments.affected (SegmentRow.covers set_id part) = 1 := by
      rw [Table.affected_eq_one_iff covers_key]
      refine ⟨r, ?_, hcovers⟩
      rw [← covers_key r hcovers]
      exact Table.get_of_mem hr
    have htaken : (s.acpOutputDeliverySegments.rows.any fun d =>
        decide (d.stable_txn_id = part.stable_txn_id)) = false := by
      rw [List.any_eq_false]
      intro d hd
      rw [decide_eq_true_eq]
      exact hfresh d hd part List.mem_cons_self
    obtain ⟨t, hinsert⟩ := Table.exists_insert (t := s.acpOutputDeliverySegments)
      (r := part.row set_id) (by
        intro d hd hkey
        have hkey' : (d.set_id, d.delivery_index) = (set_id, part.index) := hkey
        rw [Prod.mk.injEq] at hkey'
        have hlt := hkeys d hd hkey'.1
        have hsame : part.index = (expected : Int) := hindex
        omega)
    have hrows := ((Table.insert_eq_some_iff _ _ _).mp hinsert).2
    have hrest' : Tiles ((expected + 1 : Nat) : Int) part.byte_end last
        (rest.map DeliveryPart.span) := by
      exact_mod_cast hrest
    obtain ⟨u, hu, hseal⟩ := ih (s := { s with acpOutputDeliverySegments := t }) hrest' hinside hids.2
      (by
        intro d hd p hp
        have hd' : d ∈ s.acpOutputDeliverySegments.rows ++ [part.row set_id] := hrows ▸ hd
        cases List.mem_append.mp hd' with
        | inl hold => exact hfresh d hold p (List.mem_cons_of_mem _ hp)
        | inr hnew =>
          rw [List.mem_singleton.mp hnew]
          intro heq
          have hmem := List.mem_map_of_mem (f := DeliveryPart.stable_txn_id) hp
          rw [← heq] at hmem
          exact hids.1 hmem)
      (by
        intro d hd hset
        have hd' : d ∈ s.acpOutputDeliverySegments.rows ++ [part.row set_id] := hrows ▸ hd
        cases List.mem_append.mp hd' with
        | inl hold =>
          have := hkeys d hold hset
          push_cast
          omega
        | inr hnew =>
          rw [List.mem_singleton.mp hnew]
          have hsame : part.index = (expected : Int) := hindex
          show part.index < ((expected + 1 : Nat) : Int)
          omega)
    refine ⟨u, ?_, ?_⟩
    · rw [hu]
      show t.rows ++ _ = _
      rw [hrows, List.append_assoc]
      rfl
    · simp only [sealDeliveries, Tx.bind_ok, Tx.require_ok, Tx.read_ok, Tx.insert_ok]
      exact ⟨(), _, ⟨decide_eq_true ⟨hindex, hstart, hle⟩, rfl⟩, _, _, ⟨rfl, rfl⟩, (), _,
        ⟨decide_eq_true hcovered, rfl⟩, _, _, ⟨rfl, rfl⟩, (), _,
        ⟨by simp only [htaken, Bool.not_false], rfl⟩, (), _, ⟨t, hinsert, rfl⟩, hseal⟩

/-- The row of a set that was sealed. -/
def OutputSetRow.sealed (total_bytes : Int) (total_hash : String) (count : Int) (now : String)
    (s : OutputSetRow) : OutputSetRow :=
  { s with state := .prepared, total_bytes := some total_bytes.toNat,
           total_hash := some total_hash, segment_count := some count.toNat, updated_at := now }

/-- **`seal_set` accepts what is `Sealable`**, and writes a row for every part. -/
theorem sealSet_accepts {total : Int} (total_hash now : String) {parts : List DeliveryPart}
    {row : OutputSetRow} (h : Sealable db set_id total parts)
    (hrow : db.acpOutputSets.get set_id = some row) (hstate : row.state = .assembling)
    (hids : (parts.map DeliveryPart.stable_txn_id).Nodup)
    (hfresh : ∀ d ∈ db.acpOutputDeliverySegments.rows, ∀ p ∈ parts,
      d.stable_txn_id ≠ p.stable_txn_id)
    (hfree : ∀ d ∈ db.acpOutputDeliverySegments.rows, d.set_id ≠ set_id) :
    ∃ (t : Table DeliverySegmentRow.key) (sets : Table OutputSetRow.set_id),
      t.rows = db.acpOutputDeliverySegments.rows ++ parts.map (DeliveryPart.row set_id) ∧
      sets.get set_id = some (row.sealed total total_hash parts.length now) ∧
      sealSet set_id total total_hash parts.length parts now db =
        (.ok (), { db with acpOutputDeliverySegments := t, acpOutputSets := sets }) := by
  let p : OutputSetRow → Bool := fun s => decide (s.set_id = set_id ∧ s.state = .assembling)
  have hkey (s : OutputSetRow) (hs : p s = true) : s.set_id = set_id := (of_decide_eq_true hs).1
  have hpick : p row = true := decide_eq_true ⟨Table.key_of_get hrow, hstate⟩
  have htiles : Tiles ((0 : Nat) : Int) 0 total (parts.map DeliveryPart.span) := h.parts
  obtain ⟨t, ht, hseal⟩ := sealDeliveries_accepts (s := db) parts htiles (by
      intro p hp
      obtain ⟨r, hr, hrest⟩ := h.inside p hp
      obtain ⟨hmem, hset⟩ := mem_segmentsOf_all.1 hr
      exact ⟨r, hmem, decide_eq_true ⟨hset, hrest⟩⟩)
    hids hfresh (fun d hd hset => absurd hset (hfree d hd))
  have hputs : db.acpOutputSets.Puts set_id (row.sealed total total_hash parts.length now)
      (db.acpOutputSets.updateWhere p (OutputSetRow.sealed total total_hash parts.length now)
        fun _ => rfl) := Table.puts_updateWhere hkey hrow hpick
  have hone : db.acpOutputSets.affected p = 1 :=
    (Table.affected_eq_one_iff hkey).mpr ⟨row, hrow, hpick⟩
  refine ⟨t, _, ht, (hputs set_id).trans (if_pos rfl), ?_⟩
  unfold sealSet
  apply Tx.commit_of_ok
  simp only [Tx.bind_ok, Tx.read_ok, Tx.update_ok, Tx.require_ok, Tx.pure_ok]
  exact ⟨(), _, ⟨decide_eq_true trivial, rfl⟩, _, _, ⟨rfl, rfl⟩, (), _,
    ⟨(validateSegments_iff _ _).mpr ⟨h.segments, h.landed⟩, rfl⟩, total, _, hseal, (), _,
    ⟨decide_eq_true rfl, rfl⟩, 1, _, ⟨hone, rfl⟩, (), _, ⟨decide_eq_true rfl, rfl⟩, trivial, rfl⟩

end

end GuiguBridge
