import GuiguBridge.Storage.OutputSpool

/-!
# The output quota

The quota row counts the bytes that are reserved and the bytes that landed, and every
operation of the spool moves the counters by hand.  The truth is in the segments.

* `Db.reservedTotal`, `Db.landedTotal` — what the segments say;
* `QuotaStep` — **an operation moves each counter by as much as its segments**, and lets the
  sum grow up to the limit only;
* `spoolStep_answer` — every operation is a `QuotaStep`;
* `output_quota` — the counters are right in every state of every run.
-/

namespace GuiguBridge

open Relational

/-- What a segment adds to the reserved bytes. -/
def SegmentRow.reservedBytes (r : SegmentRow) : Nat :=
  if r.state = .reserved then r.byte_length else 0

/-- What a segment adds to the landed bytes; a quarantined file still takes its space. -/
def SegmentRow.landedBytes (r : SegmentRow) : Nat :=
  if r.state = .landed ∨ r.state = .quarantined then r.byte_length else 0

def Db.reservedTotal (db : Db) : Nat := db.acpOutputSegments.total SegmentRow.reservedBytes

def Db.landedTotal (db : Db) : Nat := db.acpOutputSegments.total SegmentRow.landedBytes

/-- One operation against the counters: each moves as its segments do. -/
structure QuotaStep (spool : OutputSpoolStore) (db db' : Db) : Prop where
  reserved : db'.acpOutputQuota.reserved_bytes - db'.reservedTotal =
    db.acpOutputQuota.reserved_bytes - db.reservedTotal
  landed : db'.acpOutputQuota.landed_bytes - db'.landedTotal =
    db.acpOutputQuota.landed_bytes - db.landedTotal
  bounded : db'.acpOutputQuota.reserved_bytes + db'.acpOutputQuota.landed_bytes ≤
      db.acpOutputQuota.reserved_bytes + db.acpOutputQuota.landed_bytes ∨
    db'.acpOutputQuota.reserved_bytes + db'.acpOutputQuota.landed_bytes ≤ spool.quota_limit

/-- An operation that touches neither the segments nor the counters. -/
def Untouched (db db' : Db) : Prop :=
  db'.acpOutputSegments = db.acpOutputSegments ∧ db'.acpOutputQuota = db.acpOutputQuota

theorem Untouched.quotaStep {spool : OutputSpoolStore} {db db' : Db} (h : Untouched db db') :
    QuotaStep spool db db' := by
  obtain ⟨hsegments, hquota⟩ := h
  refine ⟨?_, ?_, Or.inl ?_⟩
  · rw [hquota, Db.reservedTotal, Db.reservedTotal, hsegments]
  · rw [hquota, Db.landedTotal, Db.landedTotal, hsegments]
  · rw [hquota]

/-- An operation that answers an error touched nothing; one that answers otherwise is a
quota step. -/
def SpoolAnswer {α : Type} (spool : OutputSpoolStore) (db db' : Db)
    (r : Except OutputStoreError α) : Prop :=
  Untouched db db' ∨ ((∃ a, r = .ok a) ∧ QuotaStep spool db db')

theorem updateQuota_ok {p : QuotaRow → Bool} {f : QuotaRow → QuotaRow} {s s' : Db} {n : Nat}
    (h : updateQuota p f s = .ok (n, s')) :
    (n = 1 ∧ p s.acpOutputQuota = true ∧ s' = { s with acpOutputQuota := f s.acpOutputQuota }) ∨
      (n = 0 ∧ s' = s) := by
  unfold updateQuota at h
  cases hp : p s.acpOutputQuota with
  | false =>
    simp only [hp, Bool.false_eq_true, if_false, Except.ok.injEq, Prod.mk.injEq] at h
    exact Or.inr ⟨h.1.symm, h.2.symm⟩
  | true =>
    simp only [hp, if_true] at h
    split at h
    · simp only [Except.ok.injEq, Prod.mk.injEq] at h
      exact Or.inl ⟨h.1.symm, rfl, h.2.symm⟩
    · cases h

/-- A quota update that reported its row. -/
theorem updateQuota_one {p : QuotaRow → Bool} {f : QuotaRow → QuotaRow} {s s' : Db} {n : Nat}
    (h : updateQuota p f s = .ok (n, s')) (hn : n = 1) :
    p s.acpOutputQuota = true ∧ s' = { s with acpOutputQuota := f s.acpOutputQuota } := by
  rcases updateQuota_ok h with ⟨-, hp, hs⟩ | ⟨hzero, -⟩
  · exact ⟨hp, hs⟩
  · omega

/-! ### Operations on sets only -/

section

variable [Externals]

theorem prepareTask_untouched {seen late : Db} {task_id : TaskId} {now : String} {db db' : Db}
    {r : Except OutputStoreError (Option String)}
    (h : prepareTask seen late task_id now db = (r, db')) : Untouched db db' := by
  unfold prepareTask at h
  split at h
  · cases h
    exact ⟨rfl, rfl⟩
  · split at h
    · cases h
      exact ⟨rfl, rfl⟩
    · simp only at h
      split at h
      · cases h
        exact ⟨rfl, rfl⟩
      · split at h
        · cases h
          exact ⟨rfl, rfl⟩
        · split at h
          · cases h
            exact ⟨rfl, rfl⟩
          · cases h
            exact ⟨rfl, rfl⟩

end

theorem abandon_untouched {set_id now : String} {db db' : Db}
    {r : Except OutputStoreError (List OutputSegment)} (h : abandon set_id now db = (r, db')) :
    Untouched db db' := by
  rcases Tx.commit_cases h with hok | ⟨rfl, -⟩
  · simp only [Tx.bind_ok, Tx.read_ok, Tx.orElse_ok, Tx.update_ok, Tx.require_ok,
      Tx.pure_ok] at hok
    obtain ⟨_, _, ⟨-, rfl⟩, _, _, ⟨-, rfl⟩, _, _, ⟨-, rfl⟩, _, _, ⟨-, rfl⟩, _, _, ⟨-, rfl⟩, -,
      rfl⟩ := hok
    exact ⟨rfl, rfl⟩
  · exact ⟨rfl, rfl⟩

theorem sealDeliveries_ok {set_id : String} (deliveries : List DeliveryPart) :
    ∀ {expected : Nat} {stop : Int} {s s' : Db} {v : Int},
      sealDeliveries set_id expected stop deliveries s = .ok (v, s') → Untouched s s' := by
  induction deliveries with
  | nil =>
    intro expected stop s s' v h
    obtain ⟨-, rfl⟩ := Tx.pure_ok.1 h
    exact ⟨rfl, rfl⟩
  | cons part rest ih =>
    intro expected stop s s' v h
    simp only [sealDeliveries, Tx.bind_ok, Tx.require_ok, Tx.read_ok, Tx.insert_ok] at h
    obtain ⟨_, _, ⟨-, rfl⟩, _, _, ⟨-, rfl⟩, _, _, ⟨-, rfl⟩, _, _, ⟨-, rfl⟩, _, _, ⟨-, rfl⟩, _, _,
      ⟨t, -, rfl⟩, hrest⟩ := h
    obtain ⟨hsegments, hquota⟩ := ih hrest
    exact ⟨hsegments, hquota⟩

theorem sealSet_untouched {set_id : String} {total_bytes : Int} {total_hash : String}
    {count : Int} {deliveries : List DeliveryPart} {now : String} {db db' : Db}
    {r : Except OutputStoreError Unit}
    (h : sealSet set_id total_bytes total_hash count deliveries now db = (r, db')) :
    Untouched db db' := by
  rcases Tx.commit_cases h with hok | ⟨rfl, -⟩
  · simp only [Tx.bind_ok, Tx.read_ok, Tx.update_ok, Tx.require_ok, Tx.pure_ok] at hok
    obtain ⟨_, _, ⟨-, rfl⟩, _, _, ⟨-, rfl⟩, _, _, ⟨-, rfl⟩, hmore⟩ := hok
    obtain ⟨_, s₁, hseal, _, _, ⟨-, rfl⟩, _, _, ⟨-, rfl⟩, hmore⟩ := hmore
    obtain ⟨_, _, ⟨-, rfl⟩, -, rfl⟩ := hmore
    obtain ⟨hsegments, hquota⟩ := sealDeliveries_ok deliveries hseal
    exact ⟨hsegments, hquota⟩
  · exact ⟨rfl, rfl⟩

theorem beginCleanup_untouched {set_id now : String} {db db' : Db}
    {r : Except OutputStoreError (List OutputSegment)}
    (h : beginCleanup set_id now db = (r, db')) : Untouched db db' := by
  rcases Tx.commit_cases h with hok | ⟨rfl, -⟩
  · simp only [Tx.bind_ok, Tx.read_ok, Tx.update_ok, Tx.require_ok, Tx.pure_ok] at hok
    obtain ⟨_, _, ⟨-, rfl⟩, _, _, ⟨-, rfl⟩, _, _, ⟨-, rfl⟩, -, rfl⟩ := hok
    exact ⟨rfl, rfl⟩
  · exact ⟨rfl, rfl⟩

/-! ### Operations on segments -/

/-- A reservation is one segment. -/
theorem isReservation_key {set_id : String} {index : Int} {owner : String} {r : SegmentRow}
    (h : isReservation set_id index owner r = true) : r.key = (set_id, index.toNat) := by
  have hp := of_decide_eq_true h
  have hindex : r.segment_index = index.toNat := by omega
  rw [SegmentRow.key, hp.1, hindex]

theorem isReservation_state {set_id : String} {index : Int} {owner : String} {r : SegmentRow}
    (h : isReservation set_id index owner r = true) : r.state = .reserved :=
  (of_decide_eq_true h).2.2.1

/-- `reserve_segment` books exactly the bytes of the segment it adds, within the limit. -/
theorem reserveSegment_answer {spool : OutputSpoolStore} {set_id : String}
    {index start bytes : Int} {hash name owner now : String} {db db' : Db}
    {r : Except OutputStoreError Unit}
    (h : reserveSegment spool set_id index start bytes hash name owner now db = (r, db')) :
    SpoolAnswer spool db db' r := by
  rcases Tx.commit_cases h with hok | ⟨rfl, -⟩
  · simp only [Tx.bind_ok, Tx.read_ok, Tx.require_ok, Tx.insert_ok, Tx.pure_ok] at hok
    obtain ⟨_, _, ⟨hbytes, rfl⟩, n, s₁, hquota, _, _, ⟨hn, rfl⟩, hmore⟩ := hok
    obtain ⟨_, _, ⟨-, rfl⟩, _, _, ⟨-, rfl⟩, _, _, ⟨-, rfl⟩, hmore⟩ := hmore
    obtain ⟨_, _, ⟨-, rfl⟩, _, _, ⟨-, rfl⟩, _, _, ⟨t, hins, rfl⟩, hr, rfl⟩ := hmore
    obtain ⟨hp, rfl⟩ := updateQuota_one hquota (of_decide_eq_true hn)
    have hbytes := of_decide_eq_true hbytes
    have hlimit := of_decide_eq_true hp
    have hres : t.total SegmentRow.reservedBytes = db.reservedTotal + bytes.toNat :=
      Table.total_insert hins _
    have hland : t.total SegmentRow.landedBytes = db.landedTotal + 0 :=
      Table.total_insert hins _
    refine Or.inr ⟨⟨_, hr.symm⟩, ?_, ?_, Or.inr ?_⟩
    · show db.acpOutputQuota.reserved_bytes + bytes - (t.total SegmentRow.reservedBytes : Nat) = _
      omega
    · show db.acpOutputQuota.landed_bytes - (t.total SegmentRow.landedBytes : Nat) = _
      omega
    · show db.acpOutputQuota.reserved_bytes + bytes + db.acpOutputQuota.landed_bytes ≤ _
      omega
  · exact Or.inl ⟨rfl, rfl⟩

/-- `land_segment` moves the bytes of its segment from one counter to the other. -/
theorem landSegment_answer {spool : OutputSpoolStore} {set_id : String} {index : Int}
    {owner now : String} {db db' : Db} {r : Except OutputStoreError Unit}
    (h : landSegment set_id index owner now db = (r, db')) : SpoolAnswer spool db db' r := by
  rcases Tx.commit_cases h with hok | ⟨rfl, -⟩
  · simp only [Tx.bind_ok, Tx.read_ok, Tx.orElse_ok, Tx.require_ok, Tx.update_ok,
      Tx.pure_ok] at hok
    obtain ⟨_, _, ⟨hfound, rfl⟩, row, _, ⟨rfl, rfl⟩, _, _, ⟨-, rfl⟩, n, s₁, hquota, _, _,
      ⟨hn, rfl⟩, hr, rfl⟩ := hok
    obtain ⟨-, rfl⟩ := updateQuota_one hquota (of_decide_eq_true hn)
    have hmem := List.mem_of_find?_eq_some hfound
    have hrow := List.find?_some hfound
    have hstate := isReservation_state hrow
    have hsum : ∀ w, db.acpOutputSegments.sumWhere (isReservation set_id index owner) w = w row :=
      fun w => Table.sumWhere_eq_of_mem (fun _ => isReservation_key) hmem hrow
    have hres := db.acpOutputSegments.total_updateWhere (isReservation set_id index owner)
      (SegmentRow.land now) (SegmentRow.land_key now) SegmentRow.reservedBytes
    have hland := db.acpOutputSegments.total_updateWhere (isReservation set_id index owner)
      (SegmentRow.land now) (SegmentRow.land_key now) SegmentRow.landedBytes
    rw [hsum, hsum] at hres hland
    simp only [SegmentRow.reservedBytes, SegmentRow.land, hstate, if_true, reduceCtorEq,
      if_false] at hres
    simp only [SegmentRow.landedBytes, SegmentRow.land, hstate, reduceCtorEq, or_self, true_or,
      if_true, if_false] at hland
    refine Or.inr ⟨⟨_, hr.symm⟩, ?_, ?_, Or.inl ?_⟩
    · simp only [Db.reservedTotal]
      omega
    · simp only [Db.landedTotal]
      omega
    · show db.acpOutputQuota.reserved_bytes - (row.byte_length : Int) +
        (db.acpOutputQuota.landed_bytes + row.byte_length) ≤ _
      omega
  · exact Or.inl ⟨rfl, rfl⟩

/-- `release_reserved` gives back the bytes of the segment it deletes. -/
theorem releaseReserved_answer {spool : OutputSpoolStore} {set_id : String} {index : Int}
    {owner : String} {db db' : Db} {r : Except OutputStoreError Unit}
    (h : releaseReserved set_id index owner db = (r, db')) : SpoolAnswer spool db db' r := by
  rcases Tx.commit_cases h with hok | ⟨rfl, -⟩
  · simp only [Tx.bind_ok, Tx.read_ok, Tx.orElse_ok, Tx.require_ok, Tx.delete_ok,
      Tx.pure_ok] at hok
    obtain ⟨_, _, ⟨hfound, rfl⟩, row, _, ⟨rfl, rfl⟩, _, _, rfl, n, s₁, hquota, _, _,
      ⟨hn, rfl⟩, hr, rfl⟩ := hok
    obtain ⟨-, rfl⟩ := updateQuota_one hquota (of_decide_eq_true hn)
    have hmem := List.mem_of_find?_eq_some hfound
    have hrow := List.find?_some hfound
    have hstate := isReservation_state hrow
    have hsum : ∀ w, db.acpOutputSegments.sumWhere (isReservation set_id index owner) w = w row :=
      fun w => Table.sumWhere_eq_of_mem (fun _ => isReservation_key) hmem hrow
    have hres := db.acpOutputSegments.total_deleteWhere (isReservation set_id index owner)
      SegmentRow.reservedBytes
    have hland := db.acpOutputSegments.total_deleteWhere (isReservation set_id index owner)
      SegmentRow.landedBytes
    rw [hsum] at hres hland
    simp only [SegmentRow.reservedBytes, hstate, if_true] at hres
    simp only [SegmentRow.landedBytes, hstate, reduceCtorEq, or_self, if_false] at hland
    refine Or.inr ⟨⟨_, hr.symm⟩, ?_, ?_, Or.inl ?_⟩
    · simp only [Db.reservedTotal]
      omega
    · simp only [Db.landedTotal]
      omega
    · show db.acpOutputQuota.reserved_bytes - (row.byte_length : Int) +
        db.acpOutputQuota.landed_bytes ≤ _
      omega
  · exact Or.inl ⟨rfl, rfl⟩

/-- `adopt_reserved` changes the owner of a segment, not its bytes. -/
theorem adoptReserved_answer {spool : OutputSpoolStore} {set_id : String} {index : Int}
    {owner : String} {db db' : Db} {r : Except OutputStoreError Unit}
    (h : adoptReserved set_id index owner db = (r, db')) : SpoolAnswer spool db db' r := by
  cases h
  split
  · refine Or.inr ⟨⟨(), rfl⟩, ?_, ?_, Or.inl (Int.le_refl _)⟩
    · simp only [Db.reservedTotal]
      rw [Table.total_updateWhere_same (f := SegmentRow.adopt owner) fun _ => rfl]
    · simp only [Db.landedTotal]
      rw [Table.total_updateWhere_same (f := SegmentRow.adopt owner) fun _ => rfl]
  · -- the statement selects at most one segment, so it selected none
    rename_i hne
    have hle : db.acpOutputSegments.affected (fun r => decide (r.set_id = set_id ∧
        (r.segment_index : Int) = index ∧ r.state = .reserved) && db.assembling set_id) ≤ 1 := by
      refine Table.affected_le_one (k := (set_id, index.toNat)) ?_
      intro r hr
      have hp := of_decide_eq_true (Bool.and_eq_true_iff.mp hr).1
      have hindex : r.segment_index = index.toNat := by omega
      rw [SegmentRow.key, hp.1, hindex]
    exact Or.inl ⟨Table.updateWhere_of_affected_zero (SegmentRow.adopt_key owner) (by omega), rfl⟩

theorem reservedBytes_clean (now : String) (r : SegmentRow) : (r.clean now).reservedBytes = 0 := by
  simp [SegmentRow.clean, SegmentRow.reservedBytes]

theorem landedBytes_clean (now : String) (r : SegmentRow) : (r.clean now).landedBytes = 0 := by
  simp [SegmentRow.clean, SegmentRow.landedBytes]

theorem reservedBytes_eq (r : SegmentRow) :
    r.reservedBytes = if r.state ∈ [SegmentState.reserved] then r.byte_length else 0 := by
  simp [SegmentRow.reservedBytes]

theorem landedBytes_eq {r : SegmentRow} (h : r.state ≠ .quarantined) :
    r.landedBytes = if r.state ∈ [SegmentState.landed] then r.byte_length else 0 := by
  simp [SegmentRow.landedBytes, h]

/-- Cleaning the segments of a set in `states` takes from a total what those in `counted`
hold. -/
theorem Db.total_clean (db : Db) (set_id now : String) (states counted : List SegmentState)
    (hsub : ∀ st ∈ counted, st ∈ states) {w : SegmentRow → Nat}
    (hclean : ∀ r : SegmentRow, w (r.clean now) = 0)
    (hw : ∀ r : SegmentRow, r.state ∈ states →
      w r = if r.state ∈ counted then r.byte_length else 0) :
    (db.acpOutputSegments.updateWhere
        (fun r => decide (r.set_id = set_id ∧ r.state ∈ states)) (SegmentRow.clean now)
        (SegmentRow.clean_key now)).total w + db.bytesOf set_id counted =
      db.acpOutputSegments.total w := by
  have hsum : db.bytesOf set_id counted = db.acpOutputSegments.sumWhere
      (fun r => decide (r.set_id = set_id ∧ r.state ∈ states)) w := by
    refine Table.total_congr ?_
    intro r _
    by_cases hin : r.state ∈ counted
    · have hstate := hsub _ hin
      simp [hstate, hw r hstate, hin]
    · by_cases hstate : r.state ∈ states
      · simp [hstate, hw r hstate, hin]
      · simp [hstate, hin]
  rw [hsum]
  exact Table.total_updateWhere_gone hclean

/-- `finish_abandon` gives back the bytes of the set, reserved and landed. -/
theorem finishAbandon_answer {spool : OutputSpoolStore} {set_id now : String} {db db' : Db}
    {r : Except OutputStoreError Unit} (h : finishAbandon set_id now db = (r, db')) :
    SpoolAnswer spool db db' r := by
  rcases Tx.commit_cases h with hok | ⟨rfl, -⟩
  · simp only [Tx.bind_ok, Tx.read_ok, Tx.orElse_ok, Tx.require_ok, Tx.update_ok,
      Tx.pure_ok] at hok
    obtain ⟨_, _, ⟨rfl, rfl⟩, reserved, _, ⟨hreserved, rfl⟩, _, _, ⟨rfl, rfl⟩, hmore⟩ := hok
    obtain ⟨landed, _, ⟨hlanded, rfl⟩, n, s₁, hquota, _, _, ⟨-, rfl⟩, hmore⟩ := hmore
    obtain ⟨_, _, ⟨hn, rfl⟩, hr, rfl⟩ := hmore
    obtain ⟨rfl, -⟩ := toI64_eq_some hreserved
    obtain ⟨rfl, -⟩ := toI64_eq_some hlanded
    obtain ⟨-, rfl⟩ := updateQuota_one hquota (of_decide_eq_true hn)
    have hres := db.total_clean set_id now [.reserved, .landed] [.reserved] (by simp)
      (reservedBytes_clean now) fun r _ => reservedBytes_eq r
    have hland := db.total_clean set_id now [.reserved, .landed] [.landed] (by simp)
      (landedBytes_clean now) fun r hr => landedBytes_eq (by intro h; simp [h] at hr)
    refine Or.inr ⟨⟨_, hr.symm⟩, ?_, ?_, Or.inl ?_⟩
    · simp only [Db.reservedTotal]
      omega
    · simp only [Db.landedTotal]
      omega
    · simp only
      omega
  · exact Or.inl ⟨rfl, rfl⟩

/-- `finish_cleanup` gives back the landed bytes of the set. -/
theorem finishCleanup_answer {spool : OutputSpoolStore} {set_id now : String} {db db' : Db}
    {r : Except OutputStoreError Unit} (h : finishCleanup set_id now db = (r, db')) :
    SpoolAnswer spool db db' r := by
  rcases Tx.commit_cases h with hok | ⟨rfl, -⟩
  · simp only [Tx.bind_ok, Tx.read_ok, Tx.orElse_ok, Tx.require_ok, Tx.update_ok,
      Tx.pure_ok] at hok
    obtain ⟨_, _, ⟨rfl, rfl⟩, bytes, _, ⟨hbytes, rfl⟩, _, _, ⟨-, rfl⟩, hmore⟩ := hok
    obtain ⟨n, s₁, hquota, _, _, ⟨-, rfl⟩, _, _, ⟨hn, rfl⟩, hr, rfl⟩ := hmore
    obtain ⟨rfl, -⟩ := toI64_eq_some hbytes
    obtain ⟨-, rfl⟩ := updateQuota_one hquota (of_decide_eq_true hn).1
    have hres := db.total_clean set_id now [.landed] [] (by simp) (reservedBytes_clean now)
      fun r hr => by
        have hstate : r.state = .landed := by simpa using hr
        simp [SegmentRow.reservedBytes, hstate]
    have hland := db.total_clean set_id now [.landed] [.landed] (by simp)
      (landedBytes_clean now) fun r hr => landedBytes_eq (by intro h; simp [h] at hr)
    have hnone : db.bytesOf set_id [] = 0 := Table.sumWhere_eq_zero (by simp)
    refine Or.inr ⟨⟨_, hr.symm⟩, ?_, ?_, Or.inl ?_⟩
    · simp only [Db.reservedTotal]
      omega
    · simp only [Db.landedTotal]
      omega
    · simp only
      omega
  · exact Or.inl ⟨rfl, rfl⟩

/-! ### Runs -/

/-- One call of the spool.  `elsewhere` is whatever other components do to the tables that
hold neither segments nor the quota: claiming and acknowledging sets, closing tasks. -/
inductive SpoolCall where
  | prepareTask (seen late : Db) (task_id : TaskId) (now : String)
  | reserveSegment (set_id : String) (index start bytes : Int) (hash name owner now : String)
  | landSegment (set_id : String) (index : Int) (owner now : String)
  | releaseReserved (set_id : String) (index : Int) (owner : String)
  | adoptReserved (set_id : String) (index : Int) (owner : String)
  | sealSet (set_id : String) (total_bytes : Int) (total_hash : String) (count : Int)
      (deliveries : List DeliveryPart) (now : String)
  | abandon (set_id now : String)
  | finishAbandon (set_id now : String)
  | activatePrepared (set_id now : String)
  | beginCleanup (set_id now : String)
  | finishCleanup (set_id now : String)
  | refused
  | elsewhere (other : Db)

/-- An answer without its value. -/
def forget {α : Type} (answer : Except OutputStoreError α × Db) :
    Except OutputStoreError Unit × Db :=
  (answer.1.map fun _ => (), answer.2)

section

variable [Externals]

/-- What a call answers, and the store after it. -/
def spoolStep (spool : OutputSpoolStore) (db : Db) :
    SpoolCall → Except OutputStoreError Unit × Db
  | .prepareTask seen late task_id now => forget (prepareTask seen late task_id now db)
  | .reserveSegment set_id index start bytes hash name owner now =>
    reserveSegment spool set_id index start bytes hash name owner now db
  | .landSegment set_id index owner now => landSegment set_id index owner now db
  | .releaseReserved set_id index owner => releaseReserved set_id index owner db
  | .adoptReserved set_id index owner => adoptReserved set_id index owner db
  | .sealSet set_id total_bytes total_hash count deliveries now =>
    sealSet set_id total_bytes total_hash count deliveries now db
  | .abandon set_id now => forget (abandon set_id now db)
  | .finishAbandon set_id now => finishAbandon set_id now db
  | .activatePrepared set_id now => forget (activatePrepared set_id now db)
  | .beginCleanup set_id now => forget (beginCleanup set_id now db)
  | .finishCleanup set_id now => finishCleanup set_id now db
  | .refused => (.error .sql, db)
  | .elsewhere other =>
    (.ok (), { other with acpOutputSegments := db.acpOutputSegments,
                          acpOutputQuota := db.acpOutputQuota })

/-- The store after a list of calls from the empty one. -/
def spoolRun (spool : OutputSpoolStore) (calls : List SpoolCall) : Db :=
  calls.foldl (fun db call => (spoolStep spool db call).2) Db.empty

/-- **Every call answers as it acts.** -/
theorem spoolStep_answer (spool : OutputSpoolStore) (db : Db) (call : SpoolCall) :
    SpoolAnswer spool db (spoolStep spool db call).2 (spoolStep spool db call).1 := by
  cases call with
  | prepareTask seen late task_id now => exact Or.inl (prepareTask_untouched rfl)
  | reserveSegment set_id index start bytes hash name owner now =>
    exact reserveSegment_answer rfl
  | landSegment set_id index owner now => exact landSegment_answer rfl
  | releaseReserved set_id index owner => exact releaseReserved_answer rfl
  | adoptReserved set_id index owner => exact adoptReserved_answer rfl
  | sealSet set_id total_bytes total_hash count deliveries now =>
    exact Or.inl (sealSet_untouched rfl)
  | abandon set_id now => exact Or.inl (abandon_untouched rfl)
  | finishAbandon set_id now => exact finishAbandon_answer rfl
  | activatePrepared set_id now => exact Or.inl ⟨rfl, rfl⟩
  | beginCleanup set_id now => exact Or.inl (beginCleanup_untouched rfl)
  | finishCleanup set_id now => exact finishCleanup_answer rfl
  | refused => exact Or.inl ⟨rfl, rfl⟩
  | elsewhere other => exact Or.inl ⟨rfl, rfl⟩

/-- The counters are the sums of the segments, within the limit. -/
structure QuotaInv (spool : OutputSpoolStore) (db : Db) : Prop where
  reserved : db.acpOutputQuota.reserved_bytes = db.reservedTotal
  landed : db.acpOutputQuota.landed_bytes = db.landedTotal
  bounded : db.acpOutputQuota.reserved_bytes + db.acpOutputQuota.landed_bytes ≤
    spool.quota_limit

omit [Externals] in
theorem QuotaInv.step {spool : OutputSpoolStore} {db db' : Db} (h : QuotaInv spool db)
    (hstep : QuotaStep spool db db') : QuotaInv spool db' := by
  obtain ⟨hres, hland, hbound⟩ := h
  obtain ⟨hres', hland', hbound'⟩ := hstep
  refine ⟨by omega, by omega, ?_⟩
  rcases hbound' with hless | hlimit
  · omega
  · exact hlimit

theorem spoolRun_quotaInv (spool : OutputSpoolStore) (calls : List SpoolCall) :
    QuotaInv spool (spoolRun spool calls) := by
  refine foldl_invariant (QuotaInv spool) ?_ calls ?_
  · intro db call h
    rcases spoolStep_answer spool db call with huntouched | ⟨-, hstep⟩
    · exact h.step huntouched.quotaStep
    · exact h.step hstep
  · refine ⟨rfl, rfl, ?_⟩
    show (0 : Int) + 0 ≤ spool.quota_limit
    omega

omit [Externals] in
/-- Counters that are right pass the check of startup. -/
theorem QuotaInv.verifyQuota {spool : OutputSpoolStore} {db : Db} (h : QuotaInv spool db) :
    verifyQuota spool db = .ok () := by
  obtain ⟨hres, hland, hbound⟩ := h
  have hreserved : db.acpOutputSegments.sumWhere (fun r => decide (r.state = .reserved))
      SegmentRow.byte_length = db.reservedTotal := by
    refine Table.total_congr ?_
    intro r _
    simp [SegmentRow.reservedBytes]
  have hlanded : db.acpOutputSegments.sumWhere
      (fun r => decide (r.state ∈ [SegmentState.landed, .quarantined])) SegmentRow.byte_length =
      db.landedTotal := by
    refine Table.total_congr ?_
    intro r _
    simp [SegmentRow.landedBytes]
  unfold GuiguBridge.verifyQuota
  simp only [hreserved, hlanded, hres, hland]
  rw [if_neg]
  omega

/-- **The output quota (proved).**  In every state of every run the quota row's reserved bytes
are those of the reserved segments and its landed bytes those of the landed and quarantined
ones, neither is negative, and their sum is within the limit; startup's check of the counters
passes, and a call that fails leaves counters and segments as they were. -/
theorem output_quota (spool : OutputSpoolStore) (calls : List SpoolCall) :
    (spoolRun spool calls).acpOutputQuota.reserved_bytes = (spoolRun spool calls).reservedTotal ∧
    (spoolRun spool calls).acpOutputQuota.landed_bytes = (spoolRun spool calls).landedTotal ∧
    (spoolRun spool calls).acpOutputQuota.reserved_bytes +
      (spoolRun spool calls).acpOutputQuota.landed_bytes ≤ spool.quota_limit ∧
    0 ≤ (spoolRun spool calls).acpOutputQuota.reserved_bytes ∧
    0 ≤ (spoolRun spool calls).acpOutputQuota.landed_bytes ∧
    verifyQuota spool (spoolRun spool calls) = .ok () ∧
    ∀ call e, (spoolStep spool (spoolRun spool calls) call).1 = .error e →
      (spoolStep spool (spoolRun spool calls) call).2.acpOutputSegments =
          (spoolRun spool calls).acpOutputSegments ∧
        (spoolStep spool (spoolRun spool calls) call).2.acpOutputQuota =
          (spoolRun spool calls).acpOutputQuota := by
  have hinv := spoolRun_quotaInv spool calls
  have hres := hinv.reserved
  have hland := hinv.landed
  refine ⟨hres, hland, hinv.bounded, by omega, by omega, hinv.verifyQuota, ?_⟩
  intro call e herr
  rcases spoolStep_answer spool (spoolRun spool calls) call with huntouched | ⟨⟨a, hok⟩, -⟩
  · exact huntouched
  · rw [herr] at hok
    cases hok

end

end GuiguBridge
