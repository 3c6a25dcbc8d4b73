import GuiguBridge.Storage.OutputQuota

/-!
# Delivering output sets

The statements by which a sealed set is delivered part by part
(`src/src/storage/output_delivery.rs`).

* `claimNextSet`, `nextSegment`, `acknowledge`, `recordFailure` — one statement each;
* `SetEdge` — **what any statement of the spool may do to a set**: one constructor for each
  arrow between its states, with what the arrow leaves alone;
* `SpoolMove` — sets, segments and parts after a statement;
* `prepareTask_move` … `activatePrepared_move` — every statement of the spool is such a move.
-/

namespace GuiguBridge

open Relational

/-! ### The statements -/

structure ClaimedOutputSet where
  set_id : String
  room_id : String
  thread_root : Option String
  reply_event_id : Option String
  acknowledged_cursor : Int
  segment_count : Nat
  claim_owner : String
  claim_revision : Nat
  attempt_count : Nat
  deriving DecidableEq

structure PendingDelivery where
  part : DeliveryPart
  spool : OutputSegment
  total_bytes : Nat
  total_hash : String
  deriving DecidableEq

/-- `state='sealed' OR (state='delivering' AND updated_at<=?)`. -/
def OutputSetRow.claimable (stale_before : String) (s : OutputSetRow) : Bool :=
  decide (s.state = .sealed ∨ (s.state = .delivering ∧ s.updated_at ≤ stale_before))

/-- The first such set `ORDER BY created_at`. -/
def Db.nextClaimable (db : Db) (stale_before : String) : Option OutputSetRow :=
  ((db.acpOutputSets.rows.filter (OutputSetRow.claimable stale_before)).insertionSort
    fun a b => a.created_at ≤ b.created_at).head?

/-- The set under a claim. -/
def OutputSetRow.claimed (owner now : String) (s : OutputSetRow) : OutputSetRow :=
  { s with state := .delivering, claim_owner := some owner,
           claim_revision := s.claim_revision + 1, updated_at := now }

/-- What a claim returns of a set. -/
def OutputSetRow.toClaim (owner : String) (s : OutputSetRow) (segment_count : Nat) :
    ClaimedOutputSet :=
  { set_id := s.set_id, room_id := s.room_id, thread_root := s.thread_root,
    reply_event_id := s.reply_event_id, acknowledged_cursor := s.acknowledged_cursor,
    segment_count := segment_count, claim_owner := owner, claim_revision := s.claim_revision,
    attempt_count := s.attempt_count }

/-- An `UPDATE` of the sets. -/
def Db.updateSets (db : Db) (p : OutputSetRow → Bool) (f : OutputSetRow → OutputSetRow)
    (hf : ∀ s, (f s).set_id = s.set_id) : Db :=
  { db with acpOutputSets := db.acpOutputSets.updateWhere p f hf }

/-- `claim_next`. -/
def claimNextSet (owner now stale_before : String) (db : Db) :
    Except OutputStoreError (Option ClaimedOutputSet) × Db :=
  match db.nextClaimable stale_before with
  | none => (.ok none, db)
  | some s =>
    let row := s.claimed owner now
    let answer := match row.segment_count with
      | some count => .ok (some (row.toClaim owner count))
      | none => .error .sql
    (answer, db.updateSets (fun r => decide (r.set_id = s.set_id)) (OutputSetRow.claimed owner now)
      (fun _ => rfl))

/-- The part as its row has it. -/
def DeliverySegmentRow.toPart (d : DeliverySegmentRow) : DeliveryPart :=
  { index := d.delivery_index, spool_index := d.spool_index, byte_start := d.byte_start,
    byte_end := d.byte_end, content_hash := d.content_hash, stable_txn_id := d.stable_txn_id }

/-- The landed segment that a part lies in. -/
def Db.landedSegment (db : Db) (set_id : String) (index : Int) : Option SegmentRow :=
  db.acpOutputSegments.rows.find? fun r =>
    decide (r.set_id = set_id ∧ (r.segment_index : Int) = index ∧ r.state = .landed)

/-- `next_segment`. -/
def nextSegment (set : ClaimedOutputSet) (db : Db) :
    Except OutputStoreError (Option PendingDelivery) :=
  match db.acpOutputDeliverySegments.get (set.set_id, set.acknowledged_cursor + 1) with
  | none => .ok none
  | some d =>
    match db.landedSegment set.set_id d.spool_index, db.acpOutputSets.get set.set_id with
    | some s, some o =>
      match o.total_bytes, o.total_hash with
      | some total_bytes, some total_hash =>
        .ok (some ⟨d.toPart, decodeSegment s, total_bytes, total_hash⟩)
      | _, _ => .error .sql
    | _, _ => .ok none

/-- `state='delivering' AND claim_owner=? AND claim_revision=?` on the set of a claim. -/
def ClaimedOutputSet.holds (set : ClaimedOutputSet) (s : OutputSetRow) : Bool :=
  decide (s.set_id = set.set_id ∧ s.state = .delivering ∧
    s.claim_owner = some set.claim_owner ∧ s.claim_revision = set.claim_revision)

/-- The set, one part further. -/
def OutputSetRow.acknowledged (index : Int) (state : SetState) (now : String)
    (s : OutputSetRow) : OutputSetRow :=
  { s with acknowledged_cursor := index, state := state, attempt_count := 0, updated_at := now }

/-- `acknowledge`. -/
def acknowledge (set : ClaimedOutputSet) (index : Int) (now : String) (db : Db) :
    Except OutputStoreError Bool × Db :=
  let state : SetState := if index + 1 = set.segment_count then .delivered else .delivering
  let p : OutputSetRow → Bool := fun s =>
    set.holds s && decide (s.acknowledged_cursor = index - 1)
  (.ok (db.acpOutputSets.affected p = 1),
    db.updateSets p (OutputSetRow.acknowledged index state now) (fun _ => rfl))

/-- The set after a failed send. -/
def OutputSetRow.failed (state : SetState) (attempt : Nat) (failure : Option String)
    (now : String) (s : OutputSetRow) : OutputSetRow :=
  { s with state := state, attempt_count := attempt, failure_class := failure,
           claim_owner := none, updated_at := now }

/-- `record_failure`; the one class that callers name is `permanent`. -/
def recordFailure (set : ClaimedOutputSet) (permanent : Bool) (limit : Nat) (now : String)
    (db : Db) : Except OutputStoreError Bool × Db :=
  let next := set.attempt_count + 1
  let terminal := permanent || decide (limit ≤ next)
  let state : SetState := if terminal then .partial_ else .sealed
  let failure := if permanent then some "permanent"
    else if terminal then some "attempts_exhausted" else none
  (.ok (db.acpOutputSets.affected set.holds = 1),
    db.updateSets set.holds (OutputSetRow.failed state next failure now) (fun _ => rfl))

/-! ### What a statement may do -/

/-- The arrows between the states of a set. -/
inductive SetEdge (s : OutputSetRow) : OutputSetRow → Prop where
  | prepared (total_bytes count : Nat) (total_hash now : String) (h : s.state = .assembling) :
      SetEdge s { s with state := .prepared, total_bytes := some total_bytes,
                         total_hash := some total_hash, segment_count := some count,
                         updated_at := now }
  | sealed (now : String) (h : s.state = .prepared) :
      SetEdge s { s with state := .sealed, updated_at := now }
  | abandoned (total_bytes count : Nat) (now : String)
      (h : s.state = .assembling ∨ s.state = .prepared) :
      SetEdge s { s with state := .abandoned, total_bytes := some total_bytes,
                         total_hash := some "", segment_count := some count,
                         updated_at := now }
  | claimed (owner now : String) (h : s.state = .sealed ∨ s.state = .delivering) :
      SetEdge s (s.claimed owner now)
  | acknowledged (set : ClaimedOutputSet) (index : Int) (state : SetState) (now : String)
      (h : set.holds s = true) (hcursor : s.acknowledged_cursor = index - 1)
      (hstate : state = if index + 1 = set.segment_count then .delivered else .delivering) :
      SetEdge s (s.acknowledged index state now)
  | failed (set : ClaimedOutputSet) (state : SetState) (attempt : Nat)
      (failure : Option String) (now : String) (h : set.holds s = true)
      (hstate : state = .partial_ ∨ state = .sealed) :
      SetEdge s (s.failed state attempt failure now)
  | cleaning (now : String) (h : s.state = .delivered ∨ s.state = .cleaning) :
      SetEdge s { s with state := .cleaning, claim_revision := s.claim_revision + 1,
                         updated_at := now }
  | cleaned (now : String) (h : s.state = .cleaning) :
      SetEdge s { s with state := .cleaned, claim_owner := none, updated_at := now }

theorem SetEdge.set_id {s s' : OutputSetRow} (h : SetEdge s s') : s'.set_id = s.set_id := by
  cases h <;> rfl

/-- The table has the part. -/
def HasPart (t : Table DeliverySegmentRow.key) (set_id : String) (index : Int) : Prop :=
  ∃ d ∈ t.rows, d.key = (set_id, index)

/-- The parts of a set were written, and no other. -/
structure PartsAdded (t u : Table DeliverySegmentRow.key) (set_id : String)
    (first count : Nat) : Prop where
  kept : ∀ d ∈ t.rows, d ∈ u.rows
  fresh : ∀ d ∈ u.rows, d ∈ t.rows ∨ d.set_id = set_id
  parts : ∀ i : Int, HasPart u set_id i ↔
    HasPart t set_id i ∨ ((first : Int) ≤ i ∧ i < first + count)

/-- What a segment is, whatever its state. -/
def SegmentRow.content (r : SegmentRow) : String × Nat × Nat × Nat × String × String :=
  (r.set_id, r.segment_index, r.byte_start, r.byte_length, r.content_hash, r.relative_name)

/-- Segments of one set were cleaned: their rows stay, and so do those of every other set. -/
structure SegmentsCleaned (t u : Table SegmentRow.key) (set_id : String) : Prop where
  kept : ∀ r ∈ t.rows, ∃ r' ∈ u.rows, r'.content = r.content ∧ (r' = r ∨ r.set_id = set_id)
  fresh : ∀ r' ∈ u.rows, r' ∈ t.rows ∨ (r'.set_id = set_id ∧ r'.state = .cleaned)

/-- What a statement of the spool may do to sets, segments and parts. -/
inductive SpoolMove (db db' : Db) : Prop where
  | kept (hsets : db'.acpOutputSets = db.acpOutputSets)
      (hsegments : db'.acpOutputSegments = db.acpOutputSegments)
      (hparts : db'.acpOutputDeliverySegments = db.acpOutputDeliverySegments)
  | opened (set : OutputSetRow) (hstate : set.state = .assembling)
      (hcursor : set.acknowledged_cursor = -1)
      (hinsert : db.acpOutputSets.insert set = some db'.acpOutputSets)
      (hsegments : db'.acpOutputSegments = db.acpOutputSegments)
      (hparts : db'.acpOutputDeliverySegments = db.acpOutputDeliverySegments)
  | prepared (set set' : OutputSetRow) (count : Nat) (hset : set ∈ db.acpOutputSets.rows)
      (hstate : set.state = .assembling) (hedge : SetEdge set set')
      (hstate' : set'.state = .prepared) (hcount : set'.segment_count = some count)
      (hpos : 0 < count)
      (hputs : db.acpOutputSets.Puts set.set_id set' db'.acpOutputSets)
      (hlanded : ∀ r ∈ db.acpOutputSegments.rows, r.set_id = set.set_id → r.state = .landed)
      (hsegments : db'.acpOutputSegments = db.acpOutputSegments)
      (hparts : PartsAdded db.acpOutputDeliverySegments db'.acpOutputDeliverySegments
        set.set_id 0 count)
  | edge (set set' : OutputSetRow) (hset : set ∈ db.acpOutputSets.rows)
      (hedge : SetEdge set set') (hstate' : set'.state ≠ .prepared ∧ set'.state ≠ .cleaned)
      (hcursor : set'.acknowledged_cursor = set.acknowledged_cursor)
      (hputs : db.acpOutputSets.Puts set.set_id set' db'.acpOutputSets)
      (hsegments : db'.acpOutputSegments = db.acpOutputSegments)
      (hparts : db'.acpOutputDeliverySegments = db.acpOutputDeliverySegments)
  | segment (hsets : db'.acpOutputSets = db.acpOutputSets)
      (hkept : ∀ r ∈ db.acpOutputSegments.rows, r.state ≠ .reserved →
        r ∈ db'.acpOutputSegments.rows)
      (hfresh : ∀ r ∈ db'.acpOutputSegments.rows, r ∈ db.acpOutputSegments.rows ∨
        db.assembling r.set_id = true ∨
        ∃ r₀ ∈ db.acpOutputSegments.rows, r₀.state = .reserved ∧ r₀.set_id = r.set_id)
      (hparts : db'.acpOutputDeliverySegments = db.acpOutputDeliverySegments)
  | cleaned (set set' : OutputSetRow) (hset : set ∈ db.acpOutputSets.rows)
      (hstate : set.state = .cleaning) (hedge : SetEdge set set')
      (hstate' : set'.state = .cleaned)
      (hputs : db.acpOutputSets.Puts set.set_id set' db'.acpOutputSets)
      (hsegments : SegmentsCleaned db.acpOutputSegments db'.acpOutputSegments set.set_id)
      (hparts : db'.acpOutputDeliverySegments = db.acpOutputDeliverySegments)
  | discarded (set : OutputSetRow) (hset : set ∈ db.acpOutputSets.rows)
      (hstate : set.state = .abandoned) (hsets : db'.acpOutputSets = db.acpOutputSets)
      (hsegments : SegmentsCleaned db.acpOutputSegments db'.acpOutputSegments set.set_id)
      (hparts : db'.acpOutputDeliverySegments = db.acpOutputDeliverySegments)

/-! ### The statements, one by one -/

/-- An update that selects by the identity of a set writes one set, or none. -/
theorem updateSets_cases {p : OutputSetRow → Bool} (f : OutputSetRow → OutputSetRow)
    (hf : ∀ s, (f s).set_id = s.set_id) {set_id : String} (db : Db)
    (hp : ∀ s, p s = true → s.set_id = set_id) :
    (db.acpOutputSets.affected p ≠ 1 ∧ db.updateSets p f hf = db) ∨
    (db.acpOutputSets.affected p = 1 ∧ ∃ s ∈ db.acpOutputSets.rows, p s = true ∧
      db.acpOutputSets.Puts s.set_id (f s) (db.updateSets p f hf).acpOutputSets) := by
  by_cases hone : db.acpOutputSets.affected p = 1
  · obtain ⟨s, hget, hps⟩ := (Table.affected_eq_one_iff hp).mp hone
    have hputs : db.acpOutputSets.Puts set_id (f s) (db.acpOutputSets.updateWhere p f hf) :=
      Table.puts_updateWhere hp hget hps
    rw [← hp s hps] at hputs
    exact Or.inr ⟨hone, s, Table.mem_of_get hget, hps, hputs⟩
  · have hle := Table.affected_le_one (t := db.acpOutputSets) hp
    refine Or.inl ⟨hone, ?_⟩
    unfold Db.updateSets
    rw [Table.updateWhere_of_affected_zero hf (by omega)]

section

variable [Externals]

theorem prepareTask_move {seen late : Db} {task_id : TaskId} {now : String} {db db' : Db}
    {r : Except OutputStoreError (Option String)}
    (h : prepareTask seen late task_id now db = (r, db')) : SpoolMove db db' := by
  unfold prepareTask at h
  split at h
  · cases h
    exact .kept rfl rfl rfl
  · split at h
    · cases h
      exact .kept rfl rfl rfl
    · simp only at h
      split at h
      · cases h
        exact .kept rfl rfl rfl
      · split at h
        · cases h
          exact .kept rfl rfl rfl
        · split at h
          · cases h
            exact .kept rfl rfl rfl
          · rename_i t hinsert
            cases h
            exact .opened _ rfl rfl hinsert rfl rfl

end

section

variable {set_id now : String} {db db' : Db}

/-- A fold that ends with a value held of every item what its step asks for. -/
theorem foldl_some_all {α β : Type} {step : Option β → α → Option β} {P : α → Prop}
    (hnone : ∀ a, step none a = none) (hstep : ∀ acc a v, step acc a = some v → P a)
    (l : List α) {acc : Option β} {v : β} (h : l.foldl step acc = some v) : ∀ a ∈ l, P a := by
  have hfail : ∀ l : List α, l.foldl step none = none := by
    intro l
    induction l with
    | nil => rfl
    | cons a l ih => rw [List.foldl_cons, hnone, ih]
  induction l generalizing acc with
  | nil => exact fun a ha => absurd ha List.not_mem_nil
  | cons b l ih =>
    rw [List.foldl_cons] at h
    intro a ha
    cases hb : step acc b with
    | none =>
      rw [hb, hfail] at h
      cases h
    | some w =>
      rcases List.mem_cons.mp ha with rfl | hrest
      · exact hstep acc a w hb
      · exact ih h a hrest

/-- The segments that a set was sealed with are landed. -/
theorem validateSegments_landed {rows : List SegmentRow} {total : Int}
    (h : validateSegments rows total = true) : ∀ r ∈ rows, r.state = .landed := by
  unfold validateSegments at h
  simp only at h
  split at h
  · rename_i expected stop hfold
    refine foldl_some_all (fun _ => rfl) ?_ rows hfold
    intro acc row v hrow
    obtain ⟨⟨expected, stop⟩, -, hif⟩ := Option.bind_eq_some_iff.mp hrow
    simp only [Option.ite_none_right_eq_some] at hif
    exact hif.1.2.2
  · cases h

theorem mem_segmentsOf {states : List SegmentState} {r : SegmentRow} :
    r ∈ db.segmentsOf set_id states ↔
      r ∈ db.acpOutputSegments.rows ∧ r.set_id = set_id ∧ r.state ∈ states := by
  unfold Db.segmentsOf
  rw [List.mem_insertionSort, List.mem_filter, decide_eq_true_iff]

/-- The loop over the parts writes one row for each, numbered on from the first. -/
theorem sealDeliveries_added (deliveries : List DeliveryPart) :
    ∀ {expected : Nat} {stop : Int} {s s' : Db} {v : Int},
      sealDeliveries set_id expected stop deliveries s = .ok (v, s') →
        ∃ t, s' = { s with acpOutputDeliverySegments := t } ∧
          PartsAdded s.acpOutputDeliverySegments t set_id expected deliveries.length := by
  induction deliveries with
  | nil =>
    intro expected stop s s' v h
    obtain ⟨-, rfl⟩ := Tx.pure_ok.1 h
    refine ⟨_, rfl, fun _ h => h, fun _ h => Or.inl h, ?_⟩
    intro i
    simp only [List.length_nil]
    constructor
    · exact Or.inl
    · rintro (h | ⟨hle, hlt⟩)
      · exact h
      · omega
  | cons part rest ih =>
    intro expected stop s s' v h
    simp only [sealDeliveries, Tx.bind_ok, Tx.require_ok, Tx.read_ok, Tx.insert_ok] at h
    obtain ⟨_, _, ⟨hpart, rfl⟩, _, _, ⟨-, rfl⟩, _, _, ⟨-, rfl⟩, _, _, ⟨-, rfl⟩, _, _, ⟨-, rfl⟩,
      _, _, ⟨t, hinsert, rfl⟩, hrest⟩ := h
    have hindex : part.index = expected := (of_decide_eq_true hpart).1
    obtain ⟨u, rfl, hadded⟩ := ih hrest
    have hmem (d : DeliverySegmentRow) : d ∈ t.rows ↔ _ := Table.mem_insert hinsert
    refine ⟨u, rfl, ?_, ?_, ?_⟩
    · intro d hd
      exact hadded.kept d ((hmem d).mpr (Or.inl hd))
    · intro d hd
      rcases hadded.fresh d hd with hold | hset
      · rcases (hmem d).mp hold with hd' | rfl
        · exact Or.inl hd'
        · exact Or.inr rfl
      · exact Or.inr hset
    · intro i
      rw [hadded.parts i]
      have hfirst : HasPart t set_id i ↔
          HasPart s.acpOutputDeliverySegments set_id i ∨ i = expected := by
        constructor
        · rintro ⟨d, hd, hkey⟩
          rcases (hmem d).mp hd with hold | rfl
          · exact Or.inl ⟨d, hold, hkey⟩
          · refine Or.inr ?_
            rw [← hindex]
            exact (congrArg Prod.snd hkey).symm
        · rintro (⟨d, hd, hkey⟩ | rfl)
          · exact ⟨d, (hmem d).mpr (Or.inl hd), hkey⟩
          · exact ⟨_, (hmem _).mpr (Or.inr rfl), by rw [← hindex]; rfl⟩
      rw [hfirst, List.length_cons, or_assoc]
      refine or_congr_right ?_
      push_cast
      omega

theorem sealSet_move {total_bytes : Int} {total_hash : String} {count : Int}
    {deliveries : List DeliveryPart} {r : Except OutputStoreError Unit}
    (hne : deliveries ≠ [])
    (h : sealSet set_id total_bytes total_hash count deliveries now db = (r, db')) :
    SpoolMove db db' := by
  rcases Tx.commit_cases h with hok | ⟨rfl, -⟩
  · simp only [Tx.bind_ok, Tx.read_ok, Tx.update_ok, Tx.require_ok, Tx.pure_ok] at hok
    obtain ⟨_, _, ⟨hcount, rfl⟩, rows, _, ⟨hrows, rfl⟩, _, _, ⟨hvalid, rfl⟩, hmore⟩ := hok
    obtain ⟨_, s₁, hseal, _, _, ⟨-, rfl⟩, n, _, ⟨hn, rfl⟩, hmore⟩ := hmore
    obtain ⟨_, _, ⟨hone, rfl⟩, -, rfl⟩ := hmore
    obtain ⟨t, rfl, hadded⟩ := sealDeliveries_added deliveries hseal
    have hlen : count.toNat = deliveries.length := by
      have hcount := of_decide_eq_true hcount
      omega
    obtain ⟨set, hget, hp, hputs⟩ := Table.update_puts (k := set_id)
      (fun r hp => (of_decide_eq_true hp).1) (hn.trans (of_decide_eq_true hone))
    obtain ⟨hid, hstate⟩ := of_decide_eq_true hp
    subst hid
    refine .prepared set _ deliveries.length (Table.mem_of_get hget) hstate
      (.prepared total_bytes.toNat count.toNat total_hash now hstate) rfl
      (congrArg some hlen) (List.length_pos_iff.mpr hne) hputs ?_ rfl hadded
    intro r hr hset
    refine validateSegments_landed hvalid r ?_
    rw [← hrows, mem_segmentsOf]
    exact ⟨hr, hset, by cases r.state <;> simp⟩
  · exact .kept rfl rfl rfl

theorem abandon_move {r : Except OutputStoreError (List OutputSegment)}
    (h : abandon set_id now db = (r, db')) : SpoolMove db db' := by
  rcases Tx.commit_cases h with hok | ⟨rfl, -⟩
  · simp only [Tx.bind_ok, Tx.read_ok, Tx.orElse_ok, Tx.update_ok, Tx.require_ok,
      Tx.pure_ok] at hok
    obtain ⟨_, _, ⟨-, rfl⟩, _, _, ⟨-, rfl⟩, bytes, _, ⟨-, rfl⟩, n, _, ⟨hn, rfl⟩, _, _,
      ⟨hone, rfl⟩, -, rfl⟩ := hok
    obtain ⟨set, hget, hp, hputs⟩ := Table.update_puts (k := set_id)
      (fun r hp => (of_decide_eq_true hp).1) (hn.trans (of_decide_eq_true hone))
    obtain ⟨hid, hstate⟩ := of_decide_eq_true hp
    subst hid
    exact .edge set _ (Table.mem_of_get hget) (.abandoned bytes _ now hstate) ⟨by simp, by simp⟩
      rfl hputs rfl rfl
  · exact .kept rfl rfl rfl

theorem beginCleanup_move {r : Except OutputStoreError (List OutputSegment)}
    (h : beginCleanup set_id now db = (r, db')) : SpoolMove db db' := by
  rcases Tx.commit_cases h with hok | ⟨rfl, -⟩
  · simp only [Tx.bind_ok, Tx.read_ok, Tx.update_ok, Tx.require_ok, Tx.pure_ok] at hok
    obtain ⟨n, _, ⟨hn, rfl⟩, _, _, ⟨hone, rfl⟩, _, _, ⟨-, rfl⟩, -, rfl⟩ := hok
    obtain ⟨set, hget, hp, hputs⟩ := Table.update_puts (k := set_id)
      (fun r hp => (of_decide_eq_true hp).1) (hn.trans (of_decide_eq_true hone))
    obtain ⟨hid, hstate⟩ := of_decide_eq_true hp
    subst hid
    exact .edge set _ (Table.mem_of_get hget) (.cleaning now hstate) ⟨by simp, by simp⟩ rfl
      hputs rfl rfl
  · exact .kept rfl rfl rfl

theorem segments_cleaned {p : SegmentRow → Bool} (hp : ∀ r, p r = true → r.set_id = set_id) :
    SegmentsCleaned db.acpOutputSegments (db.acpOutputSegments.updateWhere p
      (SegmentRow.clean now) (SegmentRow.clean_key now)) set_id where
  kept := by
    intro r hr
    cases hpr : p r with
    | true =>
      exact ⟨r.clean now, Table.mem_updateWhere.2 (Or.inl ⟨r, hr, hpr, rfl⟩), rfl,
        Or.inr (hp r hpr)⟩
    | false => exact ⟨r, Table.mem_updateWhere.2 (Or.inr ⟨hr, hpr⟩), rfl, Or.inl rfl⟩
  fresh := by
    intro r' hr'
    rcases Table.mem_updateWhere.1 hr' with ⟨r, hr, hpr, rfl⟩ | ⟨hr, -⟩
    · exact Or.inr ⟨hp r hpr, rfl⟩
    · exact Or.inl hr

theorem finishCleanup_move {r : Except OutputStoreError Unit}
    (h : finishCleanup set_id now db = (r, db')) : SpoolMove db db' := by
  rcases Tx.commit_cases h with hok | ⟨rfl, -⟩
  · simp only [Tx.bind_ok, Tx.read_ok, Tx.orElse_ok, Tx.require_ok, Tx.update_ok,
      Tx.pure_ok] at hok
    obtain ⟨_, _, ⟨-, rfl⟩, bytes, _, ⟨-, rfl⟩, _, _, ⟨-, rfl⟩, hmore⟩ := hok
    obtain ⟨n, s₁, hquota, m, _, ⟨hm, rfl⟩, _, _, ⟨hone, rfl⟩, -, rfl⟩ := hmore
    obtain ⟨hn, hm'⟩ := of_decide_eq_true hone
    obtain ⟨-, rfl⟩ := updateQuota_one hquota hn
    obtain ⟨set, hget, hp, hputs⟩ := Table.update_puts (k := set_id)
      (fun r hp => (of_decide_eq_true hp).1) (hm.trans hm')
    obtain ⟨hid, hstate⟩ := of_decide_eq_true hp
    subst hid
    exact .cleaned set _ (Table.mem_of_get hget) hstate (.cleaned now hstate) rfl hputs
      (segments_cleaned fun r hr => (of_decide_eq_true hr).1) rfl
  · exact .kept rfl rfl rfl

theorem finishAbandon_move {r : Except OutputStoreError Unit} {set : OutputSetRow}
    (hset : set ∈ db.acpOutputSets.rows) (hstate : set.state = .abandoned)
    (h : finishAbandon set.set_id now db = (r, db')) : SpoolMove db db' := by
  rcases Tx.commit_cases h with hok | ⟨rfl, -⟩
  · simp only [Tx.bind_ok, Tx.read_ok, Tx.orElse_ok, Tx.require_ok, Tx.update_ok,
      Tx.pure_ok] at hok
    obtain ⟨_, _, ⟨-, rfl⟩, reserved, _, ⟨-, rfl⟩, _, _, ⟨-, rfl⟩, hmore⟩ := hok
    obtain ⟨landed, _, ⟨-, rfl⟩, n, s₁, hquota, _, _, ⟨-, rfl⟩, hmore⟩ := hmore
    obtain ⟨_, _, ⟨hn, rfl⟩, -, rfl⟩ := hmore
    obtain ⟨-, rfl⟩ := updateQuota_one hquota (of_decide_eq_true hn)
    exact .discarded set hset hstate rfl (segments_cleaned fun r hr => (of_decide_eq_true hr).1)
      rfl
  · exact .kept rfl rfl rfl

theorem activatePrepared_move : SpoolMove db (activatePrepared set_id now db).2 := by
  let p : OutputSetRow → Bool := fun s =>
    decide (s.set_id = set_id ∧ s.state = .prepared) &&
      db.taskEvents.rows.any fun e => decide (e.task_id = s.task_id ∧ e.status = .completed ∧
        db.maxSeq e.task_id = some e.seq)
  have hp {s : OutputSetRow} (h : p s = true) : s.set_id = set_id ∧ s.state = .prepared :=
    of_decide_eq_true (Bool.and_eq_true_iff.mp h).1
  rcases updateSets_cases (fun s => { s with state := .sealed, updated_at := now })
    (fun _ => rfl) db (fun s h => (hp h).1) with ⟨-, hsame⟩ | ⟨-, set, hset, hps, hputs⟩
  · rw [show (activatePrepared set_id now db).2 = db from hsame]
    exact .kept rfl rfl rfl
  · exact .edge set _ hset (.sealed now (hp hps).2) ⟨nofun, nofun⟩ rfl hputs rfl rfl

/-- An update of reserved segments. -/
theorem segment_move {p : SegmentRow → Bool} {f : SegmentRow → SegmentRow}
    (hf : ∀ r, (f r).key = r.key) (hp : ∀ r, p r = true → r.state = .reserved)
    (hsets : db'.acpOutputSets = db.acpOutputSets)
    (hsegments : db'.acpOutputSegments = db.acpOutputSegments.updateWhere p f hf)
    (hparts : db'.acpOutputDeliverySegments = db.acpOutputDeliverySegments) :
    SpoolMove db db' := by
  refine .segment hsets ?_ ?_ hparts
  · intro r hr hstate
    rw [hsegments, Table.mem_updateWhere]
    refine Or.inr ⟨hr, ?_⟩
    cases hpr : p r with
    | false => rfl
    | true => exact absurd (hp r hpr) hstate
  · intro r hr
    rw [hsegments, Table.mem_updateWhere] at hr
    rcases hr with ⟨r₀, hr₀, hpr, rfl⟩ | ⟨hr, -⟩
    · exact Or.inr (Or.inr ⟨r₀, hr₀, hp r₀ hpr, (congrArg Prod.fst (hf r₀)).symm⟩)
    · exact Or.inl hr

theorem landSegment_move {index : Int} {owner : String} {r : Except OutputStoreError Unit}
    (h : landSegment set_id index owner now db = (r, db')) : SpoolMove db db' := by
  rcases Tx.commit_cases h with hok | ⟨rfl, -⟩
  · simp only [Tx.bind_ok, Tx.read_ok, Tx.orElse_ok, Tx.require_ok, Tx.update_ok,
      Tx.pure_ok] at hok
    obtain ⟨_, _, ⟨-, rfl⟩, row, _, ⟨-, rfl⟩, _, _, ⟨-, rfl⟩, n, s₁, hquota, _, _,
      ⟨hn, rfl⟩, -, rfl⟩ := hok
    obtain ⟨-, rfl⟩ := updateQuota_one hquota (of_decide_eq_true hn)
    exact segment_move (SegmentRow.land_key now) (fun r hr => isReservation_state hr) rfl rfl rfl
  · exact .kept rfl rfl rfl

theorem adoptReserved_move {index : Int} {owner : String} :
    SpoolMove db (adoptReserved set_id index owner db).2 := by
  refine segment_move (SegmentRow.adopt_key owner) ?_ rfl rfl rfl
  intro r hr
  exact (of_decide_eq_true (Bool.and_eq_true_iff.mp hr).1).2.2

theorem releaseReserved_move {index : Int} {owner : String} {r : Except OutputStoreError Unit}
    (h : releaseReserved set_id index owner db = (r, db')) : SpoolMove db db' := by
  rcases Tx.commit_cases h with hok | ⟨rfl, -⟩
  · simp only [Tx.bind_ok, Tx.read_ok, Tx.orElse_ok, Tx.require_ok, Tx.delete_ok,
      Tx.pure_ok] at hok
    obtain ⟨_, _, ⟨-, rfl⟩, row, _, ⟨-, rfl⟩, _, _, rfl, n, s₁, hquota, _, _,
      ⟨hn, rfl⟩, -, rfl⟩ := hok
    obtain ⟨-, rfl⟩ := updateQuota_one hquota (of_decide_eq_true hn)
    refine .segment rfl ?_ ?_ rfl
    · intro r hr hstate
      refine Table.mem_deleteWhere.2 ⟨hr, ?_⟩
      cases hpr : isReservation set_id index owner r with
      | false => rfl
      | true => exact absurd (isReservation_state hpr) hstate
    · intro r hr
      exact Or.inl (Table.mem_deleteWhere.1 hr).1
  · exact .kept rfl rfl rfl

theorem reserveSegment_move {spool : OutputSpoolStore} {index start bytes : Int}
    {hash name owner : String} {r : Except OutputStoreError Unit}
    (h : reserveSegment spool set_id index start bytes hash name owner now db = (r, db')) :
    SpoolMove db db' := by
  rcases Tx.commit_cases h with hok | ⟨rfl, -⟩
  · simp only [Tx.bind_ok, Tx.read_ok, Tx.require_ok, Tx.insert_ok, Tx.pure_ok] at hok
    obtain ⟨_, _, ⟨-, rfl⟩, n, s₁, hquota, _, _, ⟨hn, rfl⟩, hmore⟩ := hok
    obtain ⟨assembling, _, ⟨hread, rfl⟩, _, _, ⟨hassembling, rfl⟩, _, _, ⟨-, rfl⟩, hmore⟩ := hmore
    obtain ⟨_, _, ⟨-, rfl⟩, _, _, ⟨-, rfl⟩, _, _, ⟨t, hinsert, rfl⟩, -, rfl⟩ := hmore
    obtain ⟨-, rfl⟩ := updateQuota_one hquota (of_decide_eq_true hn)
    refine .segment rfl ?_ ?_ rfl
    · intro r hr _
      exact (Table.mem_insert hinsert).mpr (Or.inl hr)
    · intro r hr
      rcases (Table.mem_insert hinsert).mp hr with hold | rfl
      · exact Or.inl hold
      · exact Or.inr (Or.inl (hread.trans hassembling))
  · exact .kept rfl rfl rfl

end

/-! ### The statements of a drain -/

section

variable {db db' : Db}

theorem nextClaimable_mem {stale : String} {s : OutputSetRow}
    (h : db.nextClaimable stale = some s) :
    s ∈ db.acpOutputSets.rows ∧ (s.state = .sealed ∨ s.state = .delivering) := by
  have hmem : s ∈ (db.acpOutputSets.rows.filter (OutputSetRow.claimable stale)).insertionSort
      fun a b => a.created_at ≤ b.created_at := List.mem_of_head? h
  rw [List.mem_insertionSort, List.mem_filter] at hmem
  rcases of_decide_eq_true hmem.2 with hsealed | ⟨hdelivering, -⟩
  · exact ⟨hmem.1, Or.inl hsealed⟩
  · exact ⟨hmem.1, Or.inr hdelivering⟩

/-- A claim finds nothing, or takes one set that is sealed or stale. -/
theorem claimNextSet_cases {owner now stale : String}
    {r : Except OutputStoreError (Option ClaimedOutputSet)}
    (h : claimNextSet owner now stale db = (r, db')) :
    (r = .ok none ∧ db' = db) ∨
    ∃ s ∈ db.acpOutputSets.rows, (s.state = .sealed ∨ s.state = .delivering) ∧
      db' = { db with acpOutputSets := db'.acpOutputSets } ∧
      db.acpOutputSets.Puts s.set_id (s.claimed owner now) db'.acpOutputSets ∧
      ∀ set, r = .ok (some set) → ∃ count, s.segment_count = some count ∧
        set = (s.claimed owner now).toClaim owner count := by
  unfold claimNextSet at h
  cases hnext : db.nextClaimable stale with
  | none =>
    rw [hnext] at h
    cases h
    exact Or.inl ⟨rfl, rfl⟩
  | some s =>
    rw [hnext] at h
    obtain ⟨hmem, hstate⟩ := nextClaimable_mem hnext
    cases h
    have hkey : ∀ s : OutputSetRow, (s.claimed owner now).set_id = s.set_id := fun _ => rfl
    have hputs : db.acpOutputSets.Puts s.set_id (s.claimed owner now)
        (db.acpOutputSets.updateWhere (fun r => decide (r.set_id = s.set_id))
          (OutputSetRow.claimed owner now) hkey) :=
      Table.puts_updateWhere (fun r hr => of_decide_eq_true hr) (Table.get_of_mem hmem)
        (decide_eq_true rfl)
    refine Or.inr ⟨s, hmem, hstate, rfl, hputs, ?_⟩
    intro set hset
    cases hcount : s.segment_count with
    | none => simp [OutputSetRow.claimed, hcount] at hset
    | some count =>
      simp only [OutputSetRow.claimed, hcount, Except.ok.injEq, Option.some.injEq] at hset
      exact ⟨count, rfl, hset.symm⟩

theorem holds_set_id {set : ClaimedOutputSet} {s : OutputSetRow} (h : set.holds s = true) :
    s.set_id = set.set_id := (of_decide_eq_true h).1

/-- An acknowledgement moves the cursor of the set under its claim, or finds it elsewhere. -/
theorem acknowledge_cases {set : ClaimedOutputSet} {index : Int} {now : String}
    {r : Except OutputStoreError Bool} (h : acknowledge set index now db = (r, db')) :
    (r = .ok false ∧ db' = db) ∨
    ∃ s ∈ db.acpOutputSets.rows, set.holds s = true ∧ s.acknowledged_cursor = index - 1 ∧
      r = .ok true ∧ db' = { db with acpOutputSets := db'.acpOutputSets } ∧
      db.acpOutputSets.Puts s.set_id (s.acknowledged index
        (if index + 1 = set.segment_count then .delivered else .delivering) now)
        db'.acpOutputSets := by
  have hkey : ∀ s : OutputSetRow, (set.holds s && decide (s.acknowledged_cursor = index - 1)) =
      true → s.set_id = set.set_id :=
    fun s hs => holds_set_id (Bool.and_eq_true_iff.mp hs).1
  cases h
  rcases updateSets_cases (OutputSetRow.acknowledged index
    (if index + 1 = set.segment_count then .delivered else .delivering) now) (fun _ => rfl)
    db hkey with ⟨hno, hsame⟩ | ⟨hone, s, hs, hp, hputs⟩
  · exact Or.inl ⟨congrArg Except.ok (decide_eq_false hno), hsame⟩
  · obtain ⟨hholds, hcursor⟩ := Bool.and_eq_true_iff.mp hp
    exact Or.inr ⟨s, hs, hholds, of_decide_eq_true hcursor,
      congrArg Except.ok (decide_eq_true hone), rfl, hputs⟩

/-- A failure ends the claim it was recorded under, or finds another one. -/
theorem recordFailure_cases {set : ClaimedOutputSet} {permanent : Bool} {limit : Nat}
    {now : String} {r : Except OutputStoreError Bool}
    (h : recordFailure set permanent limit now db = (r, db')) :
    db' = db ∨
    ∃ s ∈ db.acpOutputSets.rows, ∃ state attempt failure, set.holds s = true ∧
      (state = .partial_ ∨ state = .sealed) ∧
      db' = { db with acpOutputSets := db'.acpOutputSets } ∧
      db.acpOutputSets.Puts s.set_id (s.failed state attempt failure now) db'.acpOutputSets := by
  cases h
  rcases updateSets_cases (OutputSetRow.failed
      (if permanent || decide (limit ≤ set.attempt_count + 1) then .partial_ else .sealed)
      (set.attempt_count + 1) (if permanent then some "permanent"
        else if permanent || decide (limit ≤ set.attempt_count + 1) then
          some "attempts_exhausted" else none) now) (fun _ => rfl)
    db (fun s (hs : set.holds s = true) => holds_set_id hs) with ⟨-, hsame⟩ | ⟨-, s, hs, hholds, hputs⟩
  · exact Or.inl hsame
  · refine Or.inr ⟨s, hs, _, _, _, hholds, ?_, rfl, hputs⟩
    by_cases hterminal : (permanent || decide (limit ≤ set.attempt_count + 1)) = true
    · exact Or.inl (if_pos hterminal)
    · exact Or.inr (if_neg hterminal)

end

end GuiguBridge
