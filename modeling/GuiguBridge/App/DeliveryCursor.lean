import GuiguBridge.App.DeliveryInvariant
import GuiguBridge.Reference

/-!
# The delivery cursor

Each thread of the drain relies on `DeliveryRely` and guarantees `DeliveryStep`; so does the rest
of the process.

* `drainOnce_delivers`, `cleanupSet_delivers` — the threads, `writer_step` — the others;
* `delivery_cursor` — **the history of every set in every run**.
-/

namespace GuiguBridge

open Relational Interleave

/-! ### The threads -/

/-- A program of the spool that guarantees `DeliveryStep`, and what holds when it succeeds. -/
abbrev Delivers {α : Type} (Q : α → SpoolWorld × List SpoolEvent → Prop) (m : SpoolM α)
    (c : SpoolWorld × List SpoolEvent) : Prop :=
  Thread.Succeeds DeliveryRely DeliveryStep Q m c

section

variable {α : Type} {Q : α → SpoolWorld × List SpoolEvent → Prop}
  {c : SpoolWorld × List SpoolEvent}

theorem delivers_store {f : Db → Except OutputStoreError α × Db}
    {log : Except OutputStoreError α → List SpoolEvent}
    (h : ∀ c', DeliveryRely c c' →
      DeliveryStep c' (⟨(f c'.1.db).2, c'.1.files⟩, c'.2 ++ log (f c'.1.db).1) ∧
      ∀ a, (f c'.1.db).1 = .ok a →
        Q a (⟨(f c'.1.db).2, c'.1.files⟩, c'.2 ++ log (f c'.1.db).1)) :
    Delivers Q (SpoolM.store f log) c := by
  intro c' hr i
  obtain ⟨hstep, hq⟩ := h c' hr
  cases hanswer : i.answer with
  | ok =>
    simp only [Thread.after, hanswer]
    refine ⟨hstep, ?_⟩
    intro a ha
    refine hq a ?_
    cases hresult : (f c'.1.db).1 with
    | ok b =>
      rw [hresult] at ha
      cases ha
      rfl
    | error e =>
      rw [hresult] at ha
      cases ha
  | failed =>
    simp only [Thread.after, hanswer, List.append_nil]
    exact ⟨quiet_step _, nofun⟩
  | lost =>
    simp only [Thread.after, hanswer]
    exact ⟨hstep, nofun⟩

theorem delivers_file {f : SpoolFiles → Except OutputSpoolError α × SpoolFiles}
    {log : Except OutputSpoolError α → List SpoolEvent}
    (h : ∀ c', DeliveryRely c c' →
      DeliveryStep c' (⟨c'.1.db, (f c'.1.files).2⟩, c'.2 ++ log (f c'.1.files).1) ∧
      ∀ a, (f c'.1.files).1 = .ok a →
        Q a (⟨c'.1.db, (f c'.1.files).2⟩, c'.2 ++ log (f c'.1.files).1)) :
    Delivers Q (SpoolM.file f log) c := by
  intro c' hr i
  obtain ⟨hstep, hq⟩ := h c' hr
  cases hanswer : i.answer with
  | ok =>
    simp only [Thread.after, hanswer]
    exact ⟨hstep, hq⟩
  | failed =>
    simp only [Thread.after, hanswer, List.append_nil]
    exact ⟨quiet_step _, nofun⟩
  | lost =>
    simp only [Thread.after, hanswer]
    exact ⟨hstep, nofun⟩

theorem delivers_require {b : Bool} {e : OutputSpoolError}
    {Q : Unit → SpoolWorld × List SpoolEvent → Prop} (h : b = true → Q () c) :
    Delivers Q (SpoolM.require b e) c := by
  unfold SpoolM.require
  split
  · exact Thread.Succeeds.pure (h ‹_›)
  · exact Thread.Succeeds.throw

theorem delivers_some {o : Option α} {e : OutputSpoolError} (h : ∀ a, o = some a → Q a c) :
    Delivers Q (SpoolM.some? o e) c := by
  cases o with
  | some a => exact Thread.Succeeds.pure (h a rfl)
  | none => exact Thread.Succeeds.throw

/-- The set is sealed for delivery. -/
def Issued (set_id : String) (c : SpoolWorld × List SpoolEvent) : Prop :=
  DeliveryInv c ∧ ∃ s ∈ c.1.db.acpOutputSets.rows, s.set_id = set_id ∧ s.state.issued

theorem Issued.later {set_id : String} (c c' : SpoolWorld × List SpoolEvent)
    (h : Issued set_id c) (hr : DeliveryRely c c') : Issued set_id c' := by
  obtain ⟨hinv, s, hs, hid, hissued⟩ := h
  obtain ⟨hinv', hlater⟩ := hr hinv
  obtain ⟨s', hs', hid', hset⟩ := hlater.sets s hs
  exact ⟨hinv', s', hs', hid'.trans hid, (hset hissued).issued⟩

/-- Reading a file. -/
theorem readExactFile_delivers {set_id name : String} (h : Issued set_id c) :
    Delivers (fun bytes c => Issued set_id c ∧ .read set_id name bytes ∈ c.2)
      (readExactFile set_id name) c := by
  refine delivers_file ?_
  intro c' hr
  have hissued := h.later c c' hr
  obtain ⟨hinv, s, hs, rfl, hstate⟩ := hissued
  cases hread : readExact c'.1.files s.set_id name with
  | error e =>
    simp only [List.append_nil]
    exact ⟨quiet_step _, nofun⟩
  | ok bytes =>
    have hstep : DeliveryStep c' (c'.1, c'.2 ++ [.read s.set_id name bytes]) :=
      read_step hs hstate hread
    refine ⟨hstep, ?_⟩
    intro a ha
    cases ha
    exact ⟨⟨(hstep hinv).1, s, hs, rfl, hstate⟩, List.mem_append.mpr (Or.inr (by simp))⟩

/-- A look at the files that leaves them. -/
theorem delivers_look {set_id : String} {f : SpoolFiles → Except OutputSpoolError α}
    (h : Issued set_id c) :
    Delivers (fun _ c => Issued set_id c) (SpoolM.file fun fs => (f fs, fs)) c := by
  refine delivers_file ?_
  intro c' hr
  simp only [List.append_nil]
  exact ⟨quiet_step _, fun _ _ => h.later c c' hr⟩

variable [Externals] [HashCrates]

omit [Externals] in
theorem readSegment_delivers {segment : OutputSegment} (h : Issued segment.set_id c) :
    Delivers (fun bytes c => Issued segment.set_id c ∧
      .read segment.set_id segment.relative_name bytes ∈ c.2) (readSegment segment) c := by
  refine (readExactFile_delivers h).bind ?_
  intro bytes c hread
  refine (delivers_require (Q := fun _ c => Issued segment.set_id c ∧
    .read segment.set_id segment.relative_name bytes ∈ c.2) fun _ => hread).bind ?_
  intro _ c hread
  exact Thread.Succeeds.pure hread

omit [Externals] in
theorem validateSegmentFiles_delivers {set_id : String} (items : List ManifestSegment) :
    ∀ {index start : Nat} {aggregate : Bytes} {c : SpoolWorld × List SpoolEvent},
      Issued set_id c → Delivers (fun _ c => Issued set_id c)
        (validateSegmentFiles set_id index start aggregate items) c := by
  induction items with
  | nil =>
    intro index start aggregate c h
    exact Thread.Succeeds.pure h
  | cons item rest ih =>
    intro index start aggregate c h
    refine (delivers_require (Q := fun _ c => Issued set_id c) fun _ => h).bind ?_
    intro _ c h
    refine (readExactFile_delivers h).bind ?_
    rintro content c ⟨h, -⟩
    refine (delivers_require (Q := fun _ c => Issued set_id c) fun _ => h).bind ?_
    intro _ c h
    exact ih h

theorem validateManifest_delivers {delivery : PendingDelivery}
    (h : Issued delivery.spool.set_id c) :
    Delivers (fun _ c => Issued delivery.spool.set_id c) (validateManifest delivery) c := by
  refine (readExactFile_delivers h).bind ?_
  rintro bytes c ⟨h, -⟩
  refine (delivers_some (Q := fun _ c => Issued delivery.spool.set_id c) fun _ _ => h).bind ?_
  intro manifest c h
  refine (delivers_require (Q := fun _ c => Issued delivery.spool.set_id c) fun _ => h).bind ?_
  intro _ c h
  have htree : Delivers (fun _ c => Issued delivery.spool.set_id c)
      (validateTree delivery.spool.set_id manifest) c := by
    refine (delivers_look h).bind ?_
    intro names c h
    refine (delivers_require (Q := fun _ c => Issued delivery.spool.set_id c) fun _ => h).bind ?_
    intro _ c h
    refine (validateSegmentFiles_delivers manifest.segments h).bind ?_
    rintro ⟨start, aggregate⟩ c h
    exact delivers_require fun _ => h
  refine htree.bind ?_
  intro _ c h
  refine (delivers_some (Q := fun _ c => Issued delivery.spool.set_id c) fun _ _ => h).bind ?_
  intro item c h
  exact delivers_require fun _ => h

/-- **What a drain has read is a slice of what it read of the segment's file.** -/
theorem readDelivery_delivers {delivery : PendingDelivery} (h : Issued delivery.spool.set_id c) :
    Delivers (fun body c => ∃ bytes,
      .read delivery.spool.set_id delivery.spool.relative_name bytes ∈ c.2 ∧
        partSlice delivery.part delivery.spool bytes = some body) (readDelivery delivery) c := by
  refine (validateManifest_delivers h).bind ?_
  intro _ c h
  refine (readSegment_delivers h).bind ?_
  rintro bytes c ⟨-, hread⟩
  refine (delivers_some (Q := fun body c =>
    .read delivery.spool.set_id delivery.spool.relative_name bytes ∈ c.2 ∧
      partSlice delivery.part delivery.spool bytes = some body)
    fun body hbody => ⟨hread, hbody⟩).bind ?_
  rintro body c hsource
  refine (delivers_require (Q := fun _ c =>
    .read delivery.spool.set_id delivery.spool.relative_name bytes ∈ c.2 ∧
      partSlice delivery.part delivery.spool bytes = some body) fun _ => hsource).bind ?_
  rintro _ c hsource
  exact Thread.Succeeds.pure ⟨bytes, hsource⟩

end

/-! ### Cleaning up -/

section

variable {c : SpoolWorld × List SpoolEvent} {set_id now : String}

/-- The set is being cleaned, or was. -/
def Gone (set_id : String) (c : SpoolWorld × List SpoolEvent) : Prop :=
  DeliveryInv c ∧ ∃ s ∈ c.1.db.acpOutputSets.rows, s.set_id = set_id ∧ s.state.gone

theorem SetState.issued_of_gone {s : SetState} (h : s.gone) : s.issued := Or.inr (Or.inr h)

theorem Gone.later (c c' : SpoolWorld × List SpoolEvent) (h : Gone set_id c)
    (hr : DeliveryRely c c') : Gone set_id c' := by
  obtain ⟨hinv, s, hs, hid, hgone⟩ := h
  obtain ⟨hinv', hlater⟩ := hr hinv
  obtain ⟨s', hs', hid', hset⟩ := hlater.sets s hs
  exact ⟨hinv', s', hs', hid'.trans hid, (hset (SetState.issued_of_gone hgone)).gone hgone⟩

/-- Files of a set that is being cleaned go. -/
theorem Gone.files_step {files' : SpoolFiles} (h : Gone set_id c)
    (hothers : ∀ k, k ≠ set_id → files'.get k = c.1.files.get k)
    (hfiles : ∀ name e, files'.file set_id name = some e → c.1.files.file set_id name = some e) :
    DeliveryStep c (⟨c.1.db, files'⟩, c.2) := by
  obtain ⟨-, s, hs, hid, hgone⟩ := h
  refine GuiguBridge.files_step set_id ?_ hothers fun _ _ _ _ => hfiles
  intro t ht htid _
  rw [Table.eq_of_key_eq _ ht hs (htid.trans hid.symm)]
  exact hgone

theorem get_modify (fs : SpoolFiles) (f : Table FileEntry.name → Table FileEntry.name)
    (k : String) :
    (fs.modify set_id f).get k =
      if k = set_id then (fs.get k).map fun d => { d with files := f d.files }
      else fs.get k := by
  have hkey : ∀ d : SetDir, ({ d with files := f d.files } : SetDir).set_id = d.set_id :=
    fun _ => rfl
  unfold SpoolFiles.modify
  rw [Table.get_updateWhere]
  cases hd : fs.get k with
  | none => simp
  | some d =>
    have hid : d.set_id = k := Table.key_of_get hd
    by_cases hk : k = set_id
    · simp [hid, hk]
    · simp [hid, hk]

theorem removeFile_delivers {name : String} (h : Gone set_id c) :
    Delivers (fun _ c => Gone set_id c) (removeFile set_id name) c := by
  refine delivers_file ?_
  intro c' hr
  have hgone := h.later c c' hr
  simp only [List.append_nil]
  have hstep : DeliveryStep c' (⟨c'.1.db, c'.1.files.modify set_id fun t =>
      t.deleteWhere fun e => decide (e.name = name)⟩, c'.2) := by
    refine hgone.files_step ?_ ?_
    · intro k hk
      rw [get_modify, if_neg hk]
    · intro name' e he
      unfold SpoolFiles.file at he ⊢
      rw [get_modify, if_pos rfl] at he
      cases hd : c'.1.files.get set_id with
      | none =>
        rw [hd] at he
        cases he
      | some d =>
        rw [hd] at he
        have he : (d.files.deleteWhere fun e => decide (e.name = name)).get name' = some e := he
        have hmem := (Table.mem_deleteWhere.1 (Table.mem_of_get he)).1
        have hname : e.name = name' := Table.key_of_get he
        show d.files.get name' = some e
        rw [← hname]
        exact Table.get_of_mem hmem
  exact ⟨hstep, fun _ _ => hgone.later _ _ hstep.rely⟩

theorem removeFiles_delivers (names : List String) :
    ∀ {c : SpoolWorld × List SpoolEvent}, Gone set_id c →
      Delivers (fun _ c => Gone set_id c) (removeFiles set_id names) c := by
  induction names with
  | nil =>
    intro c h
    exact Thread.Succeeds.pure h
  | cons name rest ih =>
    intro c h
    refine (removeFile_delivers h).bind ?_
    intro _ c h
    exact ih h

theorem get_deleteDir (fs : SpoolFiles) (k : String) :
    (fs.deleteWhere fun d => decide (d.set_id = set_id)).get k =
      if k = set_id then none else fs.get k := by
  by_cases hk : k = set_id
  · rw [if_pos hk, Table.get_eq_none_iff]
    intro d hd hid
    have hne := of_decide_eq_false (Table.mem_deleteWhere.1 hd).2
    exact hne (hid.trans hk)
  · rw [if_neg hk]
    cases hd : fs.get k with
    | none =>
      rw [Table.get_eq_none_iff] at hd ⊢
      intro d hdel
      exact hd d (Table.mem_deleteWhere.1 hdel).1
    | some d =>
      have hid : d.set_id = k := Table.key_of_get hd
      refine (Table.get_eq_some_iff _ _ _).mpr ⟨Table.mem_deleteWhere.2 ⟨?_, ?_⟩, hid⟩
      · exact Table.mem_of_get hd
      · exact decide_eq_false (by rw [hid]; exact hk)

theorem removeDir_delivers (h : Gone set_id c) :
    Delivers (fun _ c => Gone set_id c) (removeDir set_id) c := by
  refine delivers_file ?_
  intro c' hr
  have hgone := h.later c c' hr
  simp only [List.append_nil]
  cases hd : c'.1.files.get set_id with
  | none => exact ⟨quiet_step _, fun _ _ => hgone⟩
  | some d =>
    by_cases hempty : d.files.rows = []
    · simp only [hempty, if_true]
      have hstep : DeliveryStep c' (⟨c'.1.db, c'.1.files.deleteWhere fun d =>
          decide (d.set_id = set_id)⟩, c'.2) := by
        refine hgone.files_step ?_ ?_
        · intro k hk
          rw [get_deleteDir, if_neg hk]
        · intro name e he
          unfold SpoolFiles.file at he
          rw [get_deleteDir, if_pos rfl] at he
          cases he
      exact ⟨hstep, fun _ _ => hgone.later _ _ hstep.rely⟩
    · simp only [hempty, if_false]
      exact ⟨quiet_step _, by simp⟩

/-- A look at the files of a set that is being cleaned. -/
theorem delivers_look_gone {α : Type} {f : SpoolFiles → Except OutputSpoolError α}
    (h : Gone set_id c) :
    Delivers (fun _ c => Gone set_id c) (SpoolM.file fun fs => (f fs, fs)) c := by
  refine delivers_file ?_
  intro c' hr
  simp only [List.append_nil]
  exact ⟨quiet_step _, fun _ _ => h.later c c' hr⟩

theorem cleanup_delivers {segments : List OutputSegment} (h : Gone set_id c) :
    Delivers (fun _ c => Gone set_id c) (cleanup set_id segments) c := by
  refine (delivers_look_gone (f := fun fs => .ok (fs.get set_id).isSome) h).bind ?_
  intro dir_exists c h
  cases dir_exists with
  | false => exact Thread.Succeeds.pure h
  | true =>
    refine (delivers_look_gone h).bind ?_
    intro _ c h
    refine (removeFiles_delivers _ h).bind ?_
    intro _ c h
    refine (removeFile_delivers h).bind ?_
    intro _ c h
    exact removeDir_delivers h

/-- The set after `begin_cleanup`. -/
theorem beginCleanup_gone {db db' : Db} {segments : List OutputSegment}
    (h : beginCleanup set_id now db = (.ok segments, db')) :
    ∃ s ∈ db'.acpOutputSets.rows, s.set_id = set_id ∧ s.state.gone := by
  rcases Tx.commit_cases h with hok | ⟨-, e, -, he⟩
  · simp only [Tx.bind_ok, Tx.read_ok, Tx.update_ok, Tx.require_ok, Tx.pure_ok] at hok
    obtain ⟨n, _, ⟨hn, rfl⟩, _, _, ⟨hone, rfl⟩, _, _, ⟨-, rfl⟩, -, rfl⟩ := hok
    obtain ⟨set, hget, hp⟩ := (Table.affected_eq_one_iff (k := set_id)
      (fun r hp => (of_decide_eq_true hp).1)).mp (hn.trans (of_decide_eq_true hone))
    have hid : set.set_id = set_id := Table.key_of_get hget
    refine ⟨{ set with state := .cleaning, claim_revision := set.claim_revision + 1,
                       updated_at := now }, ?_, hid, Or.inl rfl⟩
    dsimp only
    rw [Table.mem_updateWhere]
    exact Or.inl ⟨set, Table.mem_of_get hget, hp, rfl⟩
  · cases he

theorem cleanupSet_delivers (h : DeliveryInv c) :
    Delivers (fun _ c => DeliveryInv c) (cleanupSet set_id now) c := by
  have hbegin : Delivers (fun _ c => Gone set_id c) (SpoolM.store (beginCleanup set_id now)) c := by
    refine delivers_store ?_
    intro c' hr
    obtain ⟨hinv, -⟩ := hr h
    obtain ⟨⟨r, db'⟩, hcall⟩ : ∃ r, beginCleanup set_id now c'.1.db = r := ⟨_, rfl⟩
    rw [hcall]
    simp only [List.append_nil]
    have hstep : DeliveryStep c' (⟨db', c'.1.files⟩, c'.2) :=
      (beginCleanup_move hcall).deliveryStep
    refine ⟨hstep, ?_⟩
    rintro segments rfl
    exact ⟨(hstep hinv).1, beginCleanup_gone hcall⟩
  refine hbegin.bind ?_
  intro segments c h
  refine (cleanup_delivers h).bind ?_
  rintro _ c ⟨hinv, -⟩
  refine delivers_store ?_
  intro c' hr
  obtain ⟨hinv', -⟩ := hr hinv
  have hstep : DeliveryStep c' (⟨(finishCleanup set_id now c'.1.db).2, c'.1.files⟩, c'.2 ++ []) := by
    rw [List.append_nil]
    exact (finishCleanup_move rfl).deliveryStep
  exact ⟨hstep, fun _ _ => (hstep hinv').1⟩

end

/-! ### Delivering -/

section

variable {c : SpoolWorld × List SpoolEvent}

/-- What a drain knows of the set it claimed. -/
def Held (set : ClaimedOutputSet) (c : SpoolWorld × List SpoolEvent) : Prop :=
  DeliveryInv c ∧ -1 ≤ set.acknowledged_cursor ∧
    ∃ s ∈ c.1.db.acpOutputSets.rows, s.set_id = set.set_id ∧ s.state.issued ∧
      s.segment_count = some set.segment_count ∧
      set.acknowledged_cursor ≤ s.acknowledged_cursor

theorem Held.later {set : ClaimedOutputSet} (c c' : SpoolWorld × List SpoolEvent)
    (h : Held set c) (hr : DeliveryRely c c') : Held set c' := by
  obtain ⟨hinv, hle, s, hs, hid, hissued, hcount, hcursor⟩ := h
  obtain ⟨hinv', hlater⟩ := hr hinv
  obtain ⟨s', hs', hid', hset⟩ := hlater.sets s hs
  have hset := hset hissued
  exact ⟨hinv', hle, s', hs', hid'.trans hid, hset.issued, hset.segment_count.trans hcount,
    Int.le_trans hcursor hset.cursor⟩

theorem Held.issued {set : ClaimedOutputSet} (h : Held set c) : Issued set.set_id c := by
  obtain ⟨hinv, -, s, hs, hid, hissued, -⟩ := h
  exact ⟨hinv, s, hs, hid, hissued⟩

/-- What a drain knows of the part it is about to deliver. -/
def PartHeld (set : ClaimedOutputSet) (delivery : PendingDelivery)
    (c : SpoolWorld × List SpoolEvent) : Prop :=
  Held set c ∧ ∃ d ∈ c.1.db.acpOutputDeliverySegments.rows,
    d.key = (set.set_id, set.acknowledged_cursor + 1) ∧ d.toPart = delivery.part ∧
    ∃ r ∈ c.1.db.acpOutputSegments.rows, r.set_id = set.set_id ∧
      (r.segment_index : Int) = d.spool_index ∧ r.isSegment delivery.spool

theorem SegmentRow.isSegment_of_content {r r' : SegmentRow} {segment : OutputSegment}
    (h : r.isSegment segment) (hcontent : r'.content = r.content) : r'.isSegment segment := by
  simp only [SegmentRow.content, Prod.mk.injEq] at hcontent
  obtain ⟨hset, hindex, hstart, hlength, hhash, hname⟩ := hcontent
  obtain ⟨h₁, h₂, h₃, h₄, h₅, h₆⟩ := h
  refine ⟨h₁.trans hset.symm, h₂.trans hindex.symm, h₃.trans hstart.symm, ?_,
    h₅.trans hhash.symm, h₆.trans hname.symm⟩
  rw [h₄, SegmentRow.byte_end, SegmentRow.byte_end, hstart, hlength]

theorem PartHeld.later {set : ClaimedOutputSet} {delivery : PendingDelivery}
    (c c' : SpoolWorld × List SpoolEvent) (h : PartHeld set delivery c)
    (hr : DeliveryRely c c') : PartHeld set delivery c' := by
  obtain ⟨hheld, d, hd, hkey, hpart, r, hr', hid, hindex, hsegment⟩ := h
  refine ⟨hheld.later c c' hr, ?_⟩
  obtain ⟨hinv, s, hs, hsid, hissued⟩ := hheld.issued
  obtain ⟨-, hlater⟩ := hr hinv
  obtain ⟨r₁, hr₁, hcontent⟩ := hlater.segments s hs hissued r hr' (hid.trans hsid.symm)
  have hset : r₁.set_id = r.set_id := congrArg Prod.fst hcontent
  have hindex' : r₁.segment_index = r.segment_index := congrArg (fun p => p.2.1) hcontent
  exact ⟨d, hlater.parts d hd, hkey, hpart, r₁, hr₁, hset.trans hid, by omega,
    SegmentRow.isSegment_of_content hsegment hcontent⟩

/-- The part follows the cursor of the claim. -/
theorem PartHeld.index {set : ClaimedOutputSet} {delivery : PendingDelivery}
    (h : PartHeld set delivery c) : delivery.part.index = set.acknowledged_cursor + 1 := by
  obtain ⟨-, d, -, hkey, hpart, -⟩ := h
  rw [← hpart]
  exact congrArg Prod.snd hkey

theorem PartHeld.spool {set : ClaimedOutputSet} {delivery : PendingDelivery}
    (h : PartHeld set delivery c) : delivery.spool.set_id = set.set_id := by
  obtain ⟨-, d, -, -, -, r, -, hid, -, hsegment⟩ := h
  exact hsegment.1.trans hid

theorem decodeSegment_isSegment (r : SegmentRow) : r.isSegment (decodeSegment r) :=
  ⟨rfl, rfl, rfl, rfl, rfl, rfl⟩

/-- Looking for the next part. -/
theorem nextSegment_delivers {set : ClaimedOutputSet} (h : Held set c) :
    Delivers (fun found c => match found with
      | none => True
      | some delivery => PartHeld set delivery c)
      (SpoolM.store fun db => (nextSegment set db, db)) c := by
  refine delivers_store ?_
  intro c' hr
  have hheld := h.later c c' hr
  simp only [List.append_nil]
  refine ⟨quiet_step _, ?_⟩
  intro found hfound
  cases found with
  | none => trivial
  | some delivery =>
    unfold nextSegment at hfound
    split at hfound
    · cases hfound
    · rename_i d hd
      split at hfound
      · rename_i s o hs ho
        split at hfound
        · cases hfound
          have hrow := List.mem_of_find?_eq_some hs
          have hfound := List.find?_some hs
          obtain ⟨hid, hindex, -⟩ := of_decide_eq_true hfound
          exact ⟨hheld, d, Table.mem_of_get hd, Table.key_of_get hd, rfl, s, hrow, hid, hindex,
            decodeSegment_isSegment s⟩
        · cases hfound
      · cases hfound

/-- **A drain sends a part only when the one before it was acknowledged**, and the bytes that
it read. -/
theorem sendDurable_delivers {set : ClaimedOutputSet} {delivery : PendingDelivery} {body : Bytes}
    (h : PartHeld set delivery c)
    (hbody : ∃ bytes, .read delivery.spool.set_id delivery.spool.relative_name bytes ∈ c.2 ∧
      partSlice delivery.part delivery.spool bytes = some body) :
    Delivers (fun _ c => PartHeld set delivery c) (sendDurable set delivery.part body) c := by
  intro c' hr i
  have hpart := h.later c c' hr
  have hindex := hpart.index
  obtain ⟨hheld, d, hd, hkey, htoPart, r, hrow, hid, hseg, hsegment⟩ := hpart
  obtain ⟨hinv, hle, s, hs, hsid, hissued, hcount, hcursor⟩ := hheld
  obtain ⟨hinv₀, -⟩ := h.1
  obtain ⟨new, hnew⟩ := (hr hinv₀).2.log
  obtain ⟨bytes, hread, hslice⟩ := hbody
  have hspool : delivery.spool.set_id = set.set_id := hsegment.1.trans hid
  have hname : delivery.spool.relative_name = r.relative_name := hsegment.2.2.2.2.2
  have hstep : DeliveryStep c' (c'.1, c'.2 ++ [.sent set.set_id delivery.part body]) := by
    refine sent_step ⟨d, hd, congrArg Prod.fst hkey, htoPart, r, hrow, hid, ?_,
      delivery.spool, bytes, hsegment, ?_, hslice⟩ ?_
    · rw [hseg, ← htoPart]
      rfl
    · rw [← hspool, ← hname, hnew]
      exact List.mem_append.mpr (Or.inl hread)
    · intro hpositive
      have hacks := hinv.acks s hs (delivery.part.index - 1)
      rw [hsid] at hacks
      exact hacks.mpr ⟨by omega, by omega⟩
  refine ⟨hstep, ?_⟩
  rintro a -
  exact (h.later c c' hr).later _ _ hstep.rely

/-- **Acknowledging a part.** -/
theorem acknowledgePart_delivers {set : ClaimedOutputSet} {delivery : PendingDelivery}
    {now : String} (h : PartHeld set delivery c) :
    Delivers (fun acked c => acked = true →
      Held { set with acknowledged_cursor := delivery.part.index } c)
      (acknowledgePart set delivery.part.index now) c := by
  refine delivers_store ?_
  intro c' hr
  have hpart := h.later c c' hr
  have hindex := hpart.index
  obtain ⟨hinv, hle, s, hs, hsid, hissued, hcount, hcursor⟩ := hpart.1
  obtain ⟨⟨r, db'⟩, hcall⟩ : ∃ r, acknowledge set delivery.part.index now c'.1.db = r := ⟨_, rfl⟩
  rw [hcall]
  rcases acknowledge_cases hcall with ⟨rfl, rfl⟩ | ⟨t, ht, hholds, hbefore, rfl, hframe, hputs⟩
  · simp only [Except.ok.injEq, Bool.false_eq_true, if_false, List.append_nil]
    exact ⟨quiet_step _, by rintro a rfl ⟨⟩⟩
  · have hsame : t = s := Table.eq_of_key_eq _ ht hs ((holds_set_id hholds).trans hsid.symm)
    subst hsame
    simp only [if_true]
    have hstep : DeliveryStep c' (⟨db', c'.1.files⟩, c'.2 ++ [.acked set.set_id
        delivery.part.index set.claim_owner set.claim_revision]) :=
      acked_step hcount rfl hs hholds hbefore rfl hputs hframe
    refine ⟨hstep, ?_⟩
    rintro a - -
    obtain ⟨hinv', hlater, -⟩ := hstep hinv
    have hnow := hputs t.set_id
    rw [if_pos rfl] at hnow
    have hmem := Table.mem_of_get hnow
    have hedge : SetEdge t (t.acknowledged delivery.part.index (if delivery.part.index + 1 =
        set.segment_count then .delivered else .delivering) now) :=
      .acknowledged set _ _ now hholds hbefore rfl
    refine ⟨hinv', ?_, _, hmem, hsid, (hedge.later hissued).issued, hcount, Int.le_refl _⟩
    show -1 ≤ delivery.part.index
    omega

/-- A statement that is one move of the spool, and after which nothing need be known. -/
theorem delivers_move {α : Type} {f : Db → Except OutputStoreError α × Db}
    (h : ∀ db, SpoolMove db (f db).2) (hinv : DeliveryInv c) :
    Delivers (fun _ c => DeliveryInv c) (SpoolM.store f) c := by
  refine delivers_store ?_
  intro c' hr
  have hstep : DeliveryStep c' (⟨(f c'.1.db).2, c'.1.files⟩, c'.2 ++ []) := by
    rw [List.append_nil]
    exact (h c'.1.db).deliveryStep
  exact ⟨hstep, fun _ _ => (hstep (hr hinv).1).1⟩

theorem recordFailure_move {set : ClaimedOutputSet} {permanent : Bool} {limit : Nat}
    {now : String} (db : Db) : SpoolMove db (recordFailure set permanent limit now db).2 := by
  obtain ⟨⟨r, db'⟩, hcall⟩ : ∃ r, recordFailure set permanent limit now db = r := ⟨_, rfl⟩
  rw [hcall]
  rcases recordFailure_cases hcall with rfl |
    ⟨s, hs, state, attempt, failure, hholds, hstate, hframe, hputs⟩
  · exact .kept rfl rfl rfl
  · refine .edge s _ hs (.failed set state attempt failure now hholds hstate) ?_ rfl hputs
      (by rw [hframe]) (by rw [hframe])
    rcases hstate with rfl | rfl <;> exact ⟨nofun, nofun⟩

variable [Externals] [HashCrates]

/-- **The loop of a drain.** -/
theorem deliverParts_delivers {limit : Nat} {now : String} (rounds : Nat) :
    ∀ {set : ClaimedOutputSet} {c : SpoolWorld × List SpoolEvent}, Held set c →
      Delivers (fun _ _ => True) (deliverParts limit now rounds set) c := by
  induction rounds with
  | zero =>
    intro set c _
    exact Thread.Succeeds.throw
  | succ rounds ih =>
    intro set c h
    refine (nextSegment_delivers h).bind ?_
    intro found c hfound
    cases found with
    | none => exact Thread.Succeeds.throw
    | some delivery =>
      have hissued : Issued delivery.spool.set_id c := by
        rw [hfound.spool]
        exact hfound.1.issued
      refine ((readDelivery_delivers hissued).frame (PartHeld.later)
        (fun _ _ => DeliveryStep.rely) hfound).bind ?_
      rintro body c hbody
      refine (delivers_some (Q := fun _ c => (∃ bytes, .read delivery.spool.set_id
        delivery.spool.relative_name bytes ∈ c.2 ∧
          partSlice delivery.part delivery.spool bytes = some body) ∧ PartHeld set delivery c)
        fun _ _ => hbody).bind ?_
      rintro _ c ⟨hsource, hpart⟩
      refine (sendDurable_delivers hpart hsource).bind ?_
      intro outcome c hpart
      cases outcome with
      | error error =>
        refine (delivers_move recordFailure_move hpart.1.1).bind ?_
        intro _ c _
        exact Thread.Succeeds.pure trivial
      | ok _ =>
        refine (acknowledgePart_delivers hpart).bind ?_
        intro acked c hacked
        refine (delivers_require (Q := fun _ c =>
          Held { set with acknowledged_cursor := delivery.part.index } c) hacked).bind ?_
        intro _ c hheld
        split
        · refine (cleanupSet_delivers hheld.1).bind ?_
          intro _ c _
          exact Thread.Succeeds.pure trivial
        · exact ih hheld

/-- **A drain, from its start.** -/
theorem drainOnce_delivers {owner now stale : String} {limit rounds : Nat}
    (hinv : DeliveryInv c) :
    Delivers (fun _ _ => True) (drainOnce owner now stale limit rounds) c := by
  have hclaim : Delivers (fun claimed c => ∀ set, claimed = some set → Held set c)
      (SpoolM.store (claimNextSet owner now stale)) c := by
    refine delivers_store ?_
    intro c' hr
    obtain ⟨hinv', -⟩ := hr hinv
    obtain ⟨⟨r, db'⟩, hcall⟩ : ∃ r, claimNextSet owner now stale c'.1.db = r := ⟨_, rfl⟩
    rw [hcall]
    simp only [List.append_nil]
    rcases claimNextSet_cases hcall with ⟨rfl, rfl⟩ | ⟨s, hs, hstate, hframe, hputs, hset⟩
    · exact ⟨quiet_step _, by rintro a ⟨⟩ set ⟨⟩⟩
    · have hissued : s.state.issued := by
        rcases hstate with hstate | hstate
        · exact Or.inl (Or.inl hstate)
        · exact Or.inl (Or.inr (Or.inl hstate))
      have hedge : SetEdge s (s.claimed owner now) := .claimed owner now hstate
      have hstep : DeliveryStep c' (⟨db', c'.1.files⟩, c'.2) :=
        edge_step hs hedge nofun rfl hputs (by rw [hframe]) (by rw [hframe])
      refine ⟨hstep, ?_⟩
      rintro claimed hclaimed set rfl
      obtain ⟨count, hcount, rfl⟩ := hset set hclaimed
      obtain ⟨-, -, hle, -⟩ : ∃ count, Parts c'.1.db.acpOutputDeliverySegments s count ∧
          -1 ≤ s.acknowledged_cursor ∧ s.acknowledged_cursor + 1 < count := by
        refine (hinv'.cursor s hs).opened ?_
        rcases hstate with hstate | hstate
        · exact Or.inl hstate
        · exact Or.inr (Or.inl hstate)
      have hnow := hputs s.set_id
      rw [if_pos rfl] at hnow
      exact ⟨(hstep hinv').1, hle, _, Table.mem_of_get hnow, rfl, (hedge.later hissued).issued,
        hcount, Int.le_refl _⟩
  refine hclaim.bind ?_
  intro claimed c hheld
  cases claimed with
  | none => exact Thread.Succeeds.pure trivial
  | some set => exact deliverParts_delivers rounds (hheld set rfl)

end

/-! ### The writers -/

section

variable [Externals] (spool : OutputSpoolStore)

/-- A call of publishers or of recovery is one move of the spool. -/
theorem spoolStep_move (db : Db) (call : SpoolCall) (hplain : call.plain = true) :
    SpoolMove db (spoolStep spool db call).2 := by
  cases call with
  | prepareTask seen late task_id now => exact prepareTask_move rfl
  | reserveSegment set_id index start bytes hash name owner now => exact reserveSegment_move rfl
  | landSegment set_id index owner now => exact landSegment_move rfl
  | releaseReserved set_id index owner => exact releaseReserved_move rfl
  | adoptReserved set_id index owner => exact adoptReserved_move
  | sealSet set_id total_bytes total_hash count deliveries now => cases hplain
  | abandon set_id now => exact abandon_move rfl
  | finishAbandon set_id now => cases hplain
  | activatePrepared set_id now => exact activatePrepared_move
  | beginCleanup set_id now => exact beginCleanup_move rfl
  | finishCleanup set_id now => exact finishCleanup_move rfl
  | refused => exact .kept rfl rfl rfl
  | elsewhere other => cases hplain

/-- A terminal closure seals a prepared set, or opens one. -/
theorem finalizeTerminal_move {seen db db' : Db} {lease : Lease} {revision : Nat}
    {generation : String} {state : ContinuationState} {observed_bytes : Nat} {event : TaskEvent}
    {now : DateTime} {r : Except RuntimeError FinalizeResult}
    (h : finalizeTerminal seen lease revision generation state observed_bytes event now db =
      (r, db')) : SpoolMove db db' := by
  rcases finalizeTerminal_finalized h with ⟨rfl, -⟩ | ⟨-, hfinalized⟩
  · exact .kept rfl rfl rfl
  · obtain ⟨a, task, -, -, -, hsets, -⟩ := hfinalized.rooms
    have hframe := hfinalized.frame
    have hsegments : db'.acpOutputSegments = db.acpOutputSegments := by rw [hframe]
    have hparts : db'.acpOutputDeliverySegments = db.acpOutputDeliverySegments := by rw [hframe]
    unfold replySets at hsets
    split at hsets
    · cases hsets with
      | sealed set hmem _ _ hstate hputs =>
        exact .edge set _ hmem (.sealed (ts now) hstate) ⟨nofun, nofun⟩ rfl hputs hsegments hparts
      | already set _ _ _ _ hsame => exact .kept hsame hsegments hparts
      | created c d hinsert => exact .opened _ rfl rfl hinsert hsegments hparts
      | opened set _ _ _ hsame => exact .kept hsame hsegments hparts
    · exact .kept hsets hsegments hparts

omit [Externals] in
theorem setIn_mem {db : Db} {set_id : String} {states : List SetState}
    (h : db.setIn set_id states = true) :
    ∃ s ∈ db.acpOutputSets.rows, s.set_id = set_id ∧ s.state ∈ states := by
  unfold Db.setIn at h
  cases hs : db.acpOutputSets.get set_id with
  | none =>
    rw [hs] at h
    cases h
  | some s =>
    rw [hs] at h
    exact ⟨s, Table.mem_of_get hs, Table.key_of_get hs, of_decide_eq_true h⟩

omit [Externals] in
theorem get_replace (fs : SpoolFiles) (dir : SetDir) (k : String) (hk : k ≠ dir.set_id) :
    (fs.replace dir).get k = fs.get k := by
  unfold SpoolFiles.replace
  cases hinsert : (fs.deleteWhere fun d => decide (d.set_id = dir.set_id)).insert dir with
  | none => rfl
  | some fs' =>
    have hput := (Table.insert_puts hinsert).2 k
    rw [if_neg hk, get_deleteDir, if_neg hk] at hput
    exact hput

/-- **The rest of the process guarantees what the drains rely on.** -/
theorem writer_step (writer : OutputWriter) (w : SpoolWorld) (log : List SpoolEvent) :
    DeliveryStep (w, log) (writer.write spool w, log) := by
  cases writer with
  | spool call hplain => exact (spoolStep_move spool w.db call hplain).deliveryStep
  | sealSet set_id total_bytes total_hash deliveries hparts now =>
    exact (sealSet_move hparts rfl).deliveryStep
  | finishAbandon set_id now =>
    by_cases hin : w.db.setIn set_id [.abandoned] = true
    · simp only [OutputWriter.write, hin, if_true]
      obtain ⟨s, hs, rfl, hstate⟩ := setIn_mem hin
      exact (finishAbandon_move hs (List.mem_singleton.mp hstate) rfl).deliveryStep
    · simp only [OutputWriter.write, hin, if_false, Bool.false_eq_true]
      exact quiet_step _
  | finalizeTerminal seen lease revision generation state observed_bytes event now =>
    exact (finalizeTerminal_move rfl).deliveryStep
  | files dir =>
    by_cases hin : w.db.setIn dir.set_id [.assembling, .abandoned] = true
    · simp only [OutputWriter.write, hin, if_true]
      obtain ⟨s, hs, hid, hstate⟩ := setIn_mem hin
      -- the set is not sealed for delivery
      have hno : ∀ t ∈ w.db.acpOutputSets.rows, t.set_id = dir.set_id → ¬ t.state.issued := by
        intro t ht htid hissued
        rw [Table.eq_of_key_eq _ ht hs (htid.trans hid.symm)] at hissued
        simp only [List.mem_cons, List.not_mem_nil, or_false] at hstate
        rcases hstate with h | h <;> rw [h] at hissued <;>
          rcases hissued with (h | h | h) | (h | h | h) <;> cases h
      refine files_step dir.set_id ?_ ?_ ?_
      · exact fun t ht htid hissued => absurd hissued (hno t ht htid)
      · exact fun k hk => get_replace w.files dir k hk
      · exact fun t ht htid hissued => absurd hissued (hno t ht htid)
    · simp only [OutputWriter.write, hin, if_false, Bool.false_eq_true]
      exact quiet_step _
  | elsewhere other =>
    have hmove : SpoolMove w.db ((OutputWriter.elsewhere other).write spool w).db :=
      .kept rfl rfl rfl
    exact hmove.deliveryStep

end

/-! ### Every run -/

section

variable [Externals] [HashCrates] (spool : OutputSpoolStore)

omit [Externals] [HashCrates] in
theorem deliveryInv_empty : DeliveryInv (⟨Db.empty, Table.empty⟩, []) where
  owned d hd := absurd hd List.not_mem_nil
  cursor s hs := absurd hs List.not_mem_nil
  landed s hs := absurd hs List.not_mem_nil
  acks s hs := absurd hs List.not_mem_nil
  acked_set := by
    rintro set_id i ⟨owner, revision, h⟩
    exact absurd h List.not_mem_nil
  reads _ _ _ h := absurd h List.not_mem_nil
  sent _ _ _ h := absurd h List.not_mem_nil
  order := by
    intro before set_id part body after h
    exact absurd h.symm (List.append_ne_nil_of_right_ne_nil before (List.cons_ne_nil _ _))

theorem DrainThread.delivers {t : Thread SpoolWorld SpoolInput SpoolEvent
    (Except OutputSpoolError Nat)} (h : DrainThread t) {c : SpoolWorld × List SpoolEvent}
    (hinv : DeliveryInv c) : t.Keeps DeliveryRely DeliveryStep (fun _ _ => True) c := by
  cases h with
  | drain owner now stale limit rounds =>
    exact Thread.Keeps.imp (fun _ _ _ => trivial) (drainOnce_delivers hinv)
  | recover set_id now =>
    have hrecover : Delivers (fun _ _ => True) (recoverSet set_id now) c := by
      refine (cleanupSet_delivers hinv).bind ?_
      intro _ c _
      exact Thread.Succeeds.pure trivial
    exact Thread.Keeps.imp (fun _ _ _ => trivial) hrecover

variable {spool} {moves : DrainMoves}

theorem drainsAt_inv (hthreads : ∀ t, .start t ∈ moves → DrainThread t) (n : Nat) :
    DeliveryInv (drainsAt spool moves n) :=
  (threads_invariant deliveryRely_refl deliveryRely_trans (fun _ _ hr h => (hr h).1)
    (fun _ _ _ h => h.rely) (fun writer w log _ => (writer_step spool writer w log).rely)
    deliveryInv_empty (fun t ht _ => (hthreads t ht).delivers) n).1

theorem drainsAt_later (hthreads : ∀ t, .start t ∈ moves → DrainThread t) {n m : Nat}
    (h : n ≤ m) : DeliveryLater (drainsAt spool moves n) (drainsAt spool moves m) :=
  (threads_run deliveryRely_refl deliveryRely_trans (fun _ _ hr h => (hr h).1)
    (fun _ _ _ h => h.rely) (fun writer w log _ => (writer_step spool writer w log).rely)
    deliveryInv_empty (fun t ht _ => (hthreads t ht).delivers) h (drainsAt_inv hthreads n)).2

omit [HashCrates] in
theorem moveStep_delivery {c c' : SpoolWorld × List SpoolEvent}
    (h : MoveStep (fun writer w => OutputWriter.write spool w writer) DeliveryStep c c') :
    DeliveryStep c c' := by
  cases h with
  | none => exact quiet_step c
  | thread h => exact h
  | outside writer => exact writer_step spool writer c.1 c.2

theorem drainsAt_step (hthreads : ∀ t, .start t ∈ moves → DrainThread t) (n : Nat) :
    CursorStep (drainsAt spool moves n) (drainsAt spool moves (n + 1)) := by
  have hstep : DeliveryStep (drainsAt spool moves n) (drainsAt spool moves (n + 1)) :=
    moveStep_delivery (threads_step deliveryRely_refl deliveryRely_trans
      (fun _ _ hr h => (hr h).1) (fun _ _ _ h => h.rely)
      (fun writer w log _ => (writer_step spool writer w log).rely) deliveryInv_empty
      (fun t ht _ => (hthreads t ht).delivers) n)
  exact (hstep (drainsAt_inv hthreads n)).2.2

omit [Externals] [HashCrates] in
/-- A part of a set has one row, its segment has one, and its file was read with one content. -/
theorem Sourced.unique {c : SpoolWorld × List SpoolEvent} (hinv : DeliveryInv c)
    {set_id : String} {part part' : DeliveryPart} {body body' : Bytes}
    (h : Sourced c.1 c.2 set_id part body) (h' : Sourced c.1 c.2 set_id part' body')
    (hindex : part'.index = part.index) : part' = part ∧ body' = body := by
  obtain ⟨d, hd, hset, rfl, r, hr, hrset, hrindex, segment, bytes, hsegment, hread, hslice⟩ := h
  obtain ⟨d', hd', hset', rfl, r', hr', hrset', hrindex', segment', bytes', hsegment', hread',
    hslice'⟩ := h'
  have hrow : d' = d := by
    refine Table.eq_of_key_eq _ hd' hd ?_
    rw [DeliverySegmentRow.key, DeliverySegmentRow.key, hset, hset']
    exact congrArg _ hindex
  subst hrow
  have hsegments : r' = r := by
    refine Table.eq_of_key_eq _ hr' hr ?_
    rw [SegmentRow.key, SegmentRow.key, hrset, hrset', Int.ofNat.inj (hrindex'.trans hrindex.symm)]
  subst hsegments
  have hbytes : bytes' = bytes := (hinv.reads _ _ _ hread).2.2 bytes' hread'
  have hstart : segment'.byte_start = segment.byte_start :=
    hsegment'.2.2.1.trans hsegment.2.2.1.symm
  refine ⟨rfl, ?_⟩
  unfold partSlice at hslice hslice'
  rw [hbytes, hstart, hslice] at hslice'
  exact (Option.some.inj hslice').symm

omit [Externals] [HashCrates] in
/-- A set is through exactly when all its parts are acknowledged. -/
theorem DeliveryInv.finished_iff {c : SpoolWorld × List SpoolEvent} (hinv : DeliveryInv c)
    {s : OutputSetRow} (hs : s ∈ c.1.db.acpOutputSets.rows) (hissued : s.state.issued) :
    s.state.finished ↔
      ∀ i, HasPart c.1.db.acpOutputDeliverySegments s.set_id i → Acked c.2 s.set_id i := by
  have hcursor := hinv.cursor s hs
  constructor
  · intro hfinished i hpart
    obtain ⟨count, ⟨-, -, hparts⟩, hend⟩ := hcursor.finished hfinished
    have hi := (hparts i).mp hpart
    rw [hinv.acks s hs i]
    omega
  · intro hall
    rcases hissued with hopen | hfinished
    · obtain ⟨count, ⟨-, -, hparts⟩, hlow, hhigh⟩ := hcursor.opened hopen
      -- the part after the cursor is there and not acknowledged
      have hnext := hall (s.acknowledged_cursor + 1) ((hparts _).mpr (by omega))
      rw [hinv.acks s hs] at hnext
      omega
    · exact hfinished

/-- **The history of the delivery cursor**, for any drains that fail, stop and take over one
another's claims anywhere.  Each step leaves a cursor or moves it one part further under the
claim that stands; part `i + 1` is sent after part `i` was acknowledged; all sends of a part have
its transaction identifier and the same bytes; a set is through once every part is acknowledged,
and before that none of its segments and files has gone. -/
theorem delivery_cursor (spool : OutputSpoolStore) (moves : DrainMoves)
    (hthreads : ∀ t, .start t ∈ moves → DrainThread t) (n : Nat) :
    CursorStep (drainsAt spool moves n) (drainsAt spool moves (n + 1)) ∧
    (∀ before set_id part body after,
      (drainsAt spool moves n).2 = before ++ .sent set_id part body :: after →
      0 < part.index → Acked before set_id (part.index - 1)) ∧
    (∀ set_id part body part' body', .sent set_id part body ∈ (drainsAt spool moves n).2 →
      .sent set_id part' body' ∈ (drainsAt spool moves n).2 → part'.index = part.index →
      part'.stable_txn_id = part.stable_txn_id ∧ body' = body) ∧
    ∀ s ∈ (drainsAt spool moves n).1.db.acpOutputSets.rows, s.state.issued →
      (s.state.finished ↔
        ∀ i, HasPart (drainsAt spool moves n).1.db.acpOutputDeliverySegments s.set_id i →
          Acked (drainsAt spool moves n).2 s.set_id i) ∧
      (∃ i, HasPart (drainsAt spool moves n).1.db.acpOutputDeliverySegments s.set_id i) ∧
      ∀ m, n ≤ m → ∃ s' ∈ (drainsAt spool moves m).1.db.acpOutputSets.rows,
        s'.set_id = s.set_id ∧ s'.state.issued ∧
        s.acknowledged_cursor ≤ s'.acknowledged_cursor ∧
        (¬ s'.state.finished →
          (∀ r, r.set_id = s.set_id →
            (r ∈ (drainsAt spool moves m).1.db.acpOutputSegments.rows ↔
              r ∈ (drainsAt spool moves n).1.db.acpOutputSegments.rows)) ∧
          (drainsAt spool moves m).1.files.get s.set_id =
            (drainsAt spool moves n).1.files.get s.set_id) := by
  have hinv : DeliveryInv (drainsAt spool moves n) := drainsAt_inv hthreads n
  refine ⟨drainsAt_step hthreads n, hinv.order, ?_, ?_⟩
  · intro set_id part body part' body' hsent hsent' hindex
    obtain ⟨rfl, hbody⟩ := (hinv.sent _ _ _ hsent).unique hinv (hinv.sent _ _ _ hsent') hindex
    exact ⟨rfl, hbody⟩
  · intro s hs hissued
    refine ⟨hinv.finished_iff hs hissued, ?_, ?_⟩
    · obtain ⟨count, -, hpositive, hparts⟩ :
          ∃ count, Parts (drainsAt spool moves n).1.db.acpOutputDeliverySegments s count := by
        rcases hissued with hopen | hfinished
        · obtain ⟨count, hparts, -⟩ := (hinv.cursor s hs).opened hopen
          exact ⟨count, hparts⟩
        · obtain ⟨count, hparts, -⟩ := (hinv.cursor s hs).finished hfinished
          exact ⟨count, hparts⟩
      exact ⟨0, (hparts 0).mpr (by omega)⟩
    · intro m hm
      have hlater : DeliveryLater (drainsAt spool moves n) (drainsAt spool moves m) :=
        drainsAt_later hthreads hm
      obtain ⟨s', hs', hid, hset⟩ := hlater.sets s hs
      refine ⟨s', hs', hid, (hset hissued).issued, (hset hissued).cursor, ?_⟩
      intro hunfinished
      have hopen : s'.state.isOpen := (hset hissued).issued.resolve_right hunfinished
      exact hlater.kept s hs hissued s' hs' hid hopen

end

/-! ### A set of two parts -/

def drainedSpool : OutputSpoolStore := ⟨1000, by decide⟩

def drainedSet : String := outputSetId ⟨1⟩ 1 1

def drainedHash : String := "8f434346648f6b96df89dda901c5176b10a6d83961dd3c1ac88b59b2dc327aa4"

def drainedManifest : Manifest :=
  ⟨1, drainedSet, 2, drainedHash, [⟨0, 0, 2, drainedHash, segmentName 0⟩]⟩

def drainedFiles : Table FileEntry.name :=
  ((Table.empty.insert ⟨segmentName 0, 0, utf8 "hi"⟩).bind fun t =>
    t.insert ⟨manifestName, 1, manifestBytes drainedManifest⟩).getD Table.empty

/-- The turn of a task while its first delivery runs. -/
def drainedTurn : Db :=
  { endingStore with deliveries := (Table.empty.insert
      (⟨⟨7⟩, ⟨1⟩, 1, ⟨3⟩, "t", none⟩ : DeliveryRow)).getD Table.empty }

/-- The task completed. -/
def drainedTask : Db :=
  { Db.empty with taskEvents := (Table.empty.insert
      (⟨⟨6⟩, ⟨1⟩, 2, .completed, "t", "p"⟩ : EventRow)).getD Table.empty }

/-- The parts of the set, of one byte each. -/
def drainedParts : List DeliveryPart :=
  [⟨0, 0, 0, 1, "aaa9402664f1a41f40ebbc52c9993eb66aeb366602958fdfaa283b71e64db123", "txn0"⟩,
    ⟨1, 0, 1, 2, "de7d1b721a1e0632b7cf04edf5032c8ecffa9f9a08492152b926f1a5a7e765d7", "txn1"⟩]

/-- A turn publishes a text of two bytes and its task completes. -/
def sealMoves : DrainMoves :=
  [.outside (.spool (.prepareTask drainedTurn Db.empty ⟨1⟩ "t0") rfl),
   .outside (.spool (.reserveSegment drainedSet 0 0 2 drainedHash (segmentName 0) "o" "t1") rfl),
   .outside (.files ⟨drainedSet, 0o700, drainedFiles⟩),
   .outside (.spool (.landSegment drainedSet 0 "o" "t2") rfl),
   .outside (.sealSet drainedSet 2 drainedHash drainedParts (by simp [drainedParts]) "t3"),
   .outside (.elsewhere drainedTask),
   .outside (.spool (.activatePrepared drainedSet "t4") rfl)]

/-- One drain sends the first part and stops, and another takes its claim over. -/
def drainRun : DrainMoves :=
  sealMoves ++
    .start (drainOnce "a" "t5" "t5" 3 2).run :: List.replicate 8 (.advance 0 ⟨.ok, .ok ()⟩) ++
    .start (drainOnce "b" "t6" "t6" 3 2).run :: List.replicate 15 (.advance 1 ⟨.ok, .ok ()⟩)

theorem delivery_cursor_drainRun :
    (∀ n, CursorStep (drainsAt drainedSpool drainRun n) (drainsAt drainedSpool drainRun (n + 1))) ∧
    ∃ s ∈ (drainsAt drainedSpool drainRun 7).1.db.acpOutputSets.rows, s.state = .sealed ∧
      s.segment_count = some 2 ∧
      ∀ m, 7 ≤ m → ∃ s' ∈ (drainsAt drainedSpool drainRun m).1.db.acpOutputSets.rows,
        s'.set_id = s.set_id ∧ s'.state.issued ∧
          s.acknowledged_cursor ≤ s'.acknowledged_cursor := by
  have hthreads : ∀ t, .start t ∈ drainRun → DrainThread t := by
    intro t ht
    have ht : t = (drainOnce "a" "t5" "t5" 3 2).run ∨ t = (drainOnce "b" "t6" "t6" 3 2).run := by
      simpa [drainRun, sealMoves] using ht
    rcases ht with rfl | rfl
    · exact .drain _ _ _ _ _
    · exact .drain _ _ _ _ _
  have hsealed : ∃ s ∈ (drainsAt drainedSpool drainRun 7).1.db.acpOutputSets.rows,
      s.state = .sealed ∧ s.segment_count = some 2 := by decide +kernel
  obtain ⟨s, hs, hstate, hcount⟩ := hsealed
  refine ⟨fun n => (delivery_cursor drainedSpool drainRun hthreads n).1, s, hs, hstate, hcount, ?_⟩
  intro m hm
  obtain ⟨-, -, hlater⟩ := (delivery_cursor drainedSpool drainRun hthreads 7).2.2.2 s hs
    (Or.inl (Or.inl hstate))
  obtain ⟨s', hs', hid, hissued, hcursor, -⟩ := hlater m hm
  exact ⟨s', hs', hid, hissued, hcursor⟩

end GuiguBridge
