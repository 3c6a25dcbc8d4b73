import GuiguBridge.App.OutputDrain

/-!
# What deliveries keep

* `DeliveryInv` — the cursor of a set against its parts, segments, files and the log of sends;
* `DeliveryLater` — what every later world keeps, `CursorStep` — **what one step does to a
  cursor**;
* `SpoolMove.deliveryStep`, `acked_step`, `read_step`, `sent_step`, `files_step` — every step.
-/

namespace GuiguBridge

open Relational Interleave

/-! ### The invariant -/

namespace SetState

/-- Sealed for delivery, and not all parts acknowledged. -/
def isOpen (s : SetState) : Prop := s = .sealed ∨ s = .delivering ∨ s = .partial_

/-- Every part acknowledged. -/
def finished (s : SetState) : Prop := s = .delivered ∨ s = .cleaning ∨ s = .cleaned

/-- The files may be gone. -/
def gone (s : SetState) : Prop := s = .cleaning ∨ s = .cleaned

/-- Sealed for delivery. -/
def issued (s : SetState) : Prop := s.isOpen ∨ s.finished

end SetState

/-- The set has exactly `count` parts, at least one. -/
def Parts (parts : Table DeliverySegmentRow.key) (s : OutputSetRow) (count : Nat) : Prop :=
  s.segment_count = some count ∧ 0 < count ∧
    ∀ i : Int, HasPart parts s.set_id i ↔ 0 ≤ i ∧ i < count

/-- The log says that the part was acknowledged. -/
def Acked (log : List SpoolEvent) (set_id : String) (index : Int) : Prop :=
  ∃ owner revision, .acked set_id index owner revision ∈ log

/-- The segment that a delivery carries is this row. -/
def SegmentRow.isSegment (r : SegmentRow) (segment : OutputSegment) : Prop :=
  segment.set_id = r.set_id ∧ segment.index = r.segment_index ∧
    segment.byte_start = r.byte_start ∧ segment.byte_end = r.byte_end ∧
    segment.content_hash = r.content_hash ∧ segment.relative_name = r.relative_name

/-- Where the bytes of a part come from: its row, the row of its segment, and a read of the
segment's file. -/
def Sourced (w : SpoolWorld) (log : List SpoolEvent) (set_id : String) (part : DeliveryPart)
    (body : Bytes) : Prop :=
  ∃ d ∈ w.db.acpOutputDeliverySegments.rows, d.set_id = set_id ∧ d.toPart = part ∧
    ∃ r ∈ w.db.acpOutputSegments.rows, r.set_id = set_id ∧
      (r.segment_index : Int) = part.spool_index ∧
      ∃ segment bytes, r.isSegment segment ∧ .read set_id r.relative_name bytes ∈ log ∧
        partSlice part segment bytes = some body

/-- The cursor of a set against its state and its parts. -/
structure CursorInv (parts : Table DeliverySegmentRow.key) (s : OutputSetRow) : Prop where
  fresh : s.state = .assembling ∨ s.state = .prepared ∨ s.state = .abandoned →
    s.acknowledged_cursor = -1
  prepared : s.state = .prepared → ∃ count, Parts parts s count
  opened : s.state.isOpen → ∃ count, Parts parts s count ∧
    -1 ≤ s.acknowledged_cursor ∧ s.acknowledged_cursor + 1 < count
  finished : s.state.finished → ∃ count, Parts parts s count ∧
    s.acknowledged_cursor + 1 = count

structure DeliveryInv (c : SpoolWorld × List SpoolEvent) : Prop where
  /-- A part belongs to a set that was sealed. -/
  owned : ∀ d ∈ c.1.db.acpOutputDeliverySegments.rows,
    ∃ s ∈ c.1.db.acpOutputSets.rows, s.set_id = d.set_id ∧ s.state ≠ .assembling
  cursor : ∀ s ∈ c.1.db.acpOutputSets.rows, CursorInv c.1.db.acpOutputDeliverySegments s
  /-- The segments of a set that was sealed are landed, until they are cleaned. -/
  landed : ∀ s ∈ c.1.db.acpOutputSets.rows, s.state = .prepared ∨ s.state.issued →
    ∀ r ∈ c.1.db.acpOutputSegments.rows, r.set_id = s.set_id → r.state ≠ .reserved
  /-- The cursor counts the acknowledgements. -/
  acks : ∀ s ∈ c.1.db.acpOutputSets.rows, ∀ i,
    Acked c.2 s.set_id i ↔ 0 ≤ i ∧ i ≤ s.acknowledged_cursor
  acked_set : ∀ set_id i, Acked c.2 set_id i → ∃ s ∈ c.1.db.acpOutputSets.rows, s.set_id = set_id
  /-- What was read of a file is what it holds. -/
  reads : ∀ set_id name bytes, .read set_id name bytes ∈ c.2 →
    (∃ s ∈ c.1.db.acpOutputSets.rows, s.set_id = set_id ∧ s.state.issued) ∧
      (∀ e, c.1.files.file set_id name = some e → e.bytes = bytes) ∧
      ∀ bytes', .read set_id name bytes' ∈ c.2 → bytes' = bytes
  sent : ∀ set_id part body, .sent set_id part body ∈ c.2 → Sourced c.1 c.2 set_id part body
  /-- A part is sent after the one before it was acknowledged. -/
  order : ∀ before set_id part body after, c.2 = before ++ .sent set_id part body :: after →
    0 < part.index → Acked before set_id (part.index - 1)

/-! ### What a later world keeps -/

/-- A set that was sealed for delivery, later. -/
structure SetLater (s s' : OutputSetRow) : Prop where
  issued : s'.state.issued
  segment_count : s'.segment_count = s.segment_count
  cursor : s.acknowledged_cursor ≤ s'.acknowledged_cursor
  revision : s.claim_revision ≤ s'.claim_revision
  finished : s.state.finished → s'.state.finished
  gone : s.state.gone → s'.state.gone

structure DeliveryLater (c c' : SpoolWorld × List SpoolEvent) : Prop where
  log : ∃ new, c'.2 = c.2 ++ new
  parts : ∀ d ∈ c.1.db.acpOutputDeliverySegments.rows,
    d ∈ c'.1.db.acpOutputDeliverySegments.rows
  sets : ∀ s ∈ c.1.db.acpOutputSets.rows, ∃ s' ∈ c'.1.db.acpOutputSets.rows,
    s'.set_id = s.set_id ∧ (s.state.issued → SetLater s s')
  segments : ∀ s ∈ c.1.db.acpOutputSets.rows, s.state.issued →
    ∀ r ∈ c.1.db.acpOutputSegments.rows, r.set_id = s.set_id →
      ∃ r' ∈ c'.1.db.acpOutputSegments.rows, r'.content = r.content
  files : ∀ s ∈ c.1.db.acpOutputSets.rows, s.state.issued → ∀ name e',
    c'.1.files.file s.set_id name = some e' →
      ∃ e, c.1.files.file s.set_id name = some e ∧ e.bytes = e'.bytes
  /-- **Until every part is acknowledged, nothing of the set is cleaned.** -/
  kept : ∀ s ∈ c.1.db.acpOutputSets.rows, s.state.issued →
    ∀ s' ∈ c'.1.db.acpOutputSets.rows, s'.set_id = s.set_id → s'.state.isOpen →
      (∀ r, r.set_id = s.set_id →
        (r ∈ c'.1.db.acpOutputSegments.rows ↔ r ∈ c.1.db.acpOutputSegments.rows)) ∧
      c'.1.files.get s.set_id = c.1.files.get s.set_id

/-- What one step does to a cursor: nothing, or one part further under the claim that stands,
which the log shows. -/
def CursorStep (c c' : SpoolWorld × List SpoolEvent) : Prop :=
  ∀ s ∈ c.1.db.acpOutputSets.rows, ∀ s' ∈ c'.1.db.acpOutputSets.rows, s'.set_id = s.set_id →
    s'.acknowledged_cursor = s.acknowledged_cursor ∨
    (s'.acknowledged_cursor = s.acknowledged_cursor + 1 ∧ s.state = .delivering ∧
      ∃ owner, s.claim_owner = some owner ∧
        c'.2 = c.2 ++ [.acked s.set_id s'.acknowledged_cursor owner s.claim_revision])

/-- What a thread relies on. -/
def DeliveryRely (c c' : SpoolWorld × List SpoolEvent) : Prop :=
  DeliveryInv c → DeliveryInv c' ∧ DeliveryLater c c'

/-- What every step guarantees. -/
def DeliveryStep (c c' : SpoolWorld × List SpoolEvent) : Prop :=
  DeliveryInv c → DeliveryInv c' ∧ DeliveryLater c c' ∧ CursorStep c c'

theorem DeliveryStep.rely {c c' : SpoolWorld × List SpoolEvent} (h : DeliveryStep c c') :
    DeliveryRely c c' := fun hinv => ⟨(h hinv).1, (h hinv).2.1⟩

theorem SetLater.refl (s : OutputSetRow) (h : s.state.issued) : SetLater s s :=
  ⟨h, rfl, Int.le_refl _, Nat.le_refl _, fun h => h, fun h => h⟩

theorem SetLater.trans {s t u : OutputSetRow} (h : SetLater s t) (h' : SetLater t u) :
    SetLater s u where
  issued := h'.issued
  segment_count := h'.segment_count.trans h.segment_count
  cursor := Int.le_trans h.cursor h'.cursor
  revision := Nat.le_trans h.revision h'.revision
  finished hs := h'.finished (h.finished hs)
  gone hs := h'.gone (h.gone hs)

/-- No state is both. -/
theorem SetState.not_open_of_finished {s : SetState} (h : s.finished) : ¬ s.isOpen := by
  rintro (rfl | rfl | rfl) <;> rcases h with h | h | h <;> cases h

theorem DeliveryLater.refl (c : SpoolWorld × List SpoolEvent) : DeliveryLater c c where
  log := ⟨[], (List.append_nil _).symm⟩
  parts _ hd := hd
  sets s hs := ⟨s, hs, rfl, SetLater.refl s⟩
  segments _ _ _ r hr _ := ⟨r, hr, rfl⟩
  files _ _ _ _ e he := ⟨e, he, rfl⟩
  kept _ _ _ _ _ _ _ := ⟨fun _ _ => Iff.rfl, rfl⟩

theorem DeliveryLater.trans {a b c : SpoolWorld × List SpoolEvent} (h : DeliveryLater a b)
    (h' : DeliveryLater b c) : DeliveryLater a c where
  log := by
    obtain ⟨new, hnew⟩ := h.log
    obtain ⟨more, hmore⟩ := h'.log
    exact ⟨new ++ more, by rw [hmore, hnew, List.append_assoc]⟩
  parts d hd := h'.parts d (h.parts d hd)
  sets := by
    intro s hs
    obtain ⟨t, ht, hid, hlater⟩ := h.sets s hs
    obtain ⟨u, hu, hid', hlater'⟩ := h'.sets t ht
    exact ⟨u, hu, hid'.trans hid, fun hs => (hlater hs).trans (hlater' (hlater hs).issued)⟩
  segments := by
    intro s hs hissued r hr hset
    obtain ⟨t, ht, hid, hlater⟩ := h.sets s hs
    obtain ⟨r', hr', hcontent⟩ := h.segments s hs hissued r hr hset
    have hset' : r'.set_id = t.set_id := by
      rw [hid, ← hset]
      exact congrArg Prod.fst hcontent
    obtain ⟨r'', hr'', hcontent'⟩ := h'.segments t ht (hlater hissued).issued r' hr' hset'
    exact ⟨r'', hr'', hcontent'.trans hcontent⟩
  files := by
    intro s hs hissued name e'' he''
    obtain ⟨t, ht, hid, hlater⟩ := h.sets s hs
    obtain ⟨e', he', hbytes'⟩ := h'.files t ht (hlater hissued).issued name e'' (hid ▸ he'')
    obtain ⟨e, he, hbytes⟩ := h.files s hs hissued name e' (hid ▸ he')
    exact ⟨e, he, hbytes.trans hbytes'⟩
  kept := by
    intro s hs hissued u hu hid hopen
    obtain ⟨t, ht, hid', hlater⟩ := h.sets s hs
    have hissued' := (hlater hissued).issued
    -- a set that is open now was open in between
    have hopen' : t.state.isOpen := by
      rcases hissued' with hopen' | hfinished
      · exact hopen'
      · obtain ⟨u', hu', hid'', hlater'⟩ := h'.sets t ht
        have hsame : u' = u := Table.eq_of_key_eq _ hu' hu (hid''.trans (hid'.trans hid.symm))
        rw [hsame] at hlater'
        exact absurd hopen (SetState.not_open_of_finished
          ((hlater' (Or.inr hfinished)).finished hfinished))
    obtain ⟨hsegments, hfiles⟩ := h.kept s hs hissued t ht hid' hopen'
    obtain ⟨hsegments', hfiles'⟩ := h'.kept t ht hissued' u hu (hid.trans hid'.symm) hopen
    rw [hid'] at hfiles'
    refine ⟨?_, hfiles'.trans hfiles⟩
    intro r hr
    rw [hsegments' r (hr.trans hid'.symm), hsegments r hr]

theorem deliveryRely_refl (c : SpoolWorld × List SpoolEvent) : DeliveryRely c c :=
  fun h => ⟨h, .refl c⟩

theorem deliveryRely_trans (a b c : SpoolWorld × List SpoolEvent) (h : DeliveryRely a b)
    (h' : DeliveryRely b c) : DeliveryRely a c := by
  intro hinv
  obtain ⟨hinv', hlater⟩ := h hinv
  obtain ⟨hinv'', hlater'⟩ := h' hinv'
  exact ⟨hinv'', hlater.trans hlater'⟩

/-! ### One arrow of a set -/

theorem holds_delivering {set : ClaimedOutputSet} {s : OutputSetRow} (h : set.holds s = true) :
    s.state = .delivering := (of_decide_eq_true h).2.1

theorem SetEdge.not_assembling {s s' : OutputSetRow} (h : SetEdge s s') :
    s'.state ≠ .assembling := by
  cases h with
  | acknowledged set index state now hholds hcursor hstate =>
    show state ≠ .assembling
    rw [hstate]
    split <;> nofun
  | failed set state attempt failure now hholds hstate =>
    show state ≠ .assembling
    rcases hstate with rfl | rfl <;> nofun
  | _ => nofun

/-- An arrow out of a set that was sealed for delivery. -/
theorem SetEdge.later {s s' : OutputSetRow} (h : SetEdge s s') (hissued : s.state.issued) :
    SetLater s s' := by
  cases h with
  | prepared total_bytes count total_hash now hstate =>
    rw [hstate] at hissued
    rcases hissued with (h | h | h) | (h | h | h) <;> cases h
  | sealed now hstate =>
    rw [hstate] at hissued
    rcases hissued with (h | h | h) | (h | h | h) <;> cases h
  | abandoned total_bytes count now hstate =>
    rcases hstate with hstate | hstate <;> rw [hstate] at hissued <;>
      rcases hissued with (h | h | h) | (h | h | h) <;> cases h
  | claimed owner now hstate =>
    refine ⟨Or.inl (Or.inr (Or.inl rfl)), rfl, Int.le_refl _, Nat.le_succ _, ?_, ?_⟩
    · intro hfinished
      rcases hstate with hstate | hstate <;> rw [hstate] at hfinished <;>
        rcases hfinished with h | h | h <;> cases h
    · intro hgone
      rcases hstate with hstate | hstate <;> rw [hstate] at hgone <;>
        rcases hgone with h | h <;> cases h
  | acknowledged set index state now hholds hcursor hstate =>
    have hdelivering := holds_delivering hholds
    refine ⟨?_, rfl, ?_, Nat.le_refl _, ?_, ?_⟩
    · show state.issued
      rw [hstate]
      split
      · exact Or.inr (Or.inl rfl)
      · exact Or.inl (Or.inr (Or.inl rfl))
    · show s.acknowledged_cursor ≤ index
      omega
    · intro hfinished
      rw [hdelivering] at hfinished
      rcases hfinished with h | h | h <;> cases h
    · intro hgone
      rw [hdelivering] at hgone
      rcases hgone with h | h <;> cases h
  | failed set state attempt failure now hholds hstate =>
    have hdelivering := holds_delivering hholds
    refine ⟨?_, rfl, Int.le_refl _, Nat.le_refl _, ?_, ?_⟩
    · show state.issued
      rcases hstate with rfl | rfl
      · exact Or.inl (Or.inr (Or.inr rfl))
      · exact Or.inl (Or.inl rfl)
    · intro hfinished
      rw [hdelivering] at hfinished
      rcases hfinished with h | h | h <;> cases h
    · intro hgone
      rw [hdelivering] at hgone
      rcases hgone with h | h <;> cases h
  | cleaning now hstate =>
    exact ⟨Or.inr (Or.inr (Or.inl rfl)), rfl, Int.le_refl _, Nat.le_succ _,
      fun _ => Or.inr (Or.inl rfl), fun _ => Or.inl rfl⟩
  | cleaned now hstate =>
    exact ⟨Or.inr (Or.inr (Or.inr rfl)), rfl, Int.le_refl _, Nat.le_refl _,
      fun _ => Or.inr (Or.inr rfl), fun _ => Or.inr rfl⟩

/-- An arrow that leaves the cursor alone, other than into `prepared`, keeps the cursor in
order. -/
theorem SetEdge.cursorInv {parts : Table DeliverySegmentRow.key} {s s' : OutputSetRow}
    (h : SetEdge s s') (hinv : CursorInv parts s) (hprepared : s'.state ≠ .prepared)
    (hcursor : s'.acknowledged_cursor = s.acknowledged_cursor) : CursorInv parts s' := by
  -- `s'` is open with the parts and the cursor of `s`
  have hopen {state : SetState} (hs : state.isOpen) (hs' : s.state.isOpen)
      (hsame : s'.state = state ∧ s'.segment_count = s.segment_count ∧ s'.set_id = s.set_id) :
      CursorInv parts s' := by
    obtain ⟨count, ⟨hcount, hpos, hparts⟩, hle, hlt⟩ := hinv.opened hs'
    obtain ⟨hstate, hsc, hid⟩ := hsame
    refine ⟨?_, fun h => absurd h hprepared, fun _ => ⟨count, ⟨hsc.trans hcount, hpos,
      hid ▸ hparts⟩, by omega, by omega⟩, ?_⟩
    · rw [hstate]
      intro hfresh
      rcases hs with rfl | rfl | rfl <;> rcases hfresh with h | h | h <;> cases h
    · rw [hstate]
      intro hfinished
      exact absurd hs (SetState.not_open_of_finished hfinished)
  have hfinish {state : SetState} (hs : state.finished) (hs' : s.state.finished)
      (hsame : s'.state = state ∧ s'.segment_count = s.segment_count ∧ s'.set_id = s.set_id) :
      CursorInv parts s' := by
    obtain ⟨count, ⟨hcount, hpos, hparts⟩, heq⟩ := hinv.finished hs'
    obtain ⟨hstate, hsc, hid⟩ := hsame
    refine ⟨?_, fun h => absurd h hprepared, ?_, fun _ => ⟨count, ⟨hsc.trans hcount, hpos,
      hid ▸ hparts⟩, by omega⟩⟩
    · rw [hstate]
      intro hfresh
      rcases hs with rfl | rfl | rfl <;> rcases hfresh with h | h | h <;> cases h
    · rw [hstate]
      intro hs''
      exact absurd hs'' (SetState.not_open_of_finished hs)
  cases h with
  | prepared total_bytes count total_hash now hstate => exact absurd rfl hprepared
  | sealed now hstate =>
    obtain ⟨count, ⟨hcount, hpos, hparts⟩⟩ := hinv.prepared hstate
    have hfirst := hinv.fresh (Or.inr (Or.inl hstate))
    refine ⟨?_, nofun, fun _ => ⟨count, ⟨hcount, hpos, hparts⟩, ?_, ?_⟩, ?_⟩
    · rintro (h | h | h) <;> cases h
    · show -1 ≤ s.acknowledged_cursor
      omega
    · show s.acknowledged_cursor + 1 < count
      omega
    · rintro (h | h | h) <;> cases h
  | abandoned total_bytes count now hstate =>
    refine ⟨fun _ => ?_, nofun, ?_, ?_⟩
    · rcases hstate with hstate | hstate
      · exact hinv.fresh (Or.inl hstate)
      · exact hinv.fresh (Or.inr (Or.inl hstate))
    · rintro (h | h | h) <;> cases h
    · rintro (h | h | h) <;> cases h
  | claimed owner now hstate =>
    refine hopen (Or.inr (Or.inl rfl)) ?_ ⟨rfl, rfl, rfl⟩
    rcases hstate with hstate | hstate
    · exact Or.inl hstate
    · exact Or.inr (Or.inl hstate)
  | acknowledged set index state now hholds hindex hstate =>
    have hcursor : index = s.acknowledged_cursor := hcursor
    omega
  | failed set state attempt failure now hholds hstate =>
    refine @hopen state ?_ (Or.inr (Or.inl (holds_delivering hholds))) ⟨rfl, rfl, rfl⟩
    rcases hstate with rfl | rfl
    · exact Or.inr (Or.inr rfl)
    · exact Or.inl rfl
  | cleaning now hstate =>
    refine hfinish (Or.inr (Or.inl rfl)) ?_ ⟨rfl, rfl, rfl⟩
    rcases hstate with hstate | hstate
    · exact Or.inl hstate
    · exact Or.inr (Or.inl hstate)
  | cleaned now hstate =>
    exact hfinish (Or.inr (Or.inr rfl)) (Or.inr (Or.inl hstate)) ⟨rfl, rfl, rfl⟩

/-- A set that is sealed for delivery came from one that was, or was prepared. -/
theorem SetEdge.issued_of {s s' : OutputSetRow} (h : SetEdge s s') (hissued : s'.state.issued) :
    s.state = .prepared ∨ s.state.issued := by
  cases h with
  | prepared total_bytes count total_hash now hstate =>
    rcases hissued with (h | h | h) | (h | h | h) <;> cases h
  | sealed now hstate => exact Or.inl hstate
  | abandoned total_bytes count now hstate =>
    rcases hissued with (h | h | h) | (h | h | h) <;> cases h
  | claimed owner now hstate =>
    rcases hstate with hstate | hstate
    · exact Or.inr (Or.inl (Or.inl hstate))
    · exact Or.inr (Or.inl (Or.inr (Or.inl hstate)))
  | acknowledged set index state now hholds hcursor hstate =>
    exact Or.inr (Or.inl (Or.inr (Or.inl (holds_delivering hholds))))
  | failed set state attempt failure now hholds hstate =>
    exact Or.inr (Or.inl (Or.inr (Or.inl (holds_delivering hholds))))
  | cleaning now hstate =>
    rcases hstate with hstate | hstate
    · exact Or.inr (Or.inr (Or.inl hstate))
    · exact Or.inr (Or.inr (Or.inr (Or.inl hstate)))
  | cleaned now hstate => exact Or.inr (Or.inr (Or.inr (Or.inl hstate)))

/-- The sets after an arrow of one of them. -/
theorem SetEdge.sets {t u : Table OutputSetRow.set_id} {set set' : OutputSetRow}
    (h : SetEdge set set') (hset : set ∈ t.rows) (hputs : t.Puts set.set_id set' u) :
    ∀ s ∈ t.rows, ∃ s' ∈ u.rows, s'.set_id = s.set_id ∧ (s.state.issued → SetLater s s') := by
  intro s hs
  rcases hputs.kept (Table.get_of_mem hset) hs with ⟨rfl, hs'⟩ | ⟨-, hs'⟩
  · exact ⟨set', hs', h.set_id, h.later⟩
  · exact ⟨s, hs', rfl, SetLater.refl s⟩

/-! ### One statement of the store -/

section

variable {c c' : SpoolWorld × List SpoolEvent}

/-- Where bytes came from stays where it is. -/
theorem Sourced.later {set_id : String} {part : DeliveryPart} {body : Bytes}
    (hinv : DeliveryInv c) (hl : DeliveryLater c c') (h : Sourced c.1 c.2 set_id part body) :
    Sourced c'.1 c'.2 set_id part body := by
  obtain ⟨d, hd, hid, hpart, r, hr, hset, hindex, segment, bytes, hsegment, hread, hslice⟩ := h
  obtain ⟨⟨s, hs, hsid, hissued⟩, -, -⟩ := hinv.reads _ _ _ hread
  obtain ⟨r', hr', hcontent⟩ := hl.segments s hs hissued r hr (hset.trans hsid.symm)
  simp only [SegmentRow.content, Prod.mk.injEq] at hcontent
  obtain ⟨hset', hindex', hstart, hlength, hhash, hname⟩ := hcontent
  obtain ⟨new, hnew⟩ := hl.log
  refine ⟨d, hl.parts d hd, hid, hpart, r', hr', hset'.trans hset, by omega, segment, bytes,
    ?_, ?_, hslice⟩
  · obtain ⟨h₁, h₂, h₃, h₄, h₅, h₆⟩ := hsegment
    refine ⟨h₁.trans hset'.symm, by omega, by omega, ?_, h₅.trans hhash.symm, h₆.trans hname.symm⟩
    rw [h₄, SegmentRow.byte_end, SegmentRow.byte_end, hstart, hlength]
  · rw [hname, hnew]
    exact List.mem_append.mpr (Or.inl hread)

/-- A step that logs nothing keeps what the log says. -/
theorem DeliveryInv.of_later (hinv : DeliveryInv c) (hl : DeliveryLater c c') (hlog : c'.2 = c.2)
    (howned : ∀ d ∈ c'.1.db.acpOutputDeliverySegments.rows,
      ∃ s ∈ c'.1.db.acpOutputSets.rows, s.set_id = d.set_id ∧ s.state ≠ .assembling)
    (hcursor : ∀ s ∈ c'.1.db.acpOutputSets.rows, CursorInv c'.1.db.acpOutputDeliverySegments s)
    (hlanded : ∀ s ∈ c'.1.db.acpOutputSets.rows, s.state = .prepared ∨ s.state.issued →
      ∀ r ∈ c'.1.db.acpOutputSegments.rows, r.set_id = s.set_id → r.state ≠ .reserved)
    (hacks : ∀ s ∈ c'.1.db.acpOutputSets.rows, ∀ i,
      Acked c.2 s.set_id i ↔ 0 ≤ i ∧ i ≤ s.acknowledged_cursor) :
    DeliveryInv c' where
  owned := howned
  cursor := hcursor
  landed := hlanded
  acks := by
    rw [hlog]
    exact hacks
  acked_set := by
    intro set_id i hacked
    rw [hlog] at hacked
    obtain ⟨s, hs, rfl⟩ := hinv.acked_set set_id i hacked
    obtain ⟨s', hs', hid, -⟩ := hl.sets s hs
    exact ⟨s', hs', hid⟩
  reads := by
    intro set_id name bytes hread
    rw [hlog] at hread
    obtain ⟨⟨s, hs, hsid, hissued⟩, hfile, hsame⟩ := hinv.reads _ _ _ hread
    obtain ⟨s', hs', hid, hlater⟩ := hl.sets s hs
    refine ⟨⟨s', hs', hid.trans hsid, (hlater hissued).issued⟩, ?_, ?_⟩
    · intro e' he'
      obtain ⟨e, he, hbytes⟩ := hl.files s hs hissued name e' (hsid ▸ he')
      exact hbytes ▸ hfile e (hsid ▸ he)
    · rw [hlog]
      exact hsame
  sent := by
    intro set_id part body hsent
    rw [hlog] at hsent
    exact (hinv.sent _ _ _ hsent).later hinv hl
  order := by
    rw [hlog]
    exact hinv.order

end

/-- The rows of the sets after an arrow of one of them. -/
theorem SetEdge.mem {t u : Table OutputSetRow.set_id} {set set' s : OutputSetRow}
    (hputs : t.Puts set.set_id set' u) (hs : s ∈ u.rows) :
    (s.set_id = set.set_id ∧ s = set') ∨ (s.set_id ≠ set.set_id ∧ s ∈ t.rows) := by
  have hget := hputs s.set_id
  rw [Table.get_of_mem hs] at hget
  by_cases hk : s.set_id = set.set_id
  · rw [if_pos hk] at hget
    exact Or.inl ⟨hk, Option.some.inj hget⟩
  · rw [if_neg hk] at hget
    exact Or.inr ⟨hk, Table.mem_of_get hget.symm⟩

/-- A step of the store that leaves the segments of sealed sets, and every file, alone. -/
theorem later_of_sets {db db' : Db} {files : SpoolFiles} {log : List SpoolEvent}
    (hparts : ∀ d ∈ db.acpOutputDeliverySegments.rows, d ∈ db'.acpOutputDeliverySegments.rows)
    (hsets : ∀ s ∈ db.acpOutputSets.rows, ∃ s' ∈ db'.acpOutputSets.rows,
      s'.set_id = s.set_id ∧ (s.state.issued → SetLater s s'))
    (hsegments : ∀ s ∈ db.acpOutputSets.rows, s.state.issued → ∀ r, r.set_id = s.set_id →
      (r ∈ db'.acpOutputSegments.rows ↔ r ∈ db.acpOutputSegments.rows)) :
    DeliveryLater (⟨db, files⟩, log) (⟨db', files⟩, log) where
  log := ⟨[], (List.append_nil _).symm⟩
  parts := hparts
  sets := hsets
  segments := by
    intro s hs hissued r hr hset
    exact ⟨r, (hsegments s hs hissued r hset).mpr hr, rfl⟩
  files _ _ _ _ e he := ⟨e, he, rfl⟩
  kept := by
    intro s hs hissued s' _ _ _
    exact ⟨hsegments s hs hissued, rfl⟩

/-- Parts that stay keep the cursors in order. -/
theorem CursorInv.of_parts {t u : Table DeliverySegmentRow.key} {s : OutputSetRow}
    (h : CursorInv t s) (hsame : s.state ≠ .assembling →
      ∀ i, HasPart u s.set_id i ↔ HasPart t s.set_id i) : CursorInv u s := by
  have hparts {count : Nat} (hstate : s.state ≠ .assembling) (hp : Parts t s count) :
      Parts u s count :=
    ⟨hp.1, hp.2.1, fun i => (hsame hstate i).trans (hp.2.2 i)⟩
  refine ⟨h.fresh, ?_, ?_, ?_⟩
  · intro hstate
    obtain ⟨count, hp⟩ := h.prepared hstate
    exact ⟨count, hparts (by rw [hstate]; nofun) hp⟩
  · intro hopen
    obtain ⟨count, hp, hcursor⟩ := h.opened hopen
    exact ⟨count, hparts (by rcases hopen with h | h | h <;> rw [h] <;> nofun) hp, hcursor⟩
  · intro hfinished
    obtain ⟨count, hp, hcursor⟩ := h.finished hfinished
    exact ⟨count, hparts (by rcases hfinished with h | h | h <;> rw [h] <;> nofun) hp, hcursor⟩

section

variable {db db' : Db} {files : SpoolFiles} {log : List SpoolEvent}

/-- A set is opened. -/
theorem opened_step {set : OutputSetRow} (hstate : set.state = .assembling)
    (hcursor : set.acknowledged_cursor = -1)
    (hinsert : db.acpOutputSets.insert set = some db'.acpOutputSets)
    (hsegments : db'.acpOutputSegments = db.acpOutputSegments)
    (hparts : db'.acpOutputDeliverySegments = db.acpOutputDeliverySegments) :
    DeliveryStep (⟨db, files⟩, log) (⟨db', files⟩, log) := by
  intro hinv
  have hmem (s : OutputSetRow) : s ∈ db'.acpOutputSets.rows ↔ _ := Table.mem_insert hinsert
  have hnew : ∀ s ∈ db.acpOutputSets.rows, s.set_id ≠ set.set_id := by
    intro s hs hid
    have hfree := (Table.insert_puts hinsert).1
    rw [← hid, Table.get_of_mem hs] at hfree
    cases hfree
  have hlater : DeliveryLater (⟨db, files⟩, log) (⟨db', files⟩, log) := by
    refine later_of_sets ?_ ?_ ?_
    · rw [hparts]
      exact fun _ h => h
    · intro s hs
      exact ⟨s, (hmem s).mpr (Or.inl hs), rfl, SetLater.refl s⟩
    · rw [hsegments]
      exact fun _ _ _ _ _ => Iff.rfl
  refine ⟨hinv.of_later hlater rfl ?_ ?_ ?_ ?_, hlater, ?_⟩
  · show ∀ d ∈ db'.acpOutputDeliverySegments.rows, ∃ s ∈ db'.acpOutputSets.rows,
      s.set_id = d.set_id ∧ s.state ≠ .assembling
    rw [hparts]
    intro d hd
    obtain ⟨s, hs, h⟩ := hinv.owned d hd
    exact ⟨s, (hmem s).mpr (Or.inl hs), h⟩
  · show ∀ s ∈ db'.acpOutputSets.rows, CursorInv db'.acpOutputDeliverySegments s
    rw [hparts]
    intro s hs
    rcases (hmem s).mp hs with hold | rfl
    · exact hinv.cursor s hold
    · refine ⟨fun _ => hcursor, ?_, ?_, ?_⟩ <;> rw [hstate]
      · nofun
      · rintro (h | h | h) <;> cases h
      · rintro (h | h | h) <;> cases h
  · show ∀ s ∈ db'.acpOutputSets.rows, s.state = .prepared ∨ s.state.issued →
      ∀ r ∈ db'.acpOutputSegments.rows, r.set_id = s.set_id → r.state ≠ .reserved
    rw [hsegments]
    intro s hs hissued
    rcases (hmem s).mp hs with hold | rfl
    · exact hinv.landed s hold hissued
    · rw [hstate] at hissued
      rcases hissued with h | (h | h | h) | (h | h | h) <;> cases h
  · intro s hs i
    rcases (hmem s).mp hs with hold | rfl
    · exact hinv.acks s hold i
    · constructor
      · intro hacked
        obtain ⟨s', hs', hid⟩ := hinv.acked_set _ _ hacked
        exact absurd hid (hnew s' hs')
      · rintro ⟨hle, hlt⟩
        omega
  · intro s hs s' hs' hid
    rcases (hmem s').mp hs' with hold | rfl
    · rw [Table.eq_of_key_eq _ hold hs hid]
      exact Or.inl rfl
    · exact absurd hid.symm (hnew s hs)

/-- What every arrow of a set keeps, once cursors, segments and the log are in order. -/
theorem edge_inv {set set' : OutputSetRow} (hinv : DeliveryInv (⟨db, files⟩, log))
    (hset : set ∈ db.acpOutputSets.rows) (hedge : SetEdge set set')
    (hcursor : set'.acknowledged_cursor = set.acknowledged_cursor)
    (hputs : db.acpOutputSets.Puts set.set_id set' db'.acpOutputSets)
    (hlater : DeliveryLater (⟨db, files⟩, log) (⟨db', files⟩, log))
    (hparts : ∀ d ∈ db'.acpOutputDeliverySegments.rows,
      d ∈ db.acpOutputDeliverySegments.rows ∨ d.set_id = set.set_id)
    (hset' : CursorInv db'.acpOutputDeliverySegments set')
    (hothers : ∀ s ∈ db.acpOutputSets.rows, s.set_id ≠ set.set_id →
      CursorInv db'.acpOutputDeliverySegments s)
    (hlanded : ∀ r ∈ db'.acpOutputSegments.rows, r.state = .reserved →
      r ∈ db.acpOutputSegments.rows)
    (hlanded' : set'.state = .prepared → ∀ r ∈ db.acpOutputSegments.rows,
      r.set_id = set.set_id → r.state ≠ .reserved) :
    DeliveryInv (⟨db', files⟩, log) ∧ CursorStep (⟨db, files⟩, log) (⟨db', files⟩, log) := by
  have hnow : set' ∈ db'.acpOutputSets.rows := by
    refine Table.mem_of_get (k := set.set_id) ?_
    rw [hputs, if_pos rfl]
  refine ⟨hinv.of_later hlater rfl ?_ ?_ ?_ ?_, ?_⟩
  · intro d hd
    rcases hparts d hd with hold | hid
    · obtain ⟨s, hs, hsid, hstate⟩ := hinv.owned d hold
      rcases hputs.kept (Table.get_of_mem hset) hs with ⟨rfl, hs'⟩ | ⟨-, hs'⟩
      · exact ⟨set', hs', hedge.set_id.trans hsid, hedge.not_assembling⟩
      · exact ⟨s, hs', hsid, hstate⟩
    · exact ⟨set', hnow, hedge.set_id.trans hid.symm, hedge.not_assembling⟩
  · intro s hs
    rcases SetEdge.mem hputs hs with ⟨-, rfl⟩ | ⟨hne, hold⟩
    · exact hset'
    · exact hothers s hold hne
  · intro s hs hissued r hr hid hreserved
    have hr₀ := hlanded r hr hreserved
    rcases SetEdge.mem hputs hs with ⟨-, rfl⟩ | ⟨hne, hold⟩
    · rw [hedge.set_id] at hid
      rcases hissued with hprepared | hissued
      · exact hlanded' hprepared r hr₀ hid hreserved
      · exact hinv.landed set hset (hedge.issued_of hissued) r hr₀ hid hreserved
    · exact hinv.landed s hold hissued r hr₀ hid hreserved
  · intro s hs i
    rcases SetEdge.mem hputs hs with ⟨-, rfl⟩ | ⟨hne, hold⟩
    · rw [hedge.set_id, hcursor]
      exact hinv.acks set hset i
    · exact hinv.acks s hold i
  · intro s hs s' hs' hid
    rcases SetEdge.mem hputs hs' with ⟨hk, rfl⟩ | ⟨hne, hold⟩
    · rw [Table.eq_of_key_eq _ hs hset (hid.symm.trans hk)]
      exact Or.inl hcursor
    · rw [Table.eq_of_key_eq _ hold hs hid]
      exact Or.inl rfl

/-- A set moves along an arrow that touches neither segments nor parts. -/
theorem edge_step {set set' : OutputSetRow} (hset : set ∈ db.acpOutputSets.rows)
    (hedge : SetEdge set set') (hprepared : set'.state ≠ .prepared)
    (hcursor : set'.acknowledged_cursor = set.acknowledged_cursor)
    (hputs : db.acpOutputSets.Puts set.set_id set' db'.acpOutputSets)
    (hsegments : db'.acpOutputSegments = db.acpOutputSegments)
    (hparts : db'.acpOutputDeliverySegments = db.acpOutputDeliverySegments) :
    DeliveryStep (⟨db, files⟩, log) (⟨db', files⟩, log) := by
  intro hinv
  have hlater : DeliveryLater (⟨db, files⟩, log) (⟨db', files⟩, log) := by
    refine later_of_sets ?_ (hedge.sets hset hputs) ?_
    · rw [hparts]
      exact fun _ h => h
    · rw [hsegments]
      exact fun _ _ _ _ _ => Iff.rfl
  obtain ⟨hinv', hstep⟩ := edge_inv hinv hset hedge hcursor hputs hlater
    (by rw [hparts]; exact fun d hd => Or.inl hd)
    (by rw [hparts]; exact hedge.cursorInv (hinv.cursor set hset) hprepared hcursor)
    (by rw [hparts]; exact fun s hs _ => hinv.cursor s hs)
    (by rw [hsegments]; exact fun r hr _ => hr) (fun h => absurd h hprepared)
  exact ⟨hinv', hlater, hstep⟩

/-- A set is sealed with its parts. -/
theorem prepared_step {set set' : OutputSetRow} {count : Nat}
    (hset : set ∈ db.acpOutputSets.rows) (hstate : set.state = .assembling)
    (hedge : SetEdge set set') (hstate' : set'.state = .prepared)
    (hcount : set'.segment_count = some count) (hpos : 0 < count)
    (hputs : db.acpOutputSets.Puts set.set_id set' db'.acpOutputSets)
    (hlanded : ∀ r ∈ db.acpOutputSegments.rows, r.set_id = set.set_id → r.state = .landed)
    (hsegments : db'.acpOutputSegments = db.acpOutputSegments)
    (hparts : PartsAdded db.acpOutputDeliverySegments db'.acpOutputDeliverySegments set.set_id 0
      count) :
    DeliveryStep (⟨db, files⟩, log) (⟨db', files⟩, log) := by
  intro hinv
  have hcursor : set'.acknowledged_cursor = set.acknowledged_cursor := by
    cases hedge with
    | acknowledged claim index state now hholds _ _ =>
      rw [holds_delivering hholds] at hstate
      cases hstate
    | _ => rfl
  have hlater : DeliveryLater (⟨db, files⟩, log) (⟨db', files⟩, log) := by
    refine later_of_sets hparts.kept (hedge.sets hset hputs) ?_
    rw [hsegments]
    exact fun _ _ _ _ _ => Iff.rfl
  -- the set had no part before
  have hnone : ∀ i, ¬ HasPart db.acpOutputDeliverySegments set.set_id i := by
    rintro i ⟨d, hd, hkey⟩
    obtain ⟨s, hs, hid, hs'⟩ := hinv.owned d hd
    have hsame : s = set := Table.eq_of_key_eq _ hs hset
      (hid.trans (congrArg Prod.fst hkey))
    exact hs' (hsame ▸ hstate)
  have hset' : CursorInv db'.acpOutputDeliverySegments set' := by
    refine ⟨fun _ => ?_, fun _ => ⟨count, hcount, hpos, ?_⟩, ?_, ?_⟩
    · rw [hcursor]
      exact (hinv.cursor set hset).fresh (Or.inl hstate)
    · intro i
      rw [hedge.set_id, hparts.parts i]
      have := hnone i
      simp only [this, false_or, Int.ofNat_zero, Int.zero_add]
    · rw [hstate']
      rintro (h | h | h) <;> cases h
    · rw [hstate']
      rintro (h | h | h) <;> cases h
  obtain ⟨hinv', hstep⟩ := edge_inv hinv hset hedge hcursor hputs hlater hparts.fresh hset'
    (by
      intro s hs hne
      refine (hinv.cursor s hs).of_parts ?_
      intro _ i
      constructor
      · rintro ⟨d, hd, hkey⟩
        rcases hparts.fresh d hd with hold | hid
        · exact ⟨d, hold, hkey⟩
        · exact absurd ((congrArg Prod.fst hkey).symm.trans hid) hne
      · rintro ⟨d, hd, hkey⟩
        exact ⟨d, hparts.kept d hd, hkey⟩)
    (by rw [hsegments]; exact fun r hr _ => hr)
    (by
      intro _ r hr hid
      rw [hlanded r hr hid]
      nofun)
  exact ⟨hinv', hlater, hstep⟩

/-- What a step that leaves sets and parts alone has to show. -/
theorem segments_step (hsets : db'.acpOutputSets = db.acpOutputSets)
    (hparts : db'.acpOutputDeliverySegments = db.acpOutputDeliverySegments)
    (hkept : DeliveryInv (⟨db, files⟩, log) → ∀ s ∈ db.acpOutputSets.rows,
      s.state = .prepared ∨ s.state.issued → ∀ r, r.set_id = s.set_id →
        (r ∈ db'.acpOutputSegments.rows ↔ r ∈ db.acpOutputSegments.rows)) :
    DeliveryStep (⟨db, files⟩, log) (⟨db', files⟩, log) := by
  intro hinv
  have hsegments := hkept hinv
  have hlater : DeliveryLater (⟨db, files⟩, log) (⟨db', files⟩, log) := by
    refine later_of_sets ?_ ?_ ?_
    · rw [hparts]
      exact fun _ h => h
    · rw [hsets]
      exact fun s hs => ⟨s, hs, rfl, SetLater.refl s⟩
    · exact fun s hs hissued => hsegments s hs (Or.inr hissued)
  refine ⟨hinv.of_later hlater rfl ?_ ?_ ?_ ?_, hlater, ?_⟩
  · simp only [hparts, hsets]
    exact hinv.owned
  · simp only [hparts, hsets]
    exact hinv.cursor
  · simp only [hsets]
    intro s hs hissued r hr hid
    exact hinv.landed s hs hissued r ((hsegments s hs hissued r hid).mp hr) hid
  · simp only [hsets]
    exact hinv.acks
  · intro s hs s' hs' hid
    have hs' : s' ∈ db'.acpOutputSets.rows := hs'
    rw [hsets] at hs'
    rw [Table.eq_of_key_eq _ hs' hs hid]
    exact Or.inl rfl

/-- A set is cleaned, with its segments. -/
theorem cleaned_step {set set' : OutputSetRow} (hset : set ∈ db.acpOutputSets.rows)
    (hstate : set.state = .cleaning) (hedge : SetEdge set set') (hstate' : set'.state = .cleaned)
    (hputs : db.acpOutputSets.Puts set.set_id set' db'.acpOutputSets)
    (hsegments : SegmentsCleaned db.acpOutputSegments db'.acpOutputSegments set.set_id)
    (hparts : db'.acpOutputDeliverySegments = db.acpOutputDeliverySegments) :
    DeliveryStep (⟨db, files⟩, log) (⟨db', files⟩, log) := by
  intro hinv
  have hprepared : set'.state ≠ .prepared := by
    rw [hstate']
    nofun
  have hcursor : set'.acknowledged_cursor = set.acknowledged_cursor := by
    cases hedge with
    | acknowledged claim index state now hholds _ _ =>
      rw [holds_delivering hholds] at hstate
      cases hstate
    | _ => rfl
  have hother : ∀ r, r.set_id ≠ set.set_id →
      (r ∈ db'.acpOutputSegments.rows ↔ r ∈ db.acpOutputSegments.rows) := by
    intro r hne
    constructor
    · intro hr
      rcases hsegments.fresh r hr with hold | ⟨hid, -⟩
      · exact hold
      · exact absurd hid hne
    · intro hr
      obtain ⟨r', hr', -, rfl | hid⟩ := hsegments.kept r hr
      · exact hr'
      · exact absurd hid hne
  have hlater : DeliveryLater (⟨db, files⟩, log) (⟨db', files⟩, log) :=
    { log := ⟨[], (List.append_nil _).symm⟩
      parts := by
        rw [hparts]
        exact fun _ h => h
      sets := hedge.sets hset hputs
      segments := by
        intro s hs hissued r hr hid
        obtain ⟨r', hr', hcontent, -⟩ := hsegments.kept r hr
        exact ⟨r', hr', hcontent⟩
      files := fun _ _ _ _ e he => ⟨e, he, rfl⟩
      kept := by
        intro s hs hissued s' hs' hid hopen
        refine ⟨?_, rfl⟩
        intro r hr
        rcases SetEdge.mem hputs hs' with ⟨-, rfl⟩ | ⟨hne, -⟩
        · rw [hstate'] at hopen
          rcases hopen with h | h | h <;> cases h
        · exact hother r (by rw [hr, ← hid]; exact hne) }
  obtain ⟨hinv', hstep⟩ := edge_inv hinv hset hedge hcursor hputs hlater
    (by rw [hparts]; exact fun d hd => Or.inl hd)
    (by rw [hparts]; exact hedge.cursorInv (hinv.cursor set hset) hprepared hcursor)
    (by rw [hparts]; exact fun s hs _ => hinv.cursor s hs)
    (by
      intro r hr hreserved
      rcases hsegments.fresh r hr with hold | ⟨-, hcleaned⟩
      · exact hold
      · rw [hcleaned] at hreserved
        cases hreserved)
    (fun h => absurd h hprepared)
  exact ⟨hinv', hlater, hstep⟩

/-- **Every statement of the spool but an acknowledgement.** -/
theorem SpoolMove.deliveryStep (h : SpoolMove db db') :
    DeliveryStep (⟨db, files⟩, log) (⟨db', files⟩, log) := by
  cases h with
  | kept hsets hsegments hparts =>
    refine segments_step hsets hparts ?_
    rw [hsegments]
    exact fun _ _ _ _ _ _ => Iff.rfl
  | opened set hstate hcursor hinsert hsegments hparts =>
    exact opened_step hstate hcursor hinsert hsegments hparts
  | prepared set set' count hset hstate hedge hstate' hcount hpos hputs hlanded hsegments
      hparts =>
    exact prepared_step hset hstate hedge hstate' hcount hpos hputs hlanded hsegments hparts
  | edge set set' hset hedge hstate' hcursor hputs hsegments hparts =>
    exact edge_step hset hedge hstate'.1 hcursor hputs hsegments hparts
  | segment hsets hkept hfresh hparts =>
    refine segments_step hsets hparts ?_
    intro hinv s hs hissued r hid
    constructor
    · intro hr
      rcases hfresh r hr with hold | hassembling | ⟨r₀, hr₀, hreserved, hid₀⟩
      · exact hold
      · -- the set would be assembling
        obtain ⟨s', hs', hp⟩ := List.any_eq_true.mp hassembling
        obtain ⟨hid', hstate⟩ := of_decide_eq_true hp
        have hsame : s' = s := Table.eq_of_key_eq _ hs' hs (hid'.trans hid)
        rw [← hsame, hstate] at hissued
        rcases hissued with h | (h | h | h) | (h | h | h) <;> cases h
      · exact absurd hreserved (hinv.landed s hs hissued r₀ hr₀ (hid₀.trans hid))
    · intro hr
      exact hkept r hr (hinv.landed s hs hissued r hr hid)
  | cleaned set set' hset hstate hedge hstate' hputs hsegments hparts =>
    exact cleaned_step hset hstate hedge hstate' hputs hsegments hparts
  | discarded set hset hstate hsets hsegments hparts =>
    refine segments_step hsets hparts ?_
    intro _ s hs hissued r hid
    -- the set that was discarded is abandoned, so it is another one
    have hne : r.set_id ≠ set.set_id := by
      intro hid'
      have hsame : s = set := Table.eq_of_key_eq _ hs hset (hid.symm.trans hid')
      rw [hsame, hstate] at hissued
      rcases hissued with h | (h | h | h) | (h | h | h) <;> cases h
    constructor
    · intro hr
      rcases hsegments.fresh r hr with hold | ⟨hid', -⟩
      · exact hold
      · exact absurd hid' hne
    · intro hr
      obtain ⟨r', hr', -, rfl | hid'⟩ := hsegments.kept r hr
      · exact hr'
      · exact absurd hid' hne

/-- **An acknowledgement.** -/
theorem acked_step {claim : ClaimedOutputSet} {set : OutputSetRow} {index : Int} {now : String}
    {state : SetState} {count : Nat} (hcount : set.segment_count = some count)
    (hclaim : claim.segment_count = count) (hset : set ∈ db.acpOutputSets.rows)
    (hholds : claim.holds set = true) (hindex : set.acknowledged_cursor = index - 1)
    (hstate : state = if index + 1 = claim.segment_count then .delivered else .delivering)
    (hputs : db.acpOutputSets.Puts set.set_id (set.acknowledged index state now)
      db'.acpOutputSets)
    (hframe : db' = { db with acpOutputSets := db'.acpOutputSets }) :
    DeliveryStep (⟨db, files⟩, log) (⟨db', files⟩, log ++ [.acked claim.set_id index
      claim.claim_owner claim.claim_revision]) := by
  intro hinv
  obtain ⟨hid, hdelivering, howner, hrevision⟩ := of_decide_eq_true hholds
  have hedge : SetEdge set (set.acknowledged index state now) :=
    .acknowledged claim index state now hholds hindex hstate
  have hparts : db'.acpOutputDeliverySegments = db.acpOutputDeliverySegments := by rw [hframe]
  have hsegments : db'.acpOutputSegments = db.acpOutputSegments := by rw [hframe]
  have hlater : DeliveryLater (⟨db, files⟩, log) (⟨db', files⟩, log ++ [.acked claim.set_id index
      claim.claim_owner claim.claim_revision]) :=
    { log := ⟨_, rfl⟩
      parts := by
        rw [hparts]
        exact fun _ h => h
      sets := hedge.sets hset hputs
      segments := by
        rw [hsegments]
        exact fun _ _ _ r hr _ => ⟨r, hr, rfl⟩
      files := fun _ _ _ _ e he => ⟨e, he, rfl⟩
      kept := by
        rw [hsegments]
        exact fun _ _ _ _ _ _ _ => ⟨fun _ _ => Iff.rfl, rfl⟩ }
  have hnow : set.acknowledged index state now ∈ db'.acpOutputSets.rows := by
    refine Table.mem_of_get (k := set.set_id) ?_
    rw [hputs, if_pos rfl]
  obtain ⟨count', ⟨hcount', hpos, hhas⟩, hle, hlt⟩ :=
    (hinv.cursor set hset).opened (Or.inr (Or.inl hdelivering))
  obtain rfl : count' = count := Option.some.inj (hcount'.symm.trans hcount)
  have hacked (set_id : String) (i : Int) : Acked (log ++ [.acked claim.set_id index
      claim.claim_owner claim.claim_revision]) set_id i ↔
      Acked log set_id i ∨ (set_id = claim.set_id ∧ i = index) := by
    unfold Acked
    simp only [List.mem_append, List.mem_singleton, SpoolEvent.acked.injEq]
    constructor
    · rintro ⟨owner, revision, hold | ⟨rfl, rfl, -, -⟩⟩
      · exact Or.inl ⟨owner, revision, hold⟩
      · exact Or.inr ⟨rfl, rfl⟩
    · rintro (⟨owner, revision, hold⟩ | ⟨rfl, rfl⟩)
      · exact ⟨owner, revision, Or.inl hold⟩
      · exact ⟨_, _, Or.inr ⟨rfl, rfl, rfl, rfl⟩⟩
  have hinv' : DeliveryInv (⟨db', files⟩, log ++ [.acked claim.set_id index claim.claim_owner
      claim.claim_revision]) := by
    refine ⟨?_, ?_, ?_, ?_, ?_, ?_, ?_, ?_⟩
    · simp only [hparts]
      intro d hd
      obtain ⟨s, hs, hsid, hstate⟩ := hinv.owned d hd
      rcases hputs.kept (Table.get_of_mem hset) hs with ⟨rfl, hs'⟩ | ⟨-, hs'⟩
      · exact ⟨_, hs', hsid, hedge.not_assembling⟩
      · exact ⟨s, hs', hsid, hstate⟩
    · simp only [hparts]
      intro s hs
      rcases SetEdge.mem hputs hs with ⟨-, rfl⟩ | ⟨-, hold⟩
      · -- the set is delivered exactly when this was its last part
        have hstate : (set.acknowledged index state now).state =
            if index + 1 = claim.segment_count then .delivered else .delivering := hstate
        by_cases hlast : index + 1 = claim.segment_count
        · rw [if_pos hlast] at hstate
          refine ⟨?_, ?_, ?_, fun _ => ⟨count', ⟨hcount', hpos, hhas⟩, ?_⟩⟩
          · rw [hstate]
            rintro (h | h | h) <;> cases h
          · rw [hstate]
            nofun
          · rw [hstate]
            rintro (h | h | h) <;> cases h
          · show index + 1 = count'
            omega
        · rw [if_neg hlast] at hstate
          refine ⟨?_, ?_, fun _ => ⟨count', ⟨hcount', hpos, hhas⟩, ?_, ?_⟩, ?_⟩
          · rw [hstate]
            rintro (h | h | h) <;> cases h
          · rw [hstate]
            nofun
          · show -1 ≤ index
            omega
          · show index + 1 < count'
            omega
          · rw [hstate]
            rintro (h | h | h) <;> cases h
      · exact hinv.cursor s hold
    · simp only [hsegments]
      intro s hs hissued
      rcases SetEdge.mem hputs hs with ⟨-, rfl⟩ | ⟨-, hold⟩
      · exact hinv.landed set hset (Or.inr (Or.inl (Or.inr (Or.inl hdelivering))))
      · exact hinv.landed s hold hissued
    · intro s hs i
      rw [hacked]
      rcases SetEdge.mem hputs hs with ⟨-, rfl⟩ | ⟨hne, hold⟩
      · show Acked log set.set_id i ∨ (set.set_id = claim.set_id ∧ i = index) ↔ 0 ≤ i ∧ i ≤ index
        have hacks : Acked log set.set_id i ↔ 0 ≤ i ∧ i ≤ set.acknowledged_cursor :=
          hinv.acks set hset i
        rw [hacks]
        simp only [hid, true_and]
        omega
      · have hne' : s.set_id ≠ claim.set_id := by
          rw [← hid]
          exact hne
        simp only [hne', false_and, or_false]
        exact hinv.acks s hold i
    · intro set_id i hack
      rcases (hacked set_id i).mp hack with hold | ⟨rfl, -⟩
      · obtain ⟨s, hs, rfl⟩ := hinv.acked_set set_id i hold
        obtain ⟨s', hs', hsid, -⟩ := hlater.sets s hs
        exact ⟨s', hs', hsid⟩
      · exact ⟨_, hnow, hid⟩
    · intro set_id name bytes hread
      have hread : .read set_id name bytes ∈ log := by simpa using hread
      obtain ⟨⟨s, hs, hsid, hissued⟩, hfile, hsame⟩ := hinv.reads _ _ _ hread
      obtain ⟨s', hs', hid', hl⟩ := hlater.sets s hs
      refine ⟨⟨s', hs', hid'.trans hsid, (hl hissued).issued⟩, hfile, ?_⟩
      intro bytes' hread'
      exact hsame bytes' (by simpa using hread')
    · intro set_id part body hsent
      exact (hinv.sent set_id part body (by simpa using hsent)).later hinv hlater
    · intro before set_id part body after hlog hpositive
      -- the send is not the event just logged
      rcases List.append_eq_append_iff.mp hlog with ⟨rest, hbefore, hrest⟩ | ⟨rest, hlog', hrest⟩
      · cases rest with
        | nil => cases hrest
        | cons e rest =>
          have hrest := (List.cons.inj hrest).2
          simp at hrest
      · cases rest with
        | nil => cases hrest
        | cons e rest =>
          rw [List.cons_append, List.cons.injEq] at hrest
          obtain ⟨rfl, -⟩ := hrest
          exact hinv.order before set_id part body rest hlog' hpositive
  refine ⟨hinv', hlater, ?_⟩
  intro s hs s' hs' hsame
  rcases SetEdge.mem hputs hs' with ⟨hk, rfl⟩ | ⟨hne, hold⟩
  · obtain rfl : s = set := Table.eq_of_key_eq _ hs hset (hsame.symm.trans hk)
    refine Or.inr ⟨?_, hdelivering, claim.claim_owner, howner, ?_⟩
    · show index = s.acknowledged_cursor + 1
      omega
    · show log ++ _ = log ++ [.acked s.set_id index claim.claim_owner s.claim_revision]
      rw [hid, hrevision]
  · rw [Table.eq_of_key_eq _ hold hs hsame]
    exact Or.inl rfl

/-- A longer log over the same store and files. -/
theorem later_of_log (w : SpoolWorld) (log new : List SpoolEvent) :
    DeliveryLater (w, log) (w, log ++ new) where
  log := ⟨new, rfl⟩
  parts _ hd := hd
  sets s hs := ⟨s, hs, rfl, SetLater.refl s⟩
  segments _ _ _ r hr _ := ⟨r, hr, rfl⟩
  files _ _ _ _ e he := ⟨e, he, rfl⟩
  kept _ _ _ _ _ _ _ := ⟨fun _ _ => Iff.rfl, rfl⟩

/-- The same store has the same cursors. -/
theorem cursorStep_of_sets {c c' : SpoolWorld × List SpoolEvent}
    (h : c'.1.db.acpOutputSets = c.1.db.acpOutputSets) : CursorStep c c' := by
  intro s hs s' hs' hid
  rw [h] at hs'
  rw [Table.eq_of_key_eq _ hs' hs hid]
  exact Or.inl rfl

theorem quiet_step (c : SpoolWorld × List SpoolEvent) : DeliveryStep c c :=
  fun hinv => ⟨hinv, .refl c, cursorStep_of_sets rfl⟩

/-- One more event that acknowledges nothing. -/
theorem acked_append {event : SpoolEvent} (hevent : ∀ set_id i owner revision,
    event ≠ .acked set_id i owner revision) (set_id : String) (i : Int) :
    Acked (log ++ [event]) set_id i ↔ Acked log set_id i := by
  unfold Acked
  simp only [List.mem_append, List.mem_singleton]
  constructor
  · rintro ⟨owner, revision, hold | hnew⟩
    · exact ⟨owner, revision, hold⟩
    · exact absurd hnew.symm (hevent _ _ _ _)
  · rintro ⟨owner, revision, hold⟩
    exact ⟨owner, revision, Or.inl hold⟩

/-- Sends stay in order when an event is added that is none, or one whose turn it is. -/
theorem order_append {event : SpoolEvent}
    (horder : ∀ before set_id part body after,
      log = before ++ SpoolEvent.sent set_id part body :: after →
      0 < part.index → Acked before set_id (part.index - 1))
    (hevent : ∀ set_id part body, event = .sent set_id part body → 0 < part.index →
      Acked log set_id (part.index - 1)) :
    ∀ before set_id part body after,
      log ++ [event] = before ++ SpoolEvent.sent set_id part body :: after →
      0 < part.index → Acked before set_id (part.index - 1) := by
  intro before set_id part body after hlog hpositive
  rcases List.append_eq_append_iff.mp hlog with ⟨rest, hbefore, hrest⟩ | ⟨rest, hlog', hrest⟩
  · cases rest with
    | nil =>
      rw [List.append_nil] at hbefore
      rw [hbefore]
      exact hevent _ _ _ (List.cons.inj hrest).1 hpositive
    | cons e rest =>
      have hrest := (List.cons.inj hrest).2
      simp at hrest
  · cases rest with
    | nil =>
      rw [List.append_nil] at hlog'
      rw [← hlog']
      exact hevent _ _ _ (List.cons.inj hrest).1.symm hpositive
    | cons e rest =>
      rw [List.cons_append, List.cons.injEq] at hrest
      obtain ⟨rfl, -⟩ := hrest
      exact horder before set_id part body rest hlog' hpositive

/-- A drain reads a file of a set that is sealed for delivery. -/
theorem read_step {w : SpoolWorld} {s : OutputSetRow} {name : String} {bytes : Bytes}
    (hs : s ∈ w.db.acpOutputSets.rows) (hissued : s.state.issued)
    (hread : readExact w.files s.set_id name = .ok bytes) :
    DeliveryStep (w, log) (w, log ++ [.read s.set_id name bytes]) := by
  intro hinv
  have hlater := later_of_log w log [.read s.set_id name bytes]
  have hfile : ∃ e, w.files.file s.set_id name = some e ∧ e.bytes = bytes := by
    unfold readExact at hread
    cases hdir : w.files.get s.set_id with
    | none =>
      rw [hdir] at hread
      cases hread
    | some d =>
      rw [hdir] at hread
      cases hentry : d.files.get name with
      | none => simp [hentry] at hread
      | some e =>
        simp only [hentry] at hread
        split at hread
        · cases hread
          exact ⟨e, by simp [SpoolFiles.file, hdir, hentry], rfl⟩
        · cases hread
  obtain ⟨e, he, hbytes⟩ := hfile
  refine ⟨?_, hlater, cursorStep_of_sets rfl⟩
  refine ⟨hinv.owned, hinv.cursor, hinv.landed, ?_, ?_, ?_, ?_, ?_⟩
  · intro s hs i
    rw [acked_append (by rintro _ _ _ _ ⟨⟩)]
    exact hinv.acks s hs i
  · intro set_id i hacked
    exact hinv.acked_set set_id i ((acked_append (by rintro _ _ _ _ ⟨⟩) set_id i).mp hacked)
  · -- every read of the file, old or new, is what the file holds
    have hold {bytes' : Bytes} (h : .read s.set_id name bytes' ∈ log) : bytes' = bytes :=
      ((hinv.reads _ _ _ h).2.1 e he).symm.trans hbytes
    intro set_id name' bytes' hread'
    rcases List.mem_append.mp hread' with hin | hnew
    · obtain ⟨hset, hfile', hsame⟩ := hinv.reads _ _ _ hin
      refine ⟨hset, hfile', ?_⟩
      intro bytes'' hread''
      rcases List.mem_append.mp hread'' with hin' | hnew'
      · exact hsame bytes'' hin'
      · rw [List.mem_singleton] at hnew'
        cases hnew'
        exact (hold hin).symm
    · rw [List.mem_singleton] at hnew
      cases hnew
      refine ⟨⟨s, hs, rfl, hissued⟩, ?_, ?_⟩
      · intro e' he'
        have he' : w.files.file s.set_id name = some e' := he'
        rw [he] at he'
        cases he'
        exact hbytes
      · intro bytes'' hread''
        rcases List.mem_append.mp hread'' with hin' | hnew'
        · exact hold hin'
        · rw [List.mem_singleton] at hnew'
          cases hnew'
          rfl
  · intro set_id part body hsent
    exact (hinv.sent set_id part body (by simpa using hsent)).later hinv hlater
  · exact order_append hinv.order (by simp)

/-- A drain sends a part. -/
theorem sent_step {w : SpoolWorld} {set_id : String} {part : DeliveryPart} {body : Bytes}
    (hsourced : Sourced w log set_id part body)
    (hturn : 0 < part.index → Acked log set_id (part.index - 1)) :
    DeliveryStep (w, log) (w, log ++ [.sent set_id part body]) := by
  intro hinv
  have hlater := later_of_log w log [.sent set_id part body]
  refine ⟨?_, hlater, cursorStep_of_sets rfl⟩
  refine ⟨hinv.owned, hinv.cursor, hinv.landed, ?_, ?_, ?_, ?_, ?_⟩
  · intro s hs i
    rw [acked_append (by rintro _ _ _ _ ⟨⟩)]
    exact hinv.acks s hs i
  · intro set_id i hacked
    exact hinv.acked_set set_id i ((acked_append (by rintro _ _ _ _ ⟨⟩) set_id i).mp hacked)
  · intro set_id' name bytes hread
    obtain ⟨hset, hfile, hsame⟩ := hinv.reads set_id' name bytes (by simpa using hread)
    exact ⟨hset, hfile, fun bytes' hread' => hsame bytes' (by simpa using hread')⟩
  · intro set_id' part' body' hsent
    rcases List.mem_append.mp hsent with hold | hnew
    · exact (hinv.sent _ _ _ hold).later hinv hlater
    · rw [List.mem_singleton] at hnew
      cases hnew
      exact hsourced.later hinv hlater
  · refine order_append hinv.order ?_
    rintro set_id' part' body' ⟨⟩ hpositive
    exact hturn hpositive

/-- Files go while their set is being cleaned, or was. -/
theorem files_step {db : Db} {files files' : SpoolFiles} (set_id : String)
    (hset : ∀ s ∈ db.acpOutputSets.rows, s.set_id = set_id → s.state.issued → s.state.gone)
    (hothers : ∀ k, k ≠ set_id → files'.get k = files.get k)
    (hfiles : ∀ s ∈ db.acpOutputSets.rows, s.set_id = set_id → s.state.issued → ∀ name e,
      files'.file set_id name = some e → files.file set_id name = some e) :
    DeliveryStep (⟨db, files⟩, log) (⟨db, files'⟩, log) := by
  intro hinv
  have hlater : DeliveryLater (⟨db, files⟩, log) (⟨db, files'⟩, log) :=
    { log := ⟨[], (List.append_nil _).symm⟩
      parts := fun _ hd => hd
      sets := fun s hs => ⟨s, hs, rfl, SetLater.refl s⟩
      segments := fun _ _ _ r hr _ => ⟨r, hr, rfl⟩
      files := by
        intro s hs hissued name e he
        by_cases hid : s.set_id = set_id
        · have he : files'.file set_id name = some e := hid ▸ he
          exact ⟨e, hid ▸ hfiles s hs hid hissued name e he, rfl⟩
        · refine ⟨e, ?_, rfl⟩
          have he : files'.file s.set_id name = some e := he
          unfold SpoolFiles.file at he ⊢
          rw [hothers _ hid] at he
          exact he
      kept := by
        intro s hs hissued s' hs' hid hopen
        refine ⟨fun _ _ => Iff.rfl, hothers _ ?_⟩
        intro hk
        have hsame : s' = s := Table.eq_of_key_eq _ hs' hs hid
        rw [hsame] at hopen
        rcases hset s hs hk hissued with h | h <;> rw [h] at hopen <;>
          rcases hopen with h | h | h <;> cases h }
  exact ⟨hinv.of_later hlater rfl hinv.owned hinv.cursor hinv.landed hinv.acks, hlater,
    cursorStep_of_sets rfl⟩

end

end GuiguBridge
