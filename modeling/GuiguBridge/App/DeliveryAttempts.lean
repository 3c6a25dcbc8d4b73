import GuiguBridge.Acp.OutputRoundTrip
import GuiguBridge.App.DeliveryInvariant
import Mathlib.Data.Nat.Count

/-!
# When a delivery is given up

Drains of one output set in a process where only the room fails (`drain_once` of
`src/src/app/output_drain.rs`, `record_failure` and `acknowledge` of
`src/src/storage/output_delivery.rs`), with the rest of the process in between.

* `roomAnswers`, `DrainsOf` — the runs, for any outcomes of the sends;
* `Account` — what the drains count, as a function of the outcomes; `Account.drain`;
* `Standing` — a set whose parts can be read;
* `deliverParts_played`, `drainPlayed_accounted` — **a drain does what the account says**;
* `drainsOf_counted` — **every failed send counts, in a row or not**;
* `given_up_iff` — **when that is the same as failures in a row**.
-/

namespace GuiguBridge

open Relational Interleave Utf8 Tiling

/-! ### Runs -/

def SpoolEvent.isSent (set_id : String) : SpoolEvent → Bool
  | .sent id .. => decide (id = set_id)
  | _ => false

/-- The sends of a set so far. -/
def sends (set_id : String) (log : List SpoolEvent) : Nat :=
  log.countP (SpoolEvent.isSent set_id)

/-- What the room answers to a set, send after send. -/
abbrev Outcomes := Nat → Except DurableSendError Unit

/-- Statements and calls succeed, and the room answers each send. -/
def roomAnswers (set_id : String) (outcomes : Outcomes) (log : List SpoolEvent) : SpoolInput :=
  ⟨.ok, outcomes (sends set_id log)⟩

/-- What a drain is given. -/
structure DrainTimes where
  owner : String
  now : String
  stale : String

/-- The rest of the process leaves a set alone. -/
structure Elsewhere (set_id : String) (c c' : SpoolWorld × List SpoolEvent) : Prop where
  set : c'.1.db.acpOutputSets.get set_id = c.1.db.acpOutputSets.get set_id
  parts : ∀ i, c'.1.db.acpOutputDeliverySegments.get (set_id, i) =
    c.1.db.acpOutputDeliverySegments.get (set_id, i)
  segments : ∀ i, c'.1.db.landedSegment set_id i = c.1.db.landedSegment set_id i
  files : c'.1.files.get set_id = c.1.files.get set_id
  sends : sends set_id c'.2 = sends set_id c.2

section

variable [Externals] [HashCrates] (set_id : String) (limit rounds : Nat) (outcomes : Outcomes)

/-- One drain. -/
def drainPlayed (times : DrainTimes) (c : SpoolWorld × List SpoolEvent) :
    SpoolWorld × List SpoolEvent :=
  (Thread.played (roomAnswers set_id outcomes)
    (drainOnce times.owner times.now times.stale limit rounds).run c).2

/-- Drains that claim the set, one after the other, and the rest of the process. -/
inductive DrainsOf (w : SpoolWorld) : SpoolWorld × List SpoolEvent → Prop where
  | start : DrainsOf w (w, [])
  | drain {c : SpoolWorld × List SpoolEvent} (h : DrainsOf w c) (times : DrainTimes)
      (set : ClaimedOutputSet) (hset : set.set_id = set_id)
      (hclaim : (claimNextSet times.owner times.now times.stale c.1.db).1 = .ok (some set)) :
      DrainsOf w (drainPlayed set_id limit rounds outcomes times c)
  | elsewhere {c c' : SpoolWorld × List SpoolEvent} (h : DrainsOf w c)
      (helse : Elsewhere set_id c c') : DrainsOf w c'

end

/-! ### The account -/

inductive AccountState where
  | waiting | exhausted | finished
  deriving DecidableEq

/-- A delivery as the drains count it. -/
structure Account where
  acked : Nat
  attempts : Nat
  sends : Nat
  state : AccountState
  deriving DecidableEq

namespace Account

variable (limit : Nat) (outcomes : Outcomes)

/-- The sends of one drain: `taken` is the count that the drain found in the row when it claimed the
set, and it stays what it is while parts are acknowledged. -/
def deliver (taken : Nat) : Nat → Account → Account
  | 0, a => { a with state := .finished }
  | left + 1, a =>
    match outcomes a.sends with
    | .ok () => deliver taken left { a with acked := a.acked + 1, attempts := 0, sends := a.sends + 1 }
    | .error _ =>
      { a with attempts := taken + 1, sends := a.sends + 1,
               state := if limit ≤ taken + 1 then .exhausted else .waiting }

/-- One drain of a set of `count` parts. -/
def drain (count : Nat) (a : Account) : Account :=
  if a.state = .waiting then deliver limit outcomes a.attempts (count - a.acked) a else a

/-- Before the first drain. -/
def opened : Account := ⟨0, 0, 0, .waiting⟩

/-- Drains one after the other. -/
def drains (count : Nat) : Nat → Account
  | 0 => opened
  | n + 1 => drain limit outcomes count (drains count n)

end Account

/-- A send that failed. -/
def Outcomes.failed (outcomes : Outcomes) (i : Nat) : Prop := outcomes i ≠ .ok ()

instance (outcomes : Outcomes) : DecidablePred outcomes.failed := fun i =>
  match h : outcomes i with
  | .ok () => .isFalse fun hne => hne h
  | .error _ => .isTrue fun heq => nomatch h.symm.trans heq

/-- The failures among the first sends. -/
def Outcomes.failures (outcomes : Outcomes) (n : Nat) : Nat := n.count outcomes.failed

/-- What an account says of the outcomes. -/
structure Account.Counted (limit : Nat) (outcomes : Outcomes) (a : Account) : Prop where
  waiting : a.state = .waiting → outcomes.failures a.sends = a.attempts ∧ a.attempts < limit
  exhausted : a.state = .exhausted → outcomes.failures a.sends = limit
  finished : a.state = .finished → outcomes.failures a.sends < limit

theorem Account.opened_counted {limit : Nat} (hlimit : 0 < limit) (outcomes : Outcomes) :
    Account.opened.Counted limit outcomes where
  waiting _ := ⟨Nat.count_zero _, hlimit⟩
  exhausted := nofun
  finished := nofun

/-- The sends of one drain, one by one. -/
theorem Account.deliver_counted {limit taken : Nat} {outcomes : Outcomes} (htaken : taken < limit)
    {left : Nat} {a : Account} (h : outcomes.failures a.sends = taken) :
    (Account.deliver limit outcomes taken left a).Counted limit outcomes := by
  induction left generalizing a with
  | zero =>
    refine ⟨nofun, nofun, fun _ => ?_⟩
    show outcomes.failures a.sends < limit
    omega
  | succ left ih =>
    have hnext : outcomes.failures (a.sends + 1) =
        taken + if outcomes.failed a.sends then 1 else 0 := by
      rw [← h]
      exact Nat.count_succ _ _
    unfold Account.deliver
    cases hout : outcomes a.sends with
    | ok _ =>
      have hnot : ¬ outcomes.failed a.sends := fun hne => hne hout
      rw [if_neg hnot, Nat.add_zero] at hnext
      exact ih hnext
    | error e =>
      have hfailed : outcomes.failed a.sends := fun heq => nomatch hout.symm.trans heq
      rw [if_pos hfailed] at hnext
      by_cases hlast : limit ≤ taken + 1
      · simp only [if_pos hlast]
        refine ⟨nofun, fun _ => ?_, nofun⟩
        show outcomes.failures (a.sends + 1) = limit
        omega
      · simp only [if_neg hlast]
        refine ⟨fun _ => ⟨hnext, ?_⟩, nofun, nofun⟩
        show taken + 1 < limit
        omega

/-- **An account counts every failed send.** -/
theorem Account.drain_counted {limit count : Nat} {outcomes : Outcomes} {a : Account}
    (h : a.Counted limit outcomes) : (a.drain limit outcomes count).Counted limit outcomes := by
  unfold Account.drain
  by_cases hwaiting : a.state = .waiting
  · rw [if_pos hwaiting]
    obtain ⟨hcount, hlt⟩ := h.waiting hwaiting
    exact Account.deliver_counted hlt hcount
  · rw [if_neg hwaiting]
    exact h

/-! ### What does not ask the room -/

theorem sends_append (set_id : String) (log new : List SpoolEvent) :
    sends set_id (log ++ new) = sends set_id log + sends set_id new :=
  List.countP_append

theorem sends_silent {new : List SpoolEvent} (h : ∀ e ∈ new, ∀ set_id, e.isSent set_id = false)
    (set_id : String) : sends set_id new = 0 := by
  unfold sends
  rw [List.countP_eq_zero]
  intro e he
  rw [h e he]
  exact Bool.false_ne_true

namespace SpoolM

variable {α β : Type}

/-- A program that does on every successful answer the same, and sends nothing. -/
def Silent (t : SpoolM α) : Prop :=
  Thread.Quiet SpoolInput.calm (fun i => i.answer = .ok) (fun e => ∀ set_id, e.isSent set_id = false)
    t.run

theorem Silent.pure (a : α) : Silent (pure a : SpoolM α) := trivial

theorem Silent.throw (e : OutputSpoolError) : Silent (throw e : SpoolM α) := trivial

theorem Silent.bind {t : SpoolM α} {f : α → SpoolM β} (ht : Silent t) (hf : ∀ a, Silent (f a)) :
    Silent (t >>= f) := Thread.quiet_seq ht hf

theorem Silent.require (c : Bool) (e : OutputSpoolError) : Silent (SpoolM.require c e) := by
  cases c with
  | true => exact Silent.pure ()
  | false => exact Silent.throw e

theorem Silent.some? (o : Option α) (e : OutputSpoolError) : Silent (SpoolM.some? o e) := by
  cases o with
  | none => exact Silent.throw e
  | some a => exact Silent.pure a

theorem Silent.file {f : SpoolFiles → Except OutputSpoolError α × SpoolFiles}
    {log : Except OutputSpoolError α → List SpoolEvent}
    (hlog : ∀ r, ∀ e ∈ log r, ∀ set_id, e.isSent set_id = false) : Silent (SpoolM.file f log) := by
  refine ⟨?_, fun _ => trivial⟩
  rintro ⟨answer, send⟩ rfl w
  exact ⟨rfl, rfl, hlog _⟩

end SpoolM

section

open SpoolM (Silent)

theorem readExactFile_quiet (set_id name : String) : Silent (readExactFile set_id name) := by
  refine .file fun r => ?_
  cases r with
  | error e => nofun
  | ok bytes =>
    intro e he _
    rw [List.mem_singleton.mp he]
    rfl

variable [HashCrates]

theorem validateSegmentFiles_quiet (set_id : String) (items : List ManifestSegment)
    (index start : Nat) (aggregate : Bytes) :
    Silent (validateSegmentFiles set_id index start aggregate items) := by
  induction items generalizing index start aggregate with
  | nil => exact .pure _
  | cons item rest ih =>
    refine .bind (.require _ _) fun _ => ?_
    refine .bind (readExactFile_quiet set_id item.name) fun content => ?_
    exact .bind (.require _ _) fun _ => ih _ _ _

/-- **Reading a part is quiet.** -/
theorem readDelivery_quiet [Externals] (delivery : PendingDelivery) :
    Silent (readDelivery delivery) := by
  have htree (manifest : Manifest) : Silent (validateTree delivery.spool.set_id manifest) := by
    refine .bind (.file fun _ => nofun) fun _ => ?_
    refine .bind (.require _ _) fun _ => ?_
    exact .bind (validateSegmentFiles_quiet _ _ _ _ _) fun _ => .require _ _
  have hmanifest : Silent (validateManifest delivery) := by
    refine .bind (readExactFile_quiet _ _) fun _ => ?_
    refine .bind (.some? _ _) fun manifest => ?_
    refine .bind (.require _ _) fun _ => ?_
    refine .bind (htree manifest) fun _ => ?_
    exact .bind (.some? _ _) fun _ => .require _ _
  have hsegment : Silent (readSegment delivery.spool) := by
    refine .bind (readExactFile_quiet _ _) fun _ => ?_
    exact .bind (.require _ _) fun _ => .pure _
  refine .bind hmanifest fun _ => ?_
  refine .bind hsegment fun _ => ?_
  refine .bind (.some? _ _) fun _ => ?_
  exact .bind (.require _ _) fun _ => .pure _

end

/-! ### Sets that are done with -/

/-- A set of which every part is acknowledged. -/
def Closed (set_id : String) (db : Db) : Prop :=
  ∃ r, db.acpOutputSets.get set_id = some r ∧ r.state.finished

/-- A statement that took the row of a set into such a state. -/
theorem Closed.update {set_id : String} {db db' : Db} {p : OutputSetRow → Bool}
    {f : OutputSetRow → OutputSetRow} (hf : ∀ r, (f r).set_id = r.set_id)
    (hp : ∀ r, p r = true → r.set_id = set_id) (hone : db.acpOutputSets.affected p = 1)
    (hsets : db'.acpOutputSets = db.acpOutputSets.updateWhere p f hf)
    (hrow : ∀ r, (f r).state.finished) : Closed set_id db' := by
  obtain ⟨r, -, -, hputs⟩ := Table.update_puts hp hone
  rw [← hsets] at hputs
  exact ⟨f r, (hputs set_id).trans (if_pos rfl), hrow r⟩

theorem beginCleanup_closed {set_id now : String} {db : Db} (h : Closed set_id db) :
    Closed set_id (beginCleanup set_id now db).2 := by
  obtain ⟨⟨r, db'⟩, hcall⟩ : ∃ v, beginCleanup set_id now db = v := ⟨_, rfl⟩
  rw [hcall]
  obtain hok | ⟨rfl, -⟩ := Tx.commit_cases hcall
  · simp only [Tx.bind_ok, Tx.read_ok, Tx.update_ok, Tx.require_ok, Tx.pure_ok] at hok
    obtain ⟨n, _, ⟨hn, rfl⟩, _, _, ⟨hone, rfl⟩, _, _, ⟨-, rfl⟩, -, rfl⟩ := hok
    refine .update ?_ (fun r hp => (of_decide_eq_true hp).1) (hn.trans (of_decide_eq_true hone))
      rfl fun r => Or.inr (Or.inl ?_)
    all_goals
      intros
      rfl
  · exact h

theorem finishCleanup_closed {set_id now : String} {db : Db} (h : Closed set_id db) :
    Closed set_id (finishCleanup set_id now db).2 := by
  obtain ⟨⟨r, db'⟩, hcall⟩ : ∃ v, finishCleanup set_id now db = v := ⟨_, rfl⟩
  rw [hcall]
  obtain hok | ⟨rfl, -⟩ := Tx.commit_cases hcall
  · simp only [Tx.bind_ok, Tx.read_ok, Tx.orElse_ok, Tx.require_ok, Tx.update_ok,
      Tx.pure_ok] at hok
    obtain ⟨_, _, ⟨-, rfl⟩, bytes, _, ⟨-, rfl⟩, _, _, ⟨-, rfl⟩, hmore⟩ := hok
    obtain ⟨n, s₁, hquota, m, _, ⟨hm, rfl⟩, _, _, ⟨hone, rfl⟩, -, rfl⟩ := hmore
    obtain ⟨hn, hm'⟩ := of_decide_eq_true hone
    obtain ⟨-, rfl⟩ := updateQuota_one hquota hn
    refine .update ?_ (fun r hp => (of_decide_eq_true hp).1) (hm.trans hm') rfl
      fun r => Or.inr (Or.inr ?_)
    all_goals
      intros
      rfl
  · exact h

/-- Such a set, and how often it was sent. -/
def ClosedAfter (set_id : String) (n : Nat) (c : SpoolWorld × List SpoolEvent) : Prop :=
  Closed set_id c.1.db ∧ sends set_id c.2 = n

section

variable {α : Type} {set_id : String} {n : Nat}

theorem preserves_store {f : Db → Except OutputStoreError α × Db}
    (hf : ∀ db, Closed set_id db → Closed set_id (f db).2) :
    Thread.Preserves (ClosedAfter set_id n) (SpoolM.store f).run := by
  rintro ⟨answer, send⟩ w
  refine ⟨fun log h => ?_, trivial⟩
  cases answer with
  | ok => exact ⟨hf _ h.1, by simpa [Thread.after] using h.2⟩
  | failed => exact ⟨h.1, by simpa [Thread.after] using h.2⟩
  | lost => exact ⟨hf _ h.1, by simpa [Thread.after] using h.2⟩

theorem preserves_file {f : SpoolFiles → Except OutputSpoolError α × SpoolFiles} :
    Thread.Preserves (ClosedAfter set_id n) (SpoolM.file f).run := by
  rintro ⟨answer, send⟩ w
  refine ⟨fun log h => ?_, trivial⟩
  cases answer with
  | ok => exact ⟨h.1, by simpa [Thread.after] using h.2⟩
  | failed => exact ⟨h.1, by simpa [Thread.after] using h.2⟩
  | lost => exact ⟨h.1, by simpa [Thread.after] using h.2⟩

/-- The files of a set go, and its row stays. -/
theorem cleanup_preserves (segments : List OutputSegment) :
    Thread.Preserves (ClosedAfter set_id n) (cleanup set_id segments).run := by
  have hfiles : ∀ names, Thread.Preserves (ClosedAfter set_id n) (removeFiles set_id names).run := by
    intro names
    induction names with
    | nil => trivial
    | cons name rest ih => exact Thread.preserves_seq preserves_file fun _ => ih
  refine Thread.preserves_seq preserves_file fun dir_exists => ?_
  cases dir_exists with
  | false => trivial
  | true =>
    refine Thread.preserves_seq preserves_file fun _ => ?_
    refine Thread.preserves_seq (hfiles _) fun _ => ?_
    exact Thread.preserves_seq preserves_file fun _ => preserves_file

theorem cleanupSet_preserves (now : String) :
    Thread.Preserves (ClosedAfter set_id n) (cleanupSet set_id now).run := by
  refine Thread.preserves_seq (preserves_store fun _ => beginCleanup_closed) fun segments => ?_
  refine Thread.preserves_seq (cleanup_preserves segments) fun _ => ?_
  exact preserves_store fun _ => finishCleanup_closed

end

/-! ### Sets that stand -/

/-- What a claim of a set found. -/
theorem claimNextSet_claims {owner now stale : String} {db : Db} {set : ClaimedOutputSet}
    (h : (claimNextSet owner now stale db).1 = .ok (some set)) :
    ∃ s count, db.acpOutputSets.get set.set_id = some s ∧ s.segment_count = some count ∧
      (s.state = .sealed ∨ s.state = .delivering) ∧
      set = (s.claimed owner now).toClaim owner count ∧
      claimNextSet owner now stale db = (.ok (some set),
        db.updateSets (fun r => decide (r.set_id = set.set_id)) (OutputSetRow.claimed owner now)
          fun _ => rfl) := by
  unfold claimNextSet at h ⊢
  cases hnext : db.nextClaimable stale with
  | none =>
    rw [hnext] at h
    cases h
  | some s =>
    rw [hnext] at h
    obtain ⟨hmem, hstate⟩ := nextClaimable_mem hnext
    cases hcount : s.segment_count with
    | none => simp [OutputSetRow.claimed, hcount] at h
    | some count =>
      simp only [OutputSetRow.claimed, hcount, Except.ok.injEq, Option.some.injEq] at h
      subst h
      refine ⟨s, count, Table.get_of_mem hmem, hcount, hstate, rfl, ?_⟩
      simp only [OutputSetRow.claimed, hcount]
      rfl

/-- A part that is read whatever happens elsewhere. -/
def PartReadable [Externals] [HashCrates] (set_id : String) (files : SpoolFiles)
    (pending : PendingDelivery) : Prop :=
  ∃ bytes text, fromUtf8 bytes = some text ∧
    ∀ w : SpoolWorld, w.files.get set_id = files.get set_id →
      Thread.alone .calm (readDelivery pending).run w = (.ok bytes, w)

/-- A set that is landed whole: each of its parts is found and read. -/
structure Standing [Externals] [HashCrates] (set_id : String) (count : Nat) (w : SpoolWorld)
    (r : OutputSetRow) : Prop where
  get : w.db.acpOutputSets.get set_id = some r
  sized : r.segment_count = some count
  positive : 0 < count
  parts : ∀ (set : ClaimedOutputSet) (n : Nat), set.set_id = set_id →
    set.acknowledged_cursor = (n : Int) - 1 → n < count →
    ∃ pending, nextSegment set w.db = .ok (some pending) ∧ pending.part.index = n ∧
      PartReadable set_id w.files pending

section

/-- The next part depends on the rows of its set. -/
theorem nextSegment_frame {set : ClaimedOutputSet} {db db' : Db} {r r' : OutputSetRow}
    (hparts : ∀ i, db'.acpOutputDeliverySegments.get (set.set_id, i) =
      db.acpOutputDeliverySegments.get (set.set_id, i))
    (hsegments : ∀ i, db'.landedSegment set.set_id i = db.landedSegment set.set_id i)
    (hget : db.acpOutputSets.get set.set_id = some r)
    (hget' : db'.acpOutputSets.get set.set_id = some r')
    (htotals : r'.total_bytes = r.total_bytes ∧ r'.total_hash = r.total_hash) :
    nextSegment set db' = nextSegment set db := by
  unfold nextSegment
  rw [hparts, hget, hget']
  cases db.acpOutputDeliverySegments.get (set.set_id, set.acknowledged_cursor + 1) with
  | none => rfl
  | some d =>
    simp only [hsegments]
    cases db.landedSegment set.set_id d.spool_index with
    | none => rfl
    | some s => simp only [htotals.1, htotals.2]

variable [Externals] [HashCrates] {set_id : String} {count : Nat} {w w' : SpoolWorld}
  {r r' : OutputSetRow}

/-- **What a set needs to stand**: its parts, its segments and its files. -/
theorem Standing.frame (h : Standing set_id count w r)
    (hparts : ∀ i, w'.db.acpOutputDeliverySegments.get (set_id, i) =
      w.db.acpOutputDeliverySegments.get (set_id, i))
    (hsegments : ∀ i, w'.db.landedSegment set_id i = w.db.landedSegment set_id i)
    (hfiles : w'.files.get set_id = w.files.get set_id)
    (hget : w'.db.acpOutputSets.get set_id = some r')
    (hrow : r'.total_bytes = r.total_bytes ∧ r'.total_hash = r.total_hash ∧
      r'.segment_count = r.segment_count) : Standing set_id count w' r' where
  get := hget
  sized := hrow.2.2.trans h.sized
  positive := h.positive
  parts := by
    intro set n hset hcursor hn
    obtain ⟨pending, hnext, hindex, bytes, text, htext, hread⟩ := h.parts set n hset hcursor hn
    subst hset
    refine ⟨pending, ?_, hindex, bytes, text, htext, ?_⟩
    · rw [nextSegment_frame hparts hsegments h.get hget ⟨hrow.1, hrow.2.1⟩]
      exact hnext
    · intro v hv
      exact hread v (hv.trans hfiles)

/-- A statement of a drain moves the row on. -/
theorem Standing.update (h : Standing set_id count w r) {p : OutputSetRow → Bool}
    {f : OutputSetRow → OutputSetRow} (hf : ∀ s, (f s).set_id = s.set_id)
    (hkey : ∀ s, p s = true → s.set_id = set_id) (hp : p r = true)
    (hrow : (f r).total_bytes = r.total_bytes ∧ (f r).total_hash = r.total_hash ∧
      (f r).segment_count = r.segment_count) :
    w.db.acpOutputSets.affected p = 1 ∧
      Standing set_id count { w with db := w.db.updateSets p f hf } (f r) := by
  refine ⟨(Table.affected_eq_one_iff hkey).mpr ⟨r, h.get, hp⟩, ?_⟩
  have hputs : w.db.acpOutputSets.Puts set_id (f r) (w.db.acpOutputSets.updateWhere p f hf) :=
    Table.puts_updateWhere hkey h.get hp
  exact h.frame (fun _ => rfl) (fun _ => rfl) rfl ((hputs set_id).trans (if_pos rfl)) hrow

end

/-! ### A drain -/

section

variable [Externals] [HashCrates]

/-- A claimed set during a drain, and the account so far. -/
structure Delivering (set_id : String) (count : Nat) (set : ClaimedOutputSet)
    (c : SpoolWorld × List SpoolEvent) (a : Account) : Prop where
  standing : ∃ r, Standing set_id count c.1 r ∧ set.holds r = true ∧
    r.acknowledged_cursor = set.acknowledged_cursor
  named : set.set_id = set_id
  sized : set.segment_count = count
  cursor : set.acknowledged_cursor = (a.acked : Int) - 1
  sends : sends set_id c.2 = a.sends

/-- A set between two drains is what the account says. -/
structure Accounted (set_id : String) (count : Nat) (c : SpoolWorld × List SpoolEvent)
    (a : Account) : Prop where
  sends : sends set_id c.2 = a.sends
  waiting : a.state = .waiting → ∃ r, Standing set_id count c.1 r ∧ r.state = .sealed ∧
    r.acknowledged_cursor = (a.acked : Int) - 1 ∧ r.attempt_count = a.attempts ∧ a.acked < count
  exhausted : a.state = .exhausted → ∃ r, c.1.db.acpOutputSets.get set_id = some r ∧
    r.state = .partial_ ∧ r.failure_class = some "attempts_exhausted"
  finished : a.state = .finished → Closed set_id c.1.db

variable {set_id now : String} {limit count rounds : Nat} {outcomes : Outcomes}
  {set : ClaimedOutputSet} {c : SpoolWorld × List SpoolEvent} {a : Account}

omit [Externals] [HashCrates] in
theorem played_store {α : Type} (f : Db → Except OutputStoreError α × Db)
    (log : Except OutputStoreError α → List SpoolEvent) (c : SpoolWorld × List SpoolEvent) :
    Thread.played (roomAnswers set_id outcomes) (SpoolM.store f log).run c =
      ((f c.1.db).1.mapError .store, ⟨(f c.1.db).2, c.1.files⟩, c.2 ++ log (f c.1.db).1) := rfl

/-- What a drain does once the room has answered. -/
def afterSend (limit : Nat) (now : String) (rounds : Nat) (set : ClaimedOutputSet)
    (part : DeliveryPart) : Except DurableSendError Unit → SpoolM Nat
  | .ok () => do
    let acked ← acknowledgePart set part.index now
    SpoolM.require acked .identity
    if part.index + 1 = set.segment_count then do
      cleanupSet set.set_id now
      pure 1
    else
      deliverParts limit now rounds { set with acknowledged_cursor := part.index }
  | .error error => do
    let _ ← SpoolM.store (recordFailure set (error = .permanent) limit now)
    pure 0

/-- One part is found, read and sent. -/
theorem round_played (limit : Nat) (now : String) (rounds : Nat) (outcomes : Outcomes)
    (h : Delivering set_id count set c a) (hleft : a.acked < count) :
    ∃ (part : DeliveryPart) (log : List SpoolEvent), part.index = a.acked ∧
      sends set_id log = a.sends + 1 ∧
      Thread.played (roomAnswers set_id outcomes)
          (deliverParts limit now (rounds + 1) set).run c =
        Thread.played (roomAnswers set_id outcomes)
          (afterSend limit now rounds set part (outcomes a.sends)).run (c.1, log) := by
  obtain ⟨w, log⟩ := c
  obtain ⟨r, hr, -, -⟩ := h.standing
  obtain ⟨pending, hnext, hindex, bytes, text, htext, hread⟩ :=
    hr.parts set a.acked h.named h.cursor hleft
  have hfound : Thread.played (roomAnswers set_id outcomes)
      (SpoolM.store fun db => (nextSegment set db, db)).run (w, log) =
        (.ok (some pending), w, log) := by
    rw [played_store, List.append_nil, hnext]
    rfl
  obtain ⟨new, hnew, hplayed⟩ := Thread.played_quiet (f := roomAnswers set_id outcomes)
    (fun _ => rfl) (readDelivery_quiet pending) w log
  rw [hread w rfl] at hplayed
  have hsends : sends set_id (log ++ new) = a.sends := by
    rw [sends_append, sends_silent hnew, Nat.add_zero]
    exact h.sends
  have hsent : Thread.played (roomAnswers set_id outcomes) (sendDurable set pending.part bytes).run
      (w, log ++ new) = (.ok (outcomes a.sends), w,
        log ++ new ++ [.sent set_id pending.part bytes]) := by
    rw [← hsends, ← h.named]
    rfl
  refine ⟨pending.part, log ++ new ++ [.sent set_id pending.part bytes], hindex, ?_, ?_⟩
  · rw [sends_append, hsends]
    simp [sends, SpoolEvent.isSent]
  · refine (Thread.played_seq _ _ hfound).trans ?_
    refine (Thread.played_seq _ _ hplayed).trans ?_
    rw [htext]
    refine (Thread.played_seq _ _ (a := text) rfl).trans ?_
    refine (Thread.played_seq _ _ hsent).trans ?_
    cases outcomes a.sends with
    | ok _ => rfl
    | error e => rfl

omit [Externals] [HashCrates] in
theorem recordFailure_transient (set : ClaimedOutputSet) (limit : Nat) (now : String) (db : Db) :
    (recordFailure set false limit now db).2 = db.updateSets set.holds (OutputSetRow.failed
      (if limit ≤ set.attempt_count + 1 then .partial_ else .sealed) (set.attempt_count + 1)
      (if limit ≤ set.attempt_count + 1 then some "attempts_exhausted" else none) now)
      fun _ => rfl := by
  unfold recordFailure
  simp only [Bool.false_or, Bool.false_eq_true, if_false, decide_eq_true_eq]

/-- A failed send is one attempt more than the claim had found. -/
theorem failed_accounted (h : Delivering set_id count set c a) (hleft : a.acked < count)
    {error : DurableSendError} (hpermanent : error ≠ .permanent) {part : DeliveryPart}
    {log : List SpoolEvent} (hlog : sends set_id log = a.sends + 1) :
    Accounted set_id count (Thread.played (roomAnswers set_id outcomes)
        (afterSend limit now rounds set part (.error error)).run (c.1, log)).2
      { a with attempts := set.attempt_count + 1, sends := a.sends + 1,
               state := if limit ≤ set.attempt_count + 1 then .exhausted else .waiting } := by
  obtain ⟨r, hr, hholds, hcursor⟩ := h.standing
  obtain ⟨-, hnew⟩ := hr.update (f := OutputSetRow.failed
      (if limit ≤ set.attempt_count + 1 then .partial_ else .sealed) (set.attempt_count + 1)
      (if limit ≤ set.attempt_count + 1 then some "attempts_exhausted" else none) now)
    (fun _ => rfl) (fun s (hs : set.holds s = true) => (holds_set_id hs).trans h.named) hholds
    ⟨rfl, rfl, rfl⟩
  have hplayed : (Thread.played (roomAnswers set_id outcomes)
      (afterSend limit now rounds set part (.error error)).run (c.1, log)).2 =
      (⟨c.1.db.updateSets set.holds (OutputSetRow.failed
        (if limit ≤ set.attempt_count + 1 then .partial_ else .sealed) (set.attempt_count + 1)
        (if limit ≤ set.attempt_count + 1 then some "attempts_exhausted" else none) now)
        fun _ => rfl, c.1.files⟩, log) := by
    rw [← recordFailure_transient, ← decide_eq_false hpermanent]
    show (_, log ++ []) = _
    rw [List.append_nil]
    rfl
  rw [hplayed]
  by_cases hlast : limit ≤ set.attempt_count + 1
  · simp only [if_pos hlast] at hnew ⊢
    exact ⟨hlog, nofun, fun _ => ⟨_, hnew.get, rfl, rfl⟩, nofun⟩
  · simp only [if_neg hlast] at hnew ⊢
    refine ⟨hlog, fun _ => ⟨_, hnew, rfl, ?_, rfl, hleft⟩, nofun, nofun⟩
    exact hcursor.trans h.cursor

/-- A drain ends where a send fails. -/
theorem refused_accounted (h : Delivering set_id count set c a) (hleft : a.acked < count)
    (hpermanent : ∀ i, outcomes i ≠ .error .permanent) {error : DurableSendError}
    (hout : outcomes a.sends = .error error) :
    Accounted set_id count (Thread.played (roomAnswers set_id outcomes)
        (deliverParts limit now (rounds + 1) set).run c).2
      { a with attempts := set.attempt_count + 1, sends := a.sends + 1,
               state := if limit ≤ set.attempt_count + 1 then .exhausted else .waiting } := by
  obtain ⟨part, log, -, hlog, hround⟩ := round_played limit now rounds outcomes h hleft
  rw [hround, hout]
  refine failed_accounted h hleft ?_ hlog
  intro heq
  exact hpermanent a.sends (hout.trans (congrArg _ heq))

/-- An acknowledged part: the cursor moves, and the claim keeps the count that it found. -/
theorem acked_delivering (now : String) (outcomes : Outcomes)
    (h : Delivering set_id count set c a) {part : DeliveryPart}
    (hindex : part.index = a.acked) {log : List SpoolEvent} (hlog : sends set_id log = a.sends + 1)
    (state : SetState) (hstate : state = if part.index + 1 = set.segment_count then .delivered
      else .delivering) :
    ∃ (db : Db) (r : OutputSetRow) (log' : List SpoolEvent),
      Thread.played (roomAnswers set_id outcomes) (acknowledgePart set part.index now).run
          (c.1, log) = (.ok true, ⟨db, c.1.files⟩, log') ∧
      Standing set_id count ⟨db, c.1.files⟩ (r.acknowledged part.index state now) ∧
      set.holds r = true ∧ sends set_id log' = a.sends + 1 := by
  obtain ⟨r, hr, hholds, hcursor⟩ := h.standing
  have hp : (set.holds r && decide (r.acknowledged_cursor = part.index - 1)) = true := by
    rw [hholds, hcursor, h.cursor, hindex]
    exact decide_eq_true rfl
  obtain ⟨hone, hnew⟩ := hr.update (f := OutputSetRow.acknowledged part.index state now)
    (fun _ => rfl) (fun s (hs : (set.holds s && decide (s.acknowledged_cursor = part.index - 1)) =
      true) => (holds_set_id (Bool.and_eq_true_iff.mp hs).1).trans h.named) hp ⟨rfl, rfl, rfl⟩
  have hack : acknowledge set part.index now c.1.db = (.ok true, c.1.db.updateSets
      (fun s => set.holds s && decide (s.acknowledged_cursor = part.index - 1))
      (OutputSetRow.acknowledged part.index state now) fun _ => rfl) := by
    subst hstate
    unfold acknowledge
    simp only [hone, decide_true]
  refine ⟨_, r, log ++ [.acked set.set_id part.index set.claim_owner set.claim_revision], ?_, hnew,
    hholds, ?_⟩
  · unfold acknowledgePart
    rw [played_store, hack]
    rfl
  · rw [sends_append, hlog]
    rfl

/-- A part that the room took. -/
theorem acked_played (limit : Nat) (now : String) (rounds : Nat)
    (h : Delivering set_id count set c a) (hleft : a.acked < count)
    (hout : outcomes a.sends = .ok ()) :
    ∃ (part : DeliveryPart) (db : Db) (r : OutputSetRow) (log : List SpoolEvent),
      part.index = a.acked ∧ sends set_id log = a.sends + 1 ∧ set.holds r = true ∧
      Standing set_id count ⟨db, c.1.files⟩ (r.acknowledged part.index
        (if part.index + 1 = set.segment_count then .delivered else .delivering) now) ∧
      Thread.played (roomAnswers set_id outcomes)
          (deliverParts limit now (rounds + 1) set).run c =
        Thread.played (roomAnswers set_id outcomes)
          (if part.index + 1 = set.segment_count then cleanupSet set.set_id now >>= fun _ => pure 1
            else deliverParts limit now rounds { set with acknowledged_cursor := part.index }).run
          (⟨db, c.1.files⟩, log) := by
  obtain ⟨part, log, hindex, hlog, hround⟩ := round_played limit now rounds outcomes h hleft
  obtain ⟨db, r, log', hacked, hr, hholds, hlog'⟩ := acked_delivering now outcomes h
    hindex hlog _ rfl
  refine ⟨part, db, r, log', hindex, hlog', hholds, hr, ?_⟩
  rw [hround, hout]
  refine (Thread.played_seq _ _ hacked).trans ?_
  exact (Thread.played_seq _ _ (a := ()) rfl).trans rfl

/-- The last part. -/
theorem acked_last (h : Delivering set_id count set c a) (hlast : a.acked + 1 = count)
    (hout : outcomes a.sends = .ok ()) :
    Accounted set_id count (Thread.played (roomAnswers set_id outcomes)
        (deliverParts limit now (rounds + 1) set).run c).2
      ⟨a.acked + 1, 0, a.sends + 1, .finished⟩ := by
  obtain ⟨part, db, r, log, hindex, hlog, -, hr, hplayed⟩ := acked_played limit now rounds h
    (by omega) hout
  have hcount : part.index + 1 = set.segment_count := by
    rw [hindex, h.sized, ← hlast]
    rfl
  rw [if_pos hcount] at hr hplayed
  have hclosed : ClosedAfter set_id (a.sends + 1) (⟨db, c.1.files⟩, log) :=
    ⟨⟨_, hr.get, Or.inl rfl⟩, hlog⟩
  have hend := Thread.played_preserves (f := roomAnswers set_id outcomes)
    (Thread.preserves_seq (g := fun _ => (pure 1 : SpoolM Nat)) (cleanupSet_preserves now)
      fun _ => trivial) hclosed
  rw [hplayed, h.named]
  exact ⟨hend.2, nofun, nofun, fun _ => hend.1⟩

/-- Any other part. -/
theorem acked_next (limit : Nat) (now : String) (rounds : Nat)
    (h : Delivering set_id count set c a) (hnext : a.acked + 1 < count)
    (hout : outcomes a.sends = .ok ()) :
    ∃ (set' : ClaimedOutputSet) (c' : SpoolWorld × List SpoolEvent),
      set'.attempt_count = set.attempt_count ∧
      Delivering set_id count set' c'
        { a with acked := a.acked + 1, attempts := 0, sends := a.sends + 1 } ∧
      Thread.played (roomAnswers set_id outcomes)
          (deliverParts limit now (rounds + 1) set).run c =
        Thread.played (roomAnswers set_id outcomes) (deliverParts limit now rounds set').run c' := by
  obtain ⟨part, db, r, log, hindex, hlog, hholds, hr, hplayed⟩ := acked_played limit now rounds h
    (by omega) hout
  have hcount : ¬ part.index + 1 = set.segment_count := by
    rw [hindex, h.sized]
    omega
  rw [if_neg hcount] at hr hplayed
  refine ⟨{ set with acknowledged_cursor := part.index }, (⟨db, c.1.files⟩, log), rfl,
    ⟨⟨_, hr, ?_, rfl⟩, h.named, h.sized, ?_, hlog⟩, hplayed⟩
  · obtain ⟨hid, -, howner, hrevision⟩ := of_decide_eq_true hholds
    exact decide_eq_true ⟨hid, rfl, howner, hrevision⟩
  · show part.index = ((a.acked + 1 : Nat) : Int) - 1
    rw [hindex]
    omega

/-- **The rest of a drain does what the account says.** -/
theorem deliverParts_played (hpermanent : ∀ i, outcomes i ≠ .error .permanent) {left : Nat}
    (h : Delivering set_id count set c a) (hleft : a.acked + (left + 1) = count)
    (hrounds : left + 1 ≤ rounds) :
    Accounted set_id count (Thread.played (roomAnswers set_id outcomes)
        (deliverParts limit now rounds set).run c).2
      (Account.deliver limit outcomes set.attempt_count (left + 1) a) := by
  induction left generalizing rounds set c a with
  | zero =>
    obtain ⟨rounds, rfl⟩ := Nat.exists_eq_add_of_le' hrounds
    unfold Account.deliver
    cases hout : outcomes a.sends with
    | ok _ => exact acked_last h hleft hout
    | error e => exact refused_accounted h (by omega) hpermanent hout
  | succ left ih =>
    obtain ⟨rounds, rfl⟩ := Nat.exists_eq_add_of_le' hrounds
    unfold Account.deliver
    cases hout : outcomes a.sends with
    | ok _ =>
      obtain ⟨set', c', htaken, hdelivering, hplayed⟩ := acked_next limit now
        (rounds + (left + 1)) h (by omega) hout
      have hrest := ih hdelivering (by show a.acked + 1 + (left + 1) = count; omega)
        (Nat.le_add_left (left + 1) rounds)
      rw [htaken] at hrest
      exact hplayed ▸ hrest
    | error e => exact refused_accounted h (by omega) hpermanent hout

/-- A claim of a set that waits. -/
theorem claimed_delivering (outcomes : Outcomes) (h : Accounted set_id count c a)
    (hwaiting : a.state = .waiting) {times : DrainTimes} (hset : set.set_id = set_id)
    (hclaim : (claimNextSet times.owner times.now times.stale c.1.db).1 = .ok (some set)) :
    a.acked < count ∧ set.attempt_count = a.attempts ∧ ∃ db,
      Delivering set_id count set (⟨db, c.1.files⟩, c.2) a ∧
      Thread.played (roomAnswers set_id outcomes)
          (SpoolM.store (claimNextSet times.owner times.now times.stale)).run c =
        (.ok (some set), ⟨db, c.1.files⟩, c.2) := by
  obtain ⟨r, hr, hsealed, hcursor, hattempts, hlt⟩ := h.waiting hwaiting
  obtain ⟨s, n, hget, hn, -, hfound, hcall⟩ := claimNextSet_claims hclaim
  have hs : s = r := by
    rw [hset, hr.get] at hget
    exact (Option.some.inj hget).symm
  subst hs
  have hcount : n = count := Option.some.inj (hn.symm.trans hr.sized)
  obtain ⟨-, hnew⟩ := hr.update (f := OutputSetRow.claimed times.owner times.now) (fun _ => rfl)
    (p := fun r => decide (r.set_id = set.set_id))
    (fun r hr => (of_decide_eq_true hr).trans hset)
    (decide_eq_true (by rw [hset]; exact Table.key_of_get hr.get)) ⟨rfl, rfl, rfl⟩
  refine ⟨hlt, ?_, _, ⟨⟨_, hnew, ?_, ?_⟩, hset, ?_, ?_, h.sends⟩, ?_⟩
  · rw [hfound]
    exact hattempts
  · rw [hfound]
    exact decide_eq_true ⟨rfl, rfl, rfl, rfl⟩
  · rw [hfound]
    rfl
  · rw [hfound]
    exact hcount
  · rw [hfound]
    exact hcursor
  · rw [played_store, hcall, List.append_nil]
    rfl

/-- **A drain of the set does what the account says.** -/
theorem drainPlayed_accounted (hpermanent : ∀ i, outcomes i ≠ .error .permanent)
    (hrounds : count ≤ rounds) (h : Accounted set_id count c a) {times : DrainTimes}
    (hset : set.set_id = set_id)
    (hclaim : (claimNextSet times.owner times.now times.stale c.1.db).1 = .ok (some set)) :
    Accounted set_id count (drainPlayed set_id limit rounds outcomes times c)
      (a.drain limit outcomes count) := by
  obtain ⟨s, -, hget, -, hstate, -, -⟩ := claimNextSet_claims hclaim
  rw [hset] at hget
  cases hphase : a.state with
  | waiting =>
    obtain ⟨hlt, htaken, db, hdelivering, hplayed⟩ := claimed_delivering outcomes h
      hphase hset hclaim
    obtain ⟨left, hleft⟩ := Nat.exists_eq_add_of_lt hlt
    have hcount : count - a.acked = left + 1 := by omega
    unfold drainPlayed Account.drain
    rw [if_pos hphase, hcount, ← htaken]
    have hrun : Thread.played (roomAnswers set_id outcomes)
        (drainOnce times.owner times.now times.stale limit rounds).run c = _ :=
      Thread.played_seq _ _ hplayed
    rw [hrun]
    exact deliverParts_played hpermanent hdelivering (by omega) (by omega)
  | exhausted =>
    -- the row is `partial`, and no drain claims it
    obtain ⟨r, hr, hpart, -⟩ := h.exhausted hphase
    rw [hr, Option.some.injEq] at hget
    subst hget
    rw [hpart] at hstate
    exact absurd hstate (by decide)
  | finished =>
    obtain ⟨r, hr, hfinished⟩ := h.finished hphase
    rw [hr, Option.some.injEq] at hget
    subst hget
    exact absurd (hstate.imp id Or.inl) (SetState.not_open_of_finished hfinished)

/-- What the account says, while the rest of the process leaves the set alone. -/
theorem Accounted.elsewhere {c' : SpoolWorld × List SpoolEvent} (h : Accounted set_id count c a)
    (helse : Elsewhere set_id c c') : Accounted set_id count c' a where
  sends := helse.sends.trans h.sends
  waiting hwaiting := by
    obtain ⟨r, hr, hrest⟩ := h.waiting hwaiting
    exact ⟨r, hr.frame helse.parts helse.segments helse.files (helse.set.trans hr.get)
      ⟨rfl, rfl, rfl⟩, hrest⟩
  exhausted hexhausted := by
    obtain ⟨r, hr, hrest⟩ := h.exhausted hexhausted
    exact ⟨r, helse.set.trans hr, hrest⟩
  finished hfinished := by
    obtain ⟨r, hr, hrest⟩ := h.finished hfinished
    exact ⟨r, helse.set.trans hr, hrest⟩

/-- A set that waits may be the one that is claimed next. -/
theorem Accounted.claimable (h : Accounted set_id count c a) (hwaiting : a.state = .waiting) :
    ∃ c', Elsewhere set_id c c' ∧ ∀ times : DrainTimes, ∃ set : ClaimedOutputSet,
      set.set_id = set_id ∧
        (claimNextSet times.owner times.now times.stale c'.1.db).1 = .ok (some set) := by
  obtain ⟨r, hr, hsealed, -⟩ := h.waiting hwaiting
  have hkey : r.set_id = set_id := Table.key_of_get hr.get
  -- the other sets are gone
  refine ⟨(⟨{ c.1.db with acpOutputSets := ⟨[r], List.nodup_singleton _⟩ }, c.1.files⟩, c.2),
    ⟨?_, fun _ => rfl, fun _ => rfl, rfl, rfl⟩, fun times => ?_⟩
  · rw [hr.get]
    exact (Table.get_eq_some_iff _ _ _).mpr ⟨List.mem_singleton_self r, hkey⟩
  · have hclaimable : r.claimable times.stale = true := decide_eq_true (Or.inl hsealed)
    refine ⟨(r.claimed times.owner times.now).toClaim times.owner count, hkey, ?_⟩
    have hsized : (r.claimed times.owner times.now).segment_count = some count := hr.sized
    have hnext : ({ c.1.db with acpOutputSets := ⟨[r], List.nodup_singleton _⟩ } : Db).nextClaimable
        times.stale = some r := by
      unfold Db.nextClaimable
      rw [List.filter_cons_of_pos hclaimable]
      rfl
    unfold claimNextSet
    simp only [hnext, hsized]

/-- A sealed set that no drain has tried yet. -/
structure Untried (set_id : String) (count : Nat) (w : SpoolWorld) : Prop where
  row : ∃ r, Standing set_id count w r ∧ r.state = .sealed ∧ r.acknowledged_cursor = -1 ∧
    r.attempt_count = 0

/-- **Every failed send counts, in a row or not.** -/
theorem drainsOf_counted {w : SpoolWorld} (hlimit : 0 < limit)
    (hpermanent : ∀ i, outcomes i ≠ .error .permanent) (hrounds : count ≤ rounds)
    (h : Untried set_id count w) (hruns : DrainsOf set_id limit rounds outcomes w c) :
    ∃ a, Accounted set_id count c a ∧ a.Counted limit outcomes := by
  induction hruns with
  | start =>
    obtain ⟨r, hr, hsealed, hcursor, hattempts⟩ := h.row
    exact ⟨.opened, ⟨rfl, fun _ => ⟨r, hr, hsealed, hcursor, hattempts, hr.positive⟩, nofun, nofun⟩,
      Account.opened_counted hlimit outcomes⟩
  | drain _ times set hset hclaim ih =>
    obtain ⟨a, ha, hcounted⟩ := ih
    exact ⟨_, drainPlayed_accounted hpermanent hrounds ha hset hclaim,
      Account.drain_counted hcounted⟩
  | elsewhere _ helse ih =>
    obtain ⟨a, ha, hcounted⟩ := ih
    exact ⟨a, ha.elsewhere helse, hcounted⟩

/-- **Every account is that of a run.** -/
theorem exists_drainsOf (limit : Nat) {w : SpoolWorld}
    (hpermanent : ∀ i, outcomes i ≠ .error .permanent) (hrounds : count ≤ rounds) (h : Untried set_id count w) (n : Nat) :
    ∃ c, DrainsOf set_id limit rounds outcomes w c ∧
      Accounted set_id count c (Account.drains limit outcomes count n) := by
  induction n with
  | zero =>
    obtain ⟨r, hr, hsealed, hcursor, hattempts⟩ := h.row
    exact ⟨_, .start, rfl, fun _ => ⟨r, hr, hsealed, hcursor, hattempts, hr.positive⟩, nofun, nofun⟩
  | succ n ih =>
    obtain ⟨c, hruns, ha⟩ := ih
    by_cases hwaiting : (Account.drains limit outcomes count n).state = .waiting
    · obtain ⟨c', helse, hclaim⟩ := ha.claimable hwaiting
      obtain ⟨set, hset, hclaimed⟩ := hclaim ⟨"", "", ""⟩
      exact ⟨_, (hruns.elsewhere helse).drain ⟨"", "", ""⟩ set hset hclaimed,
        drainPlayed_accounted hpermanent hrounds (ha.elsewhere helse) hset hclaimed⟩
    · refine ⟨c, hruns, ?_⟩
      show Accounted set_id count c (Account.drain limit outcomes count _)
      unfold Account.drain
      rw [if_neg hwaiting]
      exact ha

end

/-! ### In a row -/

/-- The last `limit` of `n` sends failed. -/
def Outcomes.lastFailed (outcomes : Outcomes) (limit n : Nat) : Prop :=
  limit ≤ n ∧ ∀ i, n ≤ i + limit → i < n → outcomes.failed i

/-- No send succeeded after one that had failed. -/
def Outcomes.unrecovered (outcomes : Outcomes) (n : Nat) : Prop :=
  ∀ i j, i < j → j < n → outcomes.failed i → outcomes.failed j

section

variable {outcomes : Outcomes} {limit n : Nat}

/-- The failures before the last `limit` sends, and those. -/
theorem Outcomes.failures_of_lastFailed (h : outcomes.lastFailed limit n) :
    outcomes.failures n = outcomes.failures (n - limit) + limit := by
  obtain ⟨hle, hfailed⟩ := h
  have hlast : Nat.count (fun k => outcomes.failed (n - limit + k)) limit = limit := by
    refine Nat.count_iff_forall.mpr fun k hk => ?_
    exact hfailed _ (by omega) (by omega)
  unfold Outcomes.failures
  rw [show n = n - limit + limit by omega, Nat.count_add, hlast, Nat.add_sub_cancel]

/-- **As many failures as the limit are the last sends exactly when none was recovered.** -/
theorem Outcomes.lastFailed_iff (hlimit : outcomes.failures n = limit) :
    outcomes.lastFailed limit n ↔ outcomes.unrecovered n := by
  have hle : limit ≤ n := hlimit ▸ Nat.count_le _
  constructor
  · intro h i j hij hj hi
    have hnone : outcomes.failures (n - limit) = 0 := by
      have hsplit := Outcomes.failures_of_lastFailed h
      omega
    have hlate : ¬ i < n - limit := fun hlt => Nat.count_iff_forall_not.mp hnone i hlt hi
    exact h.2 j (by omega) hj
  · intro h
    refine ⟨hle, fun k hk hkn => ?_⟩
    by_contra hok
    -- before a send that succeeded none failed, and fewer than `limit` are left
    have hnone : outcomes.failures (k + 1) = 0 := by
      refine Nat.count_iff_forall_not.mpr fun i hi hfailed => hok ?_
      cases Nat.lt_or_eq_of_le (Nat.le_of_lt_succ hi) with
      | inl hlt => exact h i k hlt hkn hfailed
      | inr heq => exact heq ▸ hfailed
    have hsplit : outcomes.failures n = outcomes.failures (k + 1) +
        Nat.count (fun i => outcomes.failed (k + 1 + i)) (n - (k + 1)) := by
      unfold Outcomes.failures
      rw [← Nat.count_add, Nat.add_sub_cancel' hkn]
    have hrest := Nat.count_le (fun i => outcomes.failed (k + 1 + i)) (n := n - (k + 1))
    omega

end

/-- The set is given up because its attempts are exhausted. -/
def GivenUp (set_id : String) (db : Db) : Prop :=
  ∃ r, db.acpOutputSets.get set_id = some r ∧ r.state = .partial_ ∧
    r.failure_class = some "attempts_exhausted"

section

variable [Externals] [HashCrates]

/-- **A set is given up once its sends have failed as often as the limit.** -/
theorem givenUp_iff_failures {set_id : String} {limit count rounds : Nat} {outcomes : Outcomes}
    {w : SpoolWorld} {c : SpoolWorld × List SpoolEvent} (hlimit : 0 < limit)
    (hpermanent : ∀ i, outcomes i ≠ .error .permanent) (hrounds : count ≤ rounds)
    (h : Untried set_id count w) (hruns : DrainsOf set_id limit rounds outcomes w c) :
    (GivenUp set_id c.1.db ↔ outcomes.failures (sends set_id c.2) = limit) ∧
      outcomes.failures (sends set_id c.2) ≤ limit := by
  obtain ⟨a, ha, hcounted⟩ := drainsOf_counted hlimit hpermanent hrounds h hruns
  rw [ha.sends]
  cases hphase : a.state with
  | waiting =>
    obtain ⟨r, hr, hsealed, -⟩ := ha.waiting hphase
    obtain ⟨hcount, hlt⟩ := hcounted.waiting hphase
    refine ⟨⟨?_, fun heq => absurd heq (by omega)⟩, by omega⟩
    rintro ⟨s, hs, hpart, -⟩
    rw [hr.get, Option.some.injEq] at hs
    rw [← hs, hsealed] at hpart
    cases hpart
  | exhausted =>
    have hcount := hcounted.exhausted hphase
    exact ⟨⟨fun _ => hcount, fun _ => ha.exhausted hphase⟩, Nat.le_of_eq hcount⟩
  | finished =>
    obtain ⟨r, hr, hfinished⟩ := ha.finished hphase
    have hlt := hcounted.finished hphase
    refine ⟨⟨?_, fun heq => absurd heq (by omega)⟩, Nat.le_of_lt hlt⟩
    rintro ⟨s, hs, hpart, -⟩
    rw [hr, Option.some.injEq] at hs
    rw [← hs] at hpart
    rw [hpart] at hfinished
    obtain h | h | h := hfinished <;> cases h

/-- **That a set is given up says that its last sends failed in a row exactly when fewer sends than
the limit have failed, or none succeeded after the first that failed.**  A part that is acknowledged
in between does not reset what a drain counts. -/
theorem given_up_iff {turn_max : Nat} {policy : DurableOutputPolicy}
    (hpolicy : DurableOutputPolicy.derive turn_max = some policy) {set_id : String}
    {count rounds : Nat} (hrounds : count ≤ rounds) {outcomes : Outcomes}
    (hpermanent : ∀ i, outcomes i ≠ .error .permanent) {w : SpoolWorld}
    (h : Untried set_id count w) {c : SpoolWorld × List SpoolEvent}
    (hruns : DrainsOf set_id policy.delivery_attempt_limit rounds outcomes w c) :
    (GivenUp set_id c.1.db ↔
      outcomes.lastFailed policy.delivery_attempt_limit (sends set_id c.2)) ↔
    (outcomes.failures (sends set_id c.2) < policy.delivery_attempt_limit ∨
      outcomes.unrecovered (sends set_id c.2)) := by
  have hlimit : 0 < policy.delivery_attempt_limit := by
    rw [(DurableOutputPolicy.derived hpolicy).1.attempts]
    decide
  obtain ⟨hgiven, hle⟩ := givenUp_iff_failures hlimit hpermanent hrounds h hruns
  rw [hgiven]
  obtain hlt | heq := Nat.lt_or_eq_of_le hle
  · refine iff_of_true ⟨fun heq => absurd heq (by omega), fun hlast => ?_⟩ (Or.inl hlt)
    have hsplit := Outcomes.failures_of_lastFailed hlast
    omega
  · rw [iff_true_left heq, Outcomes.lastFailed_iff heq]
    exact ⟨Or.inr, fun h => h.resolve_left (by omega)⟩

end

/-! ### Published sets -/

section

variable [Externals] [HashCrates]

/-- **A published set whose task completed is one that no drain has tried.** -/
theorem published_untried {w w' : SpoolWorld} {set_id owner now now' : String} {row : OutputSetRow}
    {cuts : List (List (List Char))} (h : PublishedOutput w set_id row owner now cuts w')
    (hparts : ∀ d ∈ w.db.acpOutputDeliverySegments.rows, d.set_id ≠ set_id)
    (hrow : row.acknowledged_cursor = -1 ∧ row.attempt_count = 0) (hcount : 0 < cuts.flatten.length)
    (hparse : parseManifest (manifestBytes (outputManifest set_id cuts)) =
      some (outputManifest set_id cuts)) {db : Db}
    (hactivated : activatePrepared set_id now' w'.db = (.ok true, db)) :
    Untried set_id cuts.flatten.length ⟨db, w'.files⟩ := by
  obtain ⟨d, hd, hstored⟩ := h.files
  have hprepared : Standing set_id cuts.flatten.length w' (row.sealed
      (encode (cuts.map List.flatten).flatten).length
      (hash (encode (cuts.map List.flatten).flatten)) cuts.flatten.length now) := by
    refine ⟨h.set, ?_, hcount, ?_⟩
    · show some ((cuts.flatten.length : Int).toNat) = _
      rw [Int.toNat_natCast]
    · intro set n hset hcursor hn
      have hnext := nextSegment_published hparts h hset hcursor
      cases hpart : (outputParts set_id 0 0 0 cuts)[n]? with
      | none =>
        rw [List.getElem?_eq_none_iff, length_outputParts] at hpart
        exact absurd hn (Nat.not_lt.2 hpart)
      | some p =>
        rw [hpart] at hnext
        obtain ⟨piece, -, x, hx, pre, post, hitem, hspool, hstart, hstop, hhash⟩ :=
          outputParts_getElem set_id cuts hpart
        refine ⟨_, hnext x hx (by rw [hspool]), outputParts_index set_id hpart, encode piece,
          String.ofList piece, fromUTF8_encode piece, fun v hv => ?_⟩
        exact readDelivery_alone (hv.trans hd) hstored hparse hx hitem hstart hstop hhash
  have hone : (activatePrepared set_id now' w'.db).1 = .ok true := congrArg Prod.fst hactivated
  have hdb : (activatePrepared set_id now' w'.db).2 = db := congrArg Prod.snd hactivated
  have hkey : ∀ s : OutputSetRow, (decide (s.set_id = set_id ∧ s.state = .prepared) &&
      w'.db.taskEvents.rows.any fun e => decide (e.task_id = s.task_id ∧ e.status = .completed ∧
        w'.db.maxSeq e.task_id = some e.seq)) = true → s.set_id = set_id :=
    fun s hs => (of_decide_eq_true (Bool.and_eq_true_iff.mp hs).1).1
  obtain ⟨s, hget, hp⟩ := (Table.affected_eq_one_iff hkey).mp
    (of_decide_eq_true (Except.ok.inj hone))
  rw [h.set, Option.some.injEq] at hget
  subst hget
  obtain ⟨-, hsealed⟩ := hprepared.update
    (f := fun s => { s with state := .sealed, updated_at := now' }) (fun _ => rfl) hkey hp ⟨rfl, rfl, rfl⟩
  rw [← hdb]
  exact ⟨_, hsealed, rfl, hrow.1, hrow.2⟩

end

/-! ### A set of two parts -/

def wordCuts : List (List (List Char)) := [[['a']], [['b']]]

/-- The set as its publication leaves it, in a task that completed. -/
def wordSet : SpoolWorld where
  db := { Db.empty with
    acpOutputSets := ⟨[(assemblingRow "set").sealed 2 (hash (utf8 "ab")) 2 "now"],
      List.nodup_singleton _⟩
    acpOutputSegments := ⟨(place width 0 0 (wordCuts.map List.flatten)).map
      (pieceRow "set" "owner" "now"), by decide⟩
    acpOutputDeliverySegments := ⟨(outputParts "set" 0 0 0 wordCuts).map (DeliveryPart.row "set"),
      by decide⟩
    taskEvents := ⟨[⟨⟨0⟩, ⟨0⟩, 1, .completed, "now", "p"⟩], List.nodup_singleton _⟩ }
  files := ⟨[⟨"set", 0o700, ⟨[⟨segmentName 0, 0, [97]⟩, ⟨segmentName 1, 1, [98]⟩,
    ⟨manifestName, 2, manifestBytes (outputManifest "set" wordCuts)⟩], by decide⟩⟩],
    List.nodup_singleton _⟩

theorem wordSet_published :
    PublishedOutput (assemblingSet "set") "set" (assemblingRow "set") "owner" "now" wordCuts
      wordSet where
  segments := rfl
  parts := rfl
  set := rfl
  files := by
    refine ⟨_, rfl, rfl, ?_⟩
    refine List.forall_mem_cons.mpr ⟨rfl, List.forall_mem_cons.mpr ⟨rfl, ?_⟩⟩
    exact List.forall_mem_cons.mpr ⟨rfl, nofun⟩

/-- The set, sealed. -/
def sealedWord : SpoolWorld := ⟨(activatePrepared "set" "now" wordSet.db).2, wordSet.files⟩

theorem sealedWord_untried : Untried "set" 2 sealedWord := by
  have hbounded : (outputManifest "set" wordCuts).Bounded :=
    outputManifest_bounded "set" (rfl : _ = ['a', 'b']) (by decide) (by decide)
  have hparse := parseManifest_manifestBytes hbounded (by
    show Json.parse (String.ofList (outputManifest "set" wordCuts).toJson.render).toList = _
    rw [String.toList_ofList]
    exact Json.parse_render _)
  have hactivated : activatePrepared "set" "now" wordSet.db =
      (.ok true, (activatePrepared "set" "now" wordSet.db).2) := by
    refine Prod.ext ?_ rfl
    decide
  exact published_untried wordSet_published nofun ⟨rfl, rfl⟩ (by decide) hparse hactivated

/-- The room is away for good. -/
def awayOutcomes : Outcomes := fun _ => .error .retryable

/-- The room takes one part after seven sends have failed. -/
def onceOutcomes : Outcomes := fun i => if i = 7 then .ok () else .error .retryable

/-- Eight drains of a set whose sends all fail give it up. -/
theorem given_up_iff_away :
    ∃ c, DrainsOf "set" 8 2 awayOutcomes sealedWord c ∧ sends "set" c.2 = 8 ∧
      GivenUp "set" c.1.db ∧ awayOutcomes.lastFailed 8 8 := by
  have hpermanent : ∀ i, awayOutcomes i ≠ .error .permanent := fun _ => nofun
  obtain ⟨c, hruns, ha⟩ := exists_drainsOf 8 hpermanent (Nat.le_refl 2)
    sealedWord_untried 8
  have hsends : sends "set" c.2 = 8 := ha.sends.trans (by decide)
  have hlast : awayOutcomes.lastFailed 8 8 := ⟨Nat.le_refl 8, fun _ _ _ => nofun⟩
  have hpolicy : DurableOutputPolicy.derive 1 = some (.ofTurn 1) := by decide
  have hiff := (given_up_iff hpolicy (Nat.le_refl 2) hpermanent sealedWord_untried hruns).mpr
    (Or.inr fun _ _ _ _ _ => nofun)
  rw [hsends] at hiff
  exact ⟨c, hruns, hsends, hiff.mpr hlast, hlast⟩

/-- A part is acknowledged after seven failures, and the next failure gives the set up. -/
theorem given_up_after_one :
    ∃ c, DrainsOf "set" 8 2 onceOutcomes sealedWord c ∧ sends "set" c.2 = 9 ∧
      GivenUp "set" c.1.db ∧ onceOutcomes 7 = .ok () ∧ ¬ onceOutcomes.lastFailed 8 9 := by
  have hpermanent : ∀ i, onceOutcomes i ≠ .error .permanent := by
    intro i
    unfold onceOutcomes
    split
    · exact nofun
    · exact nofun
  obtain ⟨c, hruns, ha⟩ := exists_drainsOf 8 hpermanent (Nat.le_refl 2)
    sealedWord_untried 8
  have hsends : sends "set" c.2 = 9 := ha.sends.trans (by decide)
  refine ⟨c, hruns, hsends, ?_, rfl, fun hlast => hlast.2 7 (by decide) (by decide) rfl⟩
  have hfailures : onceOutcomes.failures (sends "set" c.2) = 8 := by
    rw [hsends]
    decide
  exact (givenUp_iff_failures (by decide) hpermanent (Nat.le_refl 2) sealedWord_untried
    hruns).1.mpr hfailures

end GuiguBridge
