import GuiguBridge.Admission.Invariant
import GuiguBridge.Admission.RecordCodec

/-!
# One owner at a time

* `lockRules` — the rules of the directory, for clients in their places;
* `Knows`, `Mine`, `Matches` — what a process knows: its `pid`, that the lock is its own, and
  what the record that it has read says about the file;
* `acquire_keeps`, `dropGuard_keeps`, `lockProcess_keeps` — the code of the guard asks only what
  it may;
* `admission_exclusion` — over every run.
-/

namespace GuiguBridge.Admission

open Interleave

section

variable [RecordCrates]

/-- The rules of the directory: a living process renames only where `RenameMet`. -/
def lockRules : PlacedRules lockServer LockWorld.apply where
  inv c := LockInv c.1 c.2
  rely j c c' := LockRely j c.1 c'.1
  met place op d := d.Lives place → RenameMet place op d
  needed place op c := c.1.Lives place → LockNeeded place op c.1
  refl j c := .refl j c.1
  trans _ _ _ _ h h' := h.trans h'
  served _ op input _ hinv hmet hneeded := serve_served hinv op input hmet hneeded
  beside e _ _ hinv := world_served hinv e

/-! ### What a process knows -/

omit [RecordCrates] in
/-- A process that lives has this `pid`, and no guard. -/
structure Knows (j pid : Nat) (d : LockDir) : Prop where
  pid : ∀ p, (j, p) ∈ d.live → p = pid
  idle : d.Lives j → d.holding j = false

omit [RecordCrates] in
/-- The file is the process's own, and the lock as long as it lives. -/
structure Mine (j file : Nat) (d : LockDir) : Prop where
  named : file < d.next
  maker : (d.files file).maker = some j
  owned : d.Lives j → d.get .lock = some file

omit [RecordCrates] in
/-- The process opened this file last, and its maker has the `pid` of the record if it lives. -/
structure Matches (j file : Nat) (record : Record) (d : LockDir) : Prop where
  named : file < d.next
  seen : d.seen j = some file
  pid : ∀ maker p, (d.files file).maker = some maker → (maker, p) ∈ d.live → p = record.pid

variable {j pid file : Nat} {d d' : LockDir}

omit [RecordCrates] in
theorem Knows.rely (h : Knows j pid d) (hr : LockRely j d d') : Knows j pid d' where
  pid p hp := h.pid p (hr.live p hp)
  idle hj := hr.holding.trans (h.idle (hr.lives hj))

omit [RecordCrates] in
theorem Mine.rely (h : Mine j file d) (hr : LockRely j d d') : Mine j file d' where
  named := h.named.trans_le hr.next
  maker := (hr.maker file h.named).trans h.maker
  owned hj := hr.owned file h.named (h.owned (hr.lives hj)) h.maker hj

omit [RecordCrates] in
theorem Mine.owns (h : Mine j file d) (hj : d.Lives j) : d.Owns j := ⟨file, h.owned hj, h.maker⟩

omit [RecordCrates] in
theorem Matches.rely {record : Record} (h : Matches j file record d) (hr : LockRely j d d') :
    Matches j file record d' where
  named := h.named.trans_le hr.next
  seen := hr.seen.trans h.seen
  pid maker p hmaker hp := by
    rw [hr.maker file h.named] at hmaker
    exact h.pid maker p hmaker (hr.makerLive file maker p h.named hmaker hp)

omit [RecordCrates] in
/-- A process that has no `pid` has no living maker behind its record. -/
theorem Matches.dead {record : Record} (h : Matches j file record d)
    (hpid : record.pid ∉ d.live.map Prod.snd) : d.MakerDead file := by
  intro maker hmaker hlives
  obtain ⟨p, hmem⟩ := hlives.exists
  have hp := h.pid maker p hmaker hmem
  exact hpid (List.mem_map.mpr ⟨_, hmem, hp⟩)

/-! ### Operations that spare the lock -/

/-- Operations that only look, and removals of a quarantine. -/
def LockOp.Spares : LockOp → Prop
  | .marker _ | .identity _ | .startTime _ | .readDir | .pathExists _ | .openRead _ | .metadata _
  | .readToEnd _ | .fsyncParent | .syncAll _ | .symlinkMetadata _ => True
  | .removeFile name => name.isStale = true
  | _ => False

omit [RecordCrates] in
/-- An operation that spares the lock notes what it has opened, or removes a quarantine. -/
theorem serve_spares {op : LockOp} (hop : op.Spares) (input : OpInput) :
    (∃ seen, (serve j op input d).2.1 = { d with seen := seen }) ∨
      ∃ nonce, (serve j op input d).2.1 = d.unlink (.stale nonce) := by
  have hspawn : ∀ p, op ≠ .spawn p := by
    rintro p rfl
    exact hop
  rcases serve_cases j d hspawn input with ⟨message, -, heq⟩ | ⟨-, heq⟩
  · rw [heq]
    exact .inl ⟨d.seen, rfl⟩
  · rw [heq]
    cases op with
    | openRead name =>
      simp only [perform]
      cases d.get name with
      | none => exact .inl ⟨d.seen, rfl⟩
      | some file => exact .inl ⟨_, rfl⟩
    | symlinkMetadata name =>
      simp only [perform]
      cases d.get name <;> exact .inl ⟨d.seen, rfl⟩
    | removeFile name =>
      simp only [perform]
      cases name with
      | lock => cases hop
      | stale nonce =>
        split
        · exact .inr ⟨nonce, rfl⟩
        · exact .inl ⟨d.seen, rfl⟩
    | spawn _ | rename _ _ | createNew _ | write _ _ | returned | dropping => exact hop.elim
    | _ => exact .inl ⟨d.seen, rfl⟩

/-- What a process keeps while it spares the lock. -/
structure Steady (j : Nat) (F : LockDir → Prop) : Prop where
  rely : ∀ {d d'}, F d → LockRely j d d' → F d'
  seen : ∀ {d} (seen : Nat → Option Nat), F d → F { d with seen := seen }
  unlink : ∀ {d : LockDir} (nonce : String), F d → F (d.unlink (.stale nonce))

omit [RecordCrates] in
theorem Knows.steady : Steady j (Knows j pid) where
  rely := Knows.rely
  seen _ h := ⟨h.pid, h.idle⟩
  unlink _ h := ⟨h.pid, h.idle⟩

omit [RecordCrates] in
theorem Mine.steady : Steady j (Mine j file) where
  rely := Mine.rely
  seen _ h := ⟨h.named, h.maker, h.owned⟩
  unlink nonce h := ⟨h.named, h.maker, fun hj => by
    rw [LockDir.get_unlink, if_neg nofun]
    exact h.owned hj⟩

omit [RecordCrates] in
theorem Steady.and {F G : LockDir → Prop} (hf : Steady j F) (hg : Steady j G) :
    Steady j (fun d => F d ∧ G d) where
  rely h hr := ⟨hf.rely h.1 hr, hg.rely h.2 hr⟩
  seen seen h := ⟨hf.seen seen h.1, hg.seen seen h.2⟩
  unlink nonce h := ⟨hf.unlink nonce h.1, hg.unlink nonce h.2⟩

theorem spares_free {F : LockDir → Prop} (hf : Steady j F) {op : LockOp} (hop : op.Spares)
    {c : LockDir × List LockEvent} (h : F c.1) :
    lockRules.needed j op c ∧ ∀ input, F (lockServer.after j op input c).1 := by
  refine ⟨?_, ?_⟩
  · intro _
    cases op with
    | removeFile name =>
      rintro rfl
      cases hop
    | spawn _ | rename _ _ | createNew _ | write _ _ | returned | dropping => exact hop.elim
    | _ => trivial
  · intro input
    show F (serve j op input c.1).2.1
    rcases serve_spares (j := j) (d := c.1) hop input with ⟨seen, heq⟩ | ⟨nonce, heq⟩
    · rw [heq]
      exact hf.seen seen h
    · rw [heq]
      exact hf.unlink nonce h

/-- Code that spares the lock. -/
theorem spares_keeps {F : LockDir → Prop} (hf : Steady j F) {α : Type} {code : LockCode α}
    (h : code.run.Only LockOp.Spares) {c : LockDir × List LockEvent} (hc : F c.1) :
    Client.SucceedsAt lockRules j (fun _ c => F c.1) (fun _ c => F c.1) code c :=
  Client.SucceedsAt.of_only (F := fun c => F c.1) (fun _ _ h hr => hf.rely h hr)
    (fun _ _ hop h _ => spares_free hf hop h) h hc

theorem spares_request {F : LockDir → Prop} (hf : Steady j F) (op : LockOp) (hop : op.Spares)
    {c : LockDir × List LockEvent} (hc : F c.1) :
    (Client.request op : LockClient op.Reply).KeepsAt lockRules j (fun _ c => F c.1) c :=
  Client.KeepsAt.of_only (F := fun c => F c.1) (fun _ _ h hr => hf.rely h hr)
    (fun _ _ hop h _ => spares_free hf hop h) (Client.Only.request hop) hc

/-! ### Code that spares the lock -/

omit [RecordCrates] in
theorem ask_spares {α : Type} {client : LockClient (Except IoError α)}
    (h : client.Only LockOp.Spares) : (ask client).run.Only LockOp.Spares := h

omit [RecordCrates] in
theorem lift_spares {α : Type} {client : LockClient α} (h : client.Only LockOp.Spares) :
    (ExceptT.lift client : LockCode α).run.Only LockOp.Spares :=
  Client.Only.bind h fun _ => trivial

omit [RecordCrates] in
theorem request_spares (op : LockOp) (h : op.Spares) :
    (request op : LockClient op.Reply).Only LockOp.Spares :=
  Client.Only.request h

omit [RecordCrates] in
theorem forM_spares {α : Type} {f : α → LockCode Unit} (h : ∀ a, (f a).run.Only LockOp.Spares)
    (as : List α) : (as.forM f).run.Only LockOp.Spares := by
  induction as with
  | nil => trivial
  | cons a as ih => exact Client.Only.bindT (h a) fun _ => ih

omit [RecordCrates] in
theorem rejectMarker_spares (active ambiguous name : String) :
    (rejectMarker active ambiguous name).run.Only LockOp.Spares := by
  refine Client.Only.bindT (lift_spares (ask_spares (request_spares _ trivial))) ?_
  intro found
  rcases found with (_ | _ | _) | _ <;> trivial

omit [RecordCrates] in
theorem rejectRestoreInterlock_spares (kind : String) :
    (rejectRestoreInterlock kind).run.Only LockOp.Spares :=
  Client.Only.bindT (forM_spares (fun _ => rejectMarker_spares _ _ _) _)
    fun _ => forM_spares (fun _ => rejectMarker_spares _ _ _) _

omit [RecordCrates] in
theorem validateStale_spares (record stale : Record) :
    (validateStale record stale).run.Only LockOp.Spares := by
  refine Client.Only.bindT (lift_spares (ask_spares (request_spares _ trivial))) ?_
  intro started
  rcases started with (_ | _ | _) | _
  · dsimp only
    split <;> trivial
  all_goals trivial

omit [RecordCrates] in
theorem ambiguous_spares (quarantines : List LockName) :
    (ambiguous quarantines).run.Only LockOp.Spares := by
  unfold ambiguous
  split
  · trivial
  · split
    · trivial
    · exact lift_spares (request_spares _ trivial)

variable [Externals]

theorem readRecord_spares (name : LockName) : (readRecord name).run.Only LockOp.Spares := by
  refine Client.Only.bindT (ask_spares (request_spares _ trivial)) ?_
  intro file
  refine Client.Only.bindT (ask_spares (request_spares _ trivial)) ?_
  intro metadata
  dsimp only
  split
  · trivial
  · refine Client.Only.bindT (ask_spares (request_spares _ trivial)) ?_
    intro bytes
    cases RecordCrates.fromSlice bytes with
    | none => trivial
    | some record =>
      dsimp only
      split <;> trivial

theorem revalidate_spares (guard : Guard) : (revalidate guard).run.Only LockOp.Spares := by
  refine Client.Only.bindT (readRecord_spares _) ?_
  intro record
  refine Client.Only.bindT (ask_spares (request_spares _ trivial)) ?_
  intro metadata
  split <;> trivial

/-! ### The code of the guard -/

omit [Externals] in
/-- One operation: it fails and nothing happens, or the process lives and it is done. -/
theorem request_keeps (op : LockOp) (hop : ∀ pid, op ≠ .spawn pid)
    {c : LockDir × List LockEvent} {Q : op.Reply → LockDir × List LockEvent → Prop}
    (h : ∀ d log, LockRely j c.1 d → LockInv d log →
      (d.Lives j → LockNeeded j op d) ∧ (∀ message log, Q (op.failed message) (d, log)) ∧
        (d.Lives j → ∀ input log, Q (perform j input d op).1 ((perform j input d op).2.1, log))) :
    (request op : LockClient op.Reply).KeepsAt lockRules j Q c := by
  refine Client.KeepsAt.request ?_
  intro c' hr hinv _
  obtain ⟨hneeded, hfailed, hdone⟩ := h c'.1 c'.2 hr hinv
  refine ⟨hneeded, ?_⟩
  intro input
  show Q (serve j op input c'.1).1
    ((serve j op input c'.1).2.1, c'.2 ++ (serve j op input c'.1).2.2)
  rcases serve_cases j c'.1 hop input with ⟨message, -, heq⟩ | ⟨hlive, heq⟩
  · rw [heq]
    exact hfailed message _
  · rw [heq]
    exact hdone hlive input _

omit [RecordCrates] [Externals] in
/-- The process opened this file last. -/
structure Opened (j file : Nat) (d : LockDir) : Prop where
  named : file < d.next
  seen : d.seen j = some file

omit [RecordCrates] [Externals] in
theorem Opened.rely (h : Opened j file d) (hr : LockRely j d d') : Opened j file d' :=
  ⟨h.named.trans_le hr.next, hr.seen.trans h.seen⟩

/-- A record that is read is the one of the maker of its file. -/
theorem readRecord_matches (laws : LawfulRecords) {F : LockDir → Prop} (hf : Steady j F)
    (name : LockName) {c : LockDir × List LockEvent} (hc : F c.1) :
    Client.SucceedsAt lockRules j (fun record c => F c.1 ∧ ∃ file, Matches j file record c.1)
      (fun _ c => F c.1) (readRecord name) c := by
  refine Client.SucceedsAt.bind (P := fun file c => F c.1 ∧ Opened j file c.1) ?_ ?_
  · refine request_keeps (.openRead name) (by simp) ?_
    intro d log hr hinv
    have hF := hf.rely hc hr
    refine ⟨fun _ => trivial, fun _ _ => hF, ?_⟩
    intro _ input log
    simp only [perform]
    cases hget : d.get name with
    | none => exact hF
    | some file => exact ⟨hf.seen _ hF, hinv.named name file hget, Function.update_self _ _ _⟩
  rintro file c ⟨hc, hopened⟩
  refine Client.SucceedsAt.bind (P := fun _ c => F c.1 ∧ Opened j file c.1) ?_ ?_
  · refine request_keeps (.metadata file) (by simp) ?_
    intro d log hr hinv
    have hF := hf.rely hc hr
    exact ⟨fun _ => trivial, fun _ _ => hF, fun _ _ _ => ⟨hF, hopened.rely hr⟩⟩
  rintro metadata c ⟨hc, hopened⟩
  dsimp only
  split
  · exact hc
  -- what is read is the beginning of a record with the `pid` of its maker
  refine Client.SucceedsAt.bind (P := fun bytes c => F c.1 ∧
    ∀ record, RecordCrates.fromSlice bytes = some record → Matches j file record c.1) ?_ ?_
  · refine request_keeps (.readToEnd file) (by simp) ?_
    intro d log hr hinv
    have hF := hf.rely hc hr
    have hopened := hopened.rely hr
    refine ⟨fun _ => trivial, fun _ _ => hF, ?_⟩
    intro _ input log
    refine ⟨hF, ?_⟩
    intro record hrecord
    refine ⟨hopened.named, hopened.seen, ?_⟩
    intro maker p hmaker hlive
    obtain ⟨written, hpid, hpre⟩ := hinv.written file maker p hopened.named hmaker hlive
    have hslice : RecordCrates.fromSlice (d.files file).bytes = some record := hrecord
    rw [laws written _ hpre] at hslice
    split at hslice
    · rw [← hpid, Option.some.inj hslice]
    · cases hslice
  rintro bytes c ⟨hc, hmatches⟩
  cases hrecord : RecordCrates.fromSlice bytes with
  | none => exact hc
  | some record =>
    dsimp only
    split
    · exact ⟨hc, file, hmatches record hrecord⟩
    · exact hc

omit [Externals] in
/-- A lock that is found stale has no living maker. -/
theorem validateStale_dead {F : LockDir → Prop} (hf : Steady j F) (record stale : Record)
    {c : LockDir × List LockEvent} (hc : F c.1) (hmatches : Matches j file stale c.1) :
    Client.SucceedsAt lockRules j
      (fun _ c => F c.1 ∧ Opened j file c.1 ∧ c.1.MakerDead file) (fun _ c => F c.1)
      (validateStale record stale) c := by
  refine Client.KeepsAt.bind (P := fun started c => F c.1 ∧
    (started = .ok (.error .notFound) → Opened j file c.1 ∧ c.1.MakerDead file)) ?_ ?_
  · refine Client.KeepsAt.bind (P := fun started c => F c.1 ∧
      (started = .error .notFound → Opened j file c.1 ∧ c.1.MakerDead file)) ?_ ?_
    · refine request_keeps (.startTime stale.pid) nofun ?_
      intro d log hr hinv
      have hF := hf.rely hc hr
      have hmatches := hmatches.rely hr
      refine ⟨fun _ => trivial, fun _ _ => ⟨hF, nofun⟩, ?_⟩
      intro _ input log
      refine ⟨hF, ?_⟩
      intro hreply
      refine ⟨⟨hmatches.named, hmatches.seen⟩, hmatches.dead ?_⟩
      intro hpid
      simp [perform, hpid] at hreply
    · rintro started c ⟨hc, hdead⟩
      refine ⟨hc, ?_⟩
      intro heq
      exact hdead (Except.ok.inj heq)
  rintro started c ⟨hc, hdead⟩
  rcases started with _ | ((_ | _ | _) | _)
  · exact hc
  · show Client.SucceedsAt _ _ _ _ (if _ then _ else _) c
    split
    · exact hc
    · exact ⟨hc, hdead rfl⟩
  all_goals exact hc

omit [Externals] in
/-- What is written to a process's own file is a part of its record. -/
theorem writeAll_keeps (record : Record) (hrecord : record.pid = pid) (fuel : Nat) :
    ∀ (bytes : List Nat) (c : LockDir × List LockEvent), Knows j pid c.1 → Mine j file c.1 →
      (c.1.files file).bytes ++ bytes = RecordCrates.toVec record →
      Client.SucceedsAt lockRules j (fun _ c => Knows j pid c.1 ∧ Mine j file c.1)
        (fun _ c => Knows j pid c.1) (writeAll file fuel bytes) c := by
  induction fuel with
  | zero =>
    intro bytes c hknows hmine _
    exact ⟨hknows, hmine⟩
  | succ fuel ih =>
    intro bytes c hknows hmine hbytes
    unfold writeAll
    split
    · exact ⟨hknows, hmine⟩
    refine Client.SucceedsAt.bind (P := fun taken c => Knows j pid c.1 ∧ Mine j file c.1 ∧
      (c.1.files file).bytes ++ bytes.drop taken = RecordCrates.toVec record) ?_ ?_
    · refine request_keeps (.write file bytes) nofun ?_
      intro d log hr hinv
      have hk := hknows.rely hr
      have hm := hmine.rely hr
      have hb : (d.files file).bytes ++ bytes = RecordCrates.toVec record := by
        rw [hr.bytes file hmine.named hmine.maker, hbytes]
      refine ⟨?_, fun _ _ => hk, ?_⟩
      · intro _
        refine ⟨hm.named, hm.maker, ?_⟩
        intro p hp
        exact ⟨record, hrecord.trans (hk.pid p hp).symm, hb ▸ List.prefix_rfl⟩
      · intro _ input log
        refine ⟨⟨hk.pid, hk.idle⟩,
          ⟨hm.named, (d.append_maker file file _).trans hm.maker, hm.owned⟩, ?_⟩
        show (Function.update d.files file _ file).bytes ++ _ = _
        rw [Function.update_self, ← hb, List.append_assoc]
        have htake : bytes.take input.taken = bytes.take (min input.taken bytes.length) := by
          rw [List.take_eq_take_iff]
          omega
        rw [htake, List.take_append_drop]
    · rintro taken c ⟨hk, hm, hb⟩
      split
      · exact hk
      · exact ih _ c hk hm hb

omit [Externals] in
/-- A lock that is created is the process's own. -/
theorem create_keeps (nonce : String) (record : Record) (hrecord : record.pid = pid)
    {c : LockDir × List LockEvent} (hc : Knows j pid c.1) :
    Client.SucceedsAt lockRules j (fun _ c => Knows j pid c.1 ∧ ∃ file, Mine j file c.1)
      (fun _ c => Knows j pid c.1) (create nonce (RecordCrates.toVec record)) c := by
  refine Client.SucceedsAt.bind (P := fun file c => Knows j pid c.1 ∧ Mine j file c.1 ∧
    (c.1.files file).bytes = []) ?_ ?_
  · refine request_keeps (.createNew .lock) nofun ?_
    intro d log hr hinv
    have hk := hc.rely hr
    refine ⟨fun _ => rfl, fun _ _ => hk, ?_⟩
    intro _ input log
    by_cases hfree : (d.get .lock).isSome
    · simp only [perform, if_pos hfree]
      exact hk
    · simp only [perform, if_neg hfree]
      refine ⟨⟨hk.pid, hk.idle⟩, ⟨Nat.lt_succ_self _, ?_, fun _ => ?_⟩, ?_⟩
      · exact congrArg LockFile.maker (d.make_new j .lock)
      · exact (d.get_link .lock .lock d.next).trans (if_pos rfl)
      · exact congrArg LockFile.bytes (d.make_new j .lock)
  rintro file c ⟨hk, hm, hb⟩
  have hsteady : Steady j fun d => Knows j pid d ∧ Mine j file d := Knows.steady.and Mine.steady
  refine Client.SucceedsAt.bind (P := fun _ c => Knows j pid c.1 ∧ Mine j file c.1)
    (writeAll_keeps record hrecord _ _ c hk hm (by rw [hb, List.nil_append])) ?_
  rintro _ c hc
  refine Client.SucceedsAt.bind ((spares_keeps hsteady (ask_spares (request_spares (.syncAll file) trivial)) hc).imp
    (fun _ _ h => h) fun _ _ h => h.1) ?_
  rintro _ c hc
  refine Client.SucceedsAt.bind ((spares_keeps hsteady (ask_spares (request_spares (.metadata file) trivial)) hc).imp
    (fun _ _ h => h) fun _ _ h => h.1) ?_
  rintro metadata c hc
  refine Client.SucceedsAt.bind ((spares_keeps hsteady (ask_spares (request_spares .fsyncParent trivial)) hc).imp
    (fun _ _ h => h) fun _ _ h => h.1) ?_
  rintro _ c ⟨hk, hm⟩
  exact ⟨hk, file, hm⟩

/-- **The drop of a guard**: the lock that it removes is the process's own. -/
theorem dropGuard_keeps (guard : Guard) {c : LockDir × List LockEvent} (hk : Knows j pid c.1)
    (hm : Mine j file c.1) :
    (dropGuard guard).KeepsAt lockRules j (fun _ c => Knows j pid c.1) c := by
  have hsteady : Steady j fun d => Knows j pid d ∧ Mine j file d := Knows.steady.and Mine.steady
  refine Client.KeepsAt.bind (P := fun _ c => Knows j pid c.1 ∧ Mine j file c.1) ?_ ?_
  · refine Client.KeepsAt.imp ?_ (spares_keeps hsteady (revalidate_spares guard) ⟨hk, hm⟩)
    intro valid c h
    cases valid <;> exact h
  rintro valid c ⟨hk, hm⟩
  cases valid with
  | error error => exact hk
  | ok _ =>
    refine Client.KeepsAt.bind (P := fun _ c => Knows j pid c.1) ?_ ?_
    · refine request_keeps (.removeFile .lock) nofun ?_
      intro d log hr hinv
      have hk := hk.rely hr
      have hm := hm.rely hr
      refine ⟨?_, fun _ _ => hk, ?_⟩
      · intro hlive _
        exact ⟨hm.owns hlive, hk.idle hlive⟩
      · intro _ input log
        simp only [perform]
        split
        · exact ⟨hk.pid, hk.idle⟩
        · exact hk
    rintro removed c hk
    cases removed with
    | error error => exact hk
    | ok _ =>
      refine Client.KeepsAt.bind (spares_request Knows.steady .fsyncParent trivial hk) ?_
      intro _ c hk
      exact hk

/-- A guard that is dropped when a later step fails. -/
theorem orDrop_keeps (guard : Guard) {step : LockCode Unit} (hstep : step.run.Only LockOp.Spares)
    {c : LockDir × List LockEvent} (hk : Knows j pid c.1) (hm : Mine j file c.1) :
    Client.SucceedsAt lockRules j (fun _ c => Knows j pid c.1 ∧ Mine j file c.1)
      (fun _ c => Knows j pid c.1) (orDrop guard step) c := by
  have hsteady : Steady j fun d => Knows j pid d ∧ Mine j file d := Knows.steady.and Mine.steady
  refine Client.SucceedsAt.bind (P := fun _ c => Knows j pid c.1 ∧ Mine j file c.1) ?_ ?_
  · refine (spares_keeps hsteady (F := fun d => Knows j pid d ∧ Mine j file d)
      (lift_spares hstep) ⟨hk, hm⟩).imp (fun _ _ h => h) fun _ _ h => h.1
  rintro (error | _) c ⟨hk, hm⟩
  · refine Client.SucceedsAt.bind (P := fun _ c => Knows j pid c.1) ?_ ?_
    · refine Client.KeepsAt.bind (dropGuard_keeps guard hk hm) ?_
      intro _ c hk
      exact hk
    · intro _ c hk
      exact hk
  · exact ⟨hk, hm⟩

omit [Externals] in
/-- A rename that is asked for with what must be known. -/
theorem rename_keeps (source target : LockName) {c : LockDir × List LockEvent}
    (hk : Knows j pid c.1)
    (hneeded : ∀ d, LockRely j c.1 d → LockNeeded j (.rename source target) d) :
    Client.SucceedsAt lockRules j (fun _ c => Knows j pid c.1) (fun _ c => Knows j pid c.1)
      (ask (request (.rename source target))) c := by
  refine request_keeps (.rename source target) nofun ?_
  intro d log hr hinv
  have hk := hk.rely hr
  refine ⟨fun _ => hneeded d hr, fun _ _ => hk, ?_⟩
  intro _ input log
  simp only [perform]
  cases d.get source with
  | none => exact hk
  | some file => exact ⟨hk.pid, hk.idle⟩

/-- **The reclaim of a stale lock**: what is renamed was read before, and its maker is dead. -/
theorem reclaim_keeps (laws : LawfulRecords) (record : Record) (hrecord : record.pid = pid)
    {c : LockDir × List LockEvent} (hk : Knows j pid c.1) :
    Client.SucceedsAt lockRules j (fun _ c => Knows j pid c.1 ∧ ∃ file, Mine j file c.1)
      (fun _ c => Knows j pid c.1) (reclaim record (RecordCrates.toVec record)) c := by
  refine Client.SucceedsAt.bind (readRecord_matches laws Knows.steady .lock hk) ?_
  rintro stale c ⟨hk, file, hmatches⟩
  refine Client.SucceedsAt.bind (validateStale_dead Knows.steady record stale hk hmatches) ?_
  rintro _ c ⟨hk, hopened, hdead⟩
  refine Client.SucceedsAt.bind (rename_keeps _ _ hk ?_) ?_
  · intro d hr
    refine ⟨fun _ => ⟨rfl, ?_⟩, nofun⟩
    intro other hother
    rw [(hopened.rely hr).seen] at hother
    cases hother
    exact hr.dead hopened.named hdead
  rintro _ c hk
  refine Client.SucceedsAt.bind
    (spares_keeps Knows.steady (ask_spares (request_spares .fsyncParent trivial)) hk) ?_
  rintro _ c hk
  refine Client.SucceedsAt.bind (create_keeps record.nonce record hrecord hk) ?_
  rintro guard c ⟨hk, file, hm⟩
  refine Client.SucceedsAt.bind (orDrop_keeps guard ?_ hk hm) ?_
  · exact Client.Only.bindT (ask_spares (request_spares (.removeFile (.stale _)) rfl))
      fun _ => ask_spares (request_spares .fsyncParent trivial)
  · rintro _ c ⟨hk, hm⟩
    exact ⟨hk, file, hm⟩

theorem readmit_keeps (record : Record) {quarantines : List LockName}
    (hstale : ∀ name ∈ quarantines, name.isStale = true) {c : LockDir × List LockEvent}
    (hk : Knows j pid c.1) :
    Client.SucceedsAt lockRules j (fun _ c => Knows j pid c.1) (fun _ c => Knows j pid c.1)
      ( readmit record quarantines) c := by
  cases quarantines with
  | nil => exact hk
  | cons quarantine _ =>
    refine Client.SucceedsAt.bind (spares_keeps Knows.steady (readRecord_spares _) hk) ?_
    rintro stale c hk
    refine Client.SucceedsAt.bind (spares_keeps Knows.steady (validateStale_spares _ _) hk) ?_
    rintro _ c hk
    refine Client.SucceedsAt.bind (rename_keeps _ _ hk ?_) ?_
    · intro d _
      have hne : quarantine ≠ .lock := by
        rintro rfl
        cases hstale _ List.mem_cons_self
      exact ⟨fun h => absurd h hne, fun _ => rfl⟩
    rintro _ c hk
    exact spares_keeps Knows.steady (ask_spares (request_spares .fsyncParent trivial)) hk

/-- **`acquire`**: a guard that it returns is for a lock of the process's own. -/
theorem acquire_keeps (laws : LawfulRecords) (input : AcquireInput) (hpid : input.pid = pid)
    {c : LockDir × List LockEvent} (hk : Knows j pid c.1) :
    Client.SucceedsAt lockRules j (fun _ c => Knows j pid c.1 ∧ ∃ file, Mine j file c.1)
      (fun _ c => Knows j pid c.1) (acquire input) c := by
  have hask : ∀ {α : Type} {code : LockCode α} {c : LockDir × List LockEvent},
      code.run.Only LockOp.Spares → Knows j pid c.1 →
      Client.SucceedsAt lockRules j (fun _ c => Knows j pid c.1) (fun _ c => Knows j pid c.1)
        code c := fun h hk => spares_keeps Knows.steady h hk
  refine Client.SucceedsAt.bind (hask (rejectRestoreInterlock_spares _) hk) ?_
  rintro _ c hk
  refine Client.SucceedsAt.bind (hask (ask_spares (request_spares (.identity _) trivial)) hk) ?_
  rintro database c hk
  refine Client.SucceedsAt.bind (hask (ask_spares (request_spares (.identity _) trivial)) hk) ?_
  rintro config c hk
  refine Client.SucceedsAt.bind (hask (ask_spares (request_spares (.identity _) trivial)) hk) ?_
  rintro executable c hk
  refine Client.SucceedsAt.bind (hask (ask_spares (request_spares (.startTime _) trivial)) hk) ?_
  rintro starttime c hk
  refine Client.SucceedsAt.bind (hask (ask_spares (request_spares .readDir trivial)) hk) ?_
  rintro names c hk
  refine Client.SucceedsAt.bind (hask (ambiguous_spares _) hk) ?_
  rintro several c hk
  cases several with
  | true => exact hk
  | false =>
    refine Client.SucceedsAt.bind (readmit_keeps _ ?_ hk) ?_
    · intro name hname
      exact (List.mem_filter.mp hname).2
    rintro _ c hk
    refine Client.SucceedsAt.bind (P := fun result c => Knows j pid c.1 ∧
      (result.isOk = true → ∃ file, Mine j file c.1)) ?_ ?_
    · refine Client.KeepsAt.bind (create_keeps input.nonce _ hpid hk) ?_
      rintro (error | guard) c hc
      · exact ⟨hc, nofun⟩
      · exact ⟨hc.1, fun _ => hc.2⟩
    rintro ((_ | _ | _) | guard) c ⟨hk, hm⟩
    · exact hk
    · exact reclaim_keeps laws _ hpid hk
    · exact hk
    · exact ⟨hk, hm rfl⟩

omit [Externals] in
/-- To return a guard, and to begin its drop: it is done if the process lives. -/
theorem mark_keeps (op : LockOp) (hop : op = .returned ∨ op = .dropping)
    {c : LockDir × List LockEvent} {Q : op.Reply → LockDir × List LockEvent → Prop}
    (h : ∀ d, LockRely j c.1 d → (d.Lives j → LockNeeded j op d) ∧
      (¬ d.Lives j → ∀ reply log, Q reply (d, log)) ∧
        ∀ input reply log, Q reply ((perform j input d op).2.1, log)) :
    (request op : LockClient op.Reply).KeepsAt lockRules j Q c := by
  refine Client.KeepsAt.request ?_
  intro c' hr hinv _
  obtain ⟨hneeded, hdead, hdone⟩ := h c'.1 hr
  refine ⟨hneeded, ?_⟩
  intro input
  show Q (serve j op input c'.1).1
    ((serve j op input c'.1).2.1, c'.2 ++ (serve j op input c'.1).2.2)
  have hspawn : ∀ p, op ≠ .spawn p := by
    rintro p rfl
    rcases hop with h | h <;> cases h
  rcases serve_cases j c'.1 hspawn input with ⟨message, hfailed, heq⟩ | ⟨-, heq⟩
  · have hlive : ¬ c'.1.Lives j := by
      intro hlive
      rcases hop with rfl | rfl <;> cases hfailed hlive
    rw [heq]
    exact hdead hlive _ _
  · rw [heq]
    exact hdone input _ _

/-- **A process** that acquires and drops asks only what it may. -/
theorem acquireAndDrop_keeps (laws : LawfulRecords) (input : AcquireInput)
    (hpid : input.pid = pid) {c : LockDir × List LockEvent} (hk : Knows j pid c.1) :
    (acquireAndDrop input).KeepsAt lockRules j (fun _ c => Knows j pid c.1) c := by
  refine Client.KeepsAt.bind (acquire_keeps laws input hpid hk) ?_
  rintro (error | guard) c hc
  · exact hc
  obtain ⟨hk, file, hm⟩ := hc
  refine Client.KeepsAt.bind (P := fun _ c => (∀ p, (j, p) ∈ c.1.live → p = pid) ∧
    Mine j file c.1) ?_ ?_
  · refine mark_keeps .returned (.inl rfl) ?_
    intro d hr
    have hk := hk.rely hr
    have hm := hm.rely hr
    exact ⟨hm.owns, fun _ _ _ => ⟨hk.pid, hm⟩,
      fun _ _ _ => ⟨hk.pid, hm.named, hm.maker, hm.owned⟩⟩
  rintro _ c ⟨hpids, hm⟩
  refine Client.KeepsAt.bind (P := fun _ c => Knows j pid c.1 ∧ Mine j file c.1) ?_ ?_
  · refine mark_keeps .dropping (.inr rfl) ?_
    intro d hr
    have hm := hm.rely hr
    have hpids : ∀ p, (j, p) ∈ d.live → p = pid := fun p hp => hpids p (hr.live p hp)
    exact ⟨fun _ => trivial, fun hdead _ _ => ⟨⟨hpids, fun h => absurd h hdead⟩, hm⟩,
      fun _ _ _ => ⟨⟨hpids, fun _ => Function.update_self _ _ _⟩,
        hm.named, hm.maker, hm.owned⟩⟩
  rintro _ c ⟨hk, hm⟩
  exact dropGuard_keeps guard hk hm

theorem lockProcess_keeps (laws : LawfulRecords) (pid : Nat) (calls : List AcquireInput) (j : Nat)
    (c : LockDir × List LockEvent) :
    (lockProcess pid calls).KeepsAt lockRules j (fun _ _ => True) c := by
  refine Client.KeepsAt.bind (P := fun begun c => begun = true → Knows j pid c.1) ?_ ?_
  · refine Client.KeepsAt.request ?_
    intro c' _ hinv _
    refine ⟨fun _ => trivial, ?_⟩
    intro input
    show (serve j (.spawn pid) input c'.1).1 = true →
      Knows j pid (serve j (.spawn pid) input c'.1).2.1
    simp only [serve]
    split
    · simp
    · rename_i hnew
      intro _
      obtain ⟨hborn, -⟩ := not_or.mp hnew
      refine ⟨?_, ?_⟩
      · intro p hp
        rcases List.mem_cons.mp hp with heq | hold
        · cases heq
          rfl
        · exact absurd (hinv.born _ hold) hborn
      · intro _
        exact Bool.eq_false_iff.mpr fun hholding => hborn (hinv.holders j hholding)
  · rintro begun c hbegun
    cases begun with
    | false => trivial
    | true =>
      have hk := hbegun rfl
      clear hbegun
      show Client.KeepsAt lockRules j (fun _ _ => True)
        (calls.forM fun input => acquireAndDrop { input with pid := pid }) c
      induction calls generalizing c with
      | nil => trivial
      | cons input calls ih =>
        refine Client.KeepsAt.bind (acquireAndDrop_keeps laws { input with pid := pid } rfl hk) ?_
        intro _ c hk
        exact ih c hk

/-! ### Every run -/

omit [RecordCrates] [Externals] in
/-- In every move of a run, **a rename of the lock finds there nothing, or the very file that its
caller opened last, and a rename of a quarantine to the lock finds no lock**. -/
def RenamesMet (d : LockDir) (moves : List (Move (LockClient Unit) OpInput LockWorld)) : Prop :=
  ∀ n place input op next, moves[n]? = some (.advance place input) →
    (lockSystem.worldAt d moves n).procs[place]? = some (.ask op next) →
    (lockSystem.worldAt d moves n).store.Lives place →
    RenameMet place op (lockSystem.worldAt d moves n).store

/-- **One owner at a time.**  In every run whose renames are met, no two processes that live hold
a guard, and none takes away the lock of another one that lives. -/
theorem admission_exclusion (laws : LawfulRecords) {d : LockDir} (hfresh : d.Fresh)
    {moves : List (Move (LockClient Unit) OpInput LockWorld)}
    (hprocs : ∀ t, .start t ∈ moves → ∃ pid calls, t = lockProcess pid calls)
    (hmet : RenamesMet d moves) (n : Nat) :
    (∀ i j, (lockSystem.worldAt d moves n).store.holding i = true →
      (lockSystem.worldAt d moves n).store.Lives i →
      (lockSystem.worldAt d moves n).store.holding j = true →
      (lockSystem.worldAt d moves n).store.Lives j → i = j) ∧
      ∀ e ∈ (lockSystem.worldAt d moves n).log, e.alive = false := by
  have hstart : ∀ t : LockClient Unit, .start t ∈ moves → ∀ j c, lockRules.inv c →
      t.KeepsAt lockRules j (fun _ _ => True) c := by
    intro t ht j c _
    obtain ⟨pid, calls, rfl⟩ := hprocs t ht
    exact lockProcess_keeps laws pid calls j c
  obtain ⟨hinv, -⟩ := placed_run (T := lockRules) (fun _ _ _ => True)
    (fun _ _ _ _ _ _ => trivial) (LockInv.fresh hfresh) hstart hmet n
  exact ⟨fun i j hi hilive hj hjlive =>
    LockDir.owns_unique (hinv.held i hi hilive) (hinv.held j hj hjlive), hinv.untouched⟩

end

/-! ### Two runs -/

instance (place : Nat) (op : LockOp) (d : LockDir) : Decidable (RenameMet place op d) :=
  match op with
  | .rename source target =>
    inferInstanceAs (Decidable ((source = .lock → d.get .lock = none ∨ d.get .lock = d.seen place) ∧
      (target = .lock → d.get .lock = none)))
  | .spawn _ | .marker _ | .identity _ | .startTime _ | .readDir | .pathExists _ | .openRead _
  | .metadata _ | .readToEnd _ | .fsyncParent | .createNew _ | .write _ _ | .syncAll _
  | .symlinkMetadata _ | .removeFile _ | .returned | .dropping => isTrue trivial

/-- Whether the rename that a move makes is met. -/
def renameChecked (w : World LockDir (LockClient Unit) LockEvent) :
    Move (LockClient Unit) OpInput LockWorld → Bool
  | .advance place _ =>
    match w.procs[place]? with
    | some (.ask op _) => decide (w.store.Lives place → RenameMet place op w.store)
    | _ => true
  | _ => true

theorem renamesMet_of_checks {d : LockDir} {moves : List (Move (LockClient Unit) OpInput LockWorld)}
    (h : lockSystem.checks renameChecked ⟨d, [], []⟩ moves = true) : RenamesMet d moves := by
  intro n place input op next hm hp
  have hcheck := System.checks_worldAt h hm
  simp only [renameChecked, hp] at hcheck
  exact of_decide_eq_true hcheck

def sampleIdentity (path : String) (inode : Nat) : FileIdentity := ⟨path, 1, inode, 0o100644, "00"⟩

/-- The record of a process that died. -/
def staleRecord : Record :=
  { version := 1, kind := "startup", pid := 7, starttime := 5,
    executable := sampleIdentity "/bridge" 20, config := sampleIdentity "/config" 21,
    database := sampleIdentity "/data/db" 22, nonce := "00000000-0000-7000-8000-000000000001" }

/-- A directory with the lock of that process. -/
def staleDir : LockDir :=
  { entries := [(.lock, 0)],
    files := fun _ => ⟨staleRecord.bytes, true, 0o600, 1, none⟩,
    next := 1,
    markers := [],
    identities := fun path =>
      if path = "/bridge" then .ok (sampleIdentity "/bridge" 20)
      else if path = "/config" then .ok (sampleIdentity "/config" 21)
      else if path = "/data/db" then .ok (sampleIdentity "/data/db" 22)
      else .error .notFound,
    live := [],
    born := [],
    seen := fun _ => none,
    holding := fun _ => false }

theorem staleDir_fresh : staleDir.Fresh where
  live := rfl
  born := rfl
  holding _ := rfl
  named name file h := by
    cases name with
    | lock =>
      cases h
      decide
    | stale nonce => cases h
  makers _ _ := rfl

/-- One `acquire` of a process. -/
def reclaimer (pid : Nat) (nonce : String) : LockClient Unit :=
  lockProcess pid [⟨"/data/db", "/config", "/bridge", "startup", nonce, pid⟩]

def lockSteps (place count : Nat) : List (Move (LockClient Unit) OpInput LockWorld) :=
  List.replicate count (.advance place ⟨none, 4096, 9⟩)

def twoReclaimers : List (Move (LockClient Unit) OpInput LockWorld) :=
  [.start (reclaimer 100 "00000000-0000-7000-8000-000000000002"),
    .start (reclaimer 200 "00000000-0000-7000-8000-000000000003")]

theorem twoReclaimers_processes (places : List (Nat × Nat)) :
    ∀ t, .start t ∈ twoReclaimers ++ places.flatMap (fun p => lockSteps p.1 p.2) →
      ∃ pid calls, t = lockProcess pid calls := by
  intro t ht
  rcases List.mem_append.mp ht with hstart | hstep
  · rcases List.mem_cons.mp hstart with heq | hsecond
    · cases heq
      exact ⟨_, _, rfl⟩
    · cases List.mem_singleton.mp hsecond
      exact ⟨_, _, rfl⟩
  · obtain ⟨p, -, hp⟩ := List.mem_flatMap.mp hstep
    cases (List.mem_replicate.mp hp).2

/-- The first process reclaims the lock and holds it; the second finds its `pid` alive. -/
def reclaimRun : List (Move (LockClient Unit) OpInput LockWorld) :=
  twoReclaimers ++ [(0, 38), (1, 28)].flatMap fun p => lockSteps p.1 p.2

theorem admission_exclusion_reclaimRun :
    (lockSystem.worldAt staleDir reclaimRun 68).store.holding 0 = true ∧
      (∀ j, (lockSystem.worldAt staleDir reclaimRun 68).store.holding j = true →
        (lockSystem.worldAt staleDir reclaimRun 68).store.Lives j → 0 = j) ∧
      ∀ e ∈ (lockSystem.worldAt staleDir reclaimRun 68).log, e.alive = false := by
  obtain ⟨hholding, hlives⟩ : (lockSystem.worldAt staleDir reclaimRun 68).store.holding 0 = true ∧
      (lockSystem.worldAt staleDir reclaimRun 68).store.Lives 0 := by
    decide +kernel
  have hprocs : ∀ t, .start t ∈ reclaimRun → ∃ pid calls, t = lockProcess pid calls :=
    twoReclaimers_processes [(0, 38), (1, 28)]
  have hmet : RenamesMet staleDir reclaimRun := renamesMet_of_checks (by decide +kernel)
  obtain ⟨hone, hlog⟩ := admission_exclusion jsonRecords_lawful staleDir_fresh hprocs hmet 68
  exact ⟨hholding, fun j hj hjlive => hone 0 j hholding hlives hj hjlive, hlog⟩

/-- Both processes find the lock of the dead one; then the first one replaces it, **and the second
one renames the lock of the first**. -/
def raceRun : List (Move (LockClient Unit) OpInput LockWorld) :=
  twoReclaimers ++ [(0, 28), (1, 28), (0, 10), (1, 10)].flatMap fun p => lockSteps p.1 p.2

/-- Two processes that live hold a guard, and one has renamed the lock of the other. -/
theorem raceRun_two_owners :
    LawfulRecords ∧ staleDir.Fresh ∧
      (∀ t, .start t ∈ raceRun → ∃ pid calls, t = lockProcess pid calls) ∧
      (∀ place ∈ [0, 1], (lockSystem.worldAt staleDir raceRun 78).store.holding place = true ∧
        (lockSystem.worldAt staleDir raceRun 78).store.Lives place) ∧
      ⟨1, 1, true⟩ ∈ (lockSystem.worldAt staleDir raceRun 78).log :=
  ⟨jsonRecords_lawful, staleDir_fresh,
    twoReclaimers_processes [(0, 28), (1, 28), (0, 10), (1, 10)], by decide +kernel,
    by decide +kernel⟩

end GuiguBridge.Admission
