import GuiguBridge.Lib.Thread
import GuiguBridge.Runtime.Finalization
import GuiguBridge.Storage.Retry
import Mathlib.Data.List.Lex
import Mathlib.Data.List.Sort
import Mathlib.Data.String.Basic

/-!
# The projection outbox

Replies and monitor lines wait in `projection_outbox` until a drain has sent them
(`src/src/storage/reliability.rs`, `src/src/app/outbox.rs`).

* `claimProjection`, `markProjectionSent`, `markProjectionAbandoned` — the three statements;
* `Drainer`, `outboxSystem` — any number of `drain_once` over one store, a statement or a send
  at a time, each of which may fail, while other components queue more rows;
* `OutboxInv` — the log against the table: **a row is claimed at most once**, and what is sent
  or marked was claimed by the same drain;
* `outbox_history` — the whole history of a row: one transaction id and body, one claimer, and
  an end that is final.  A row whose claimer is gone stays in `sending`.
-/

namespace GuiguBridge

open Relational Interleave

/-! ### The statements -/

structure PendingProjection where
  source_kind : SourceKind
  source_id : String
  projection : Projection
  stable_txn_id : String
  room_id : String
  thread_root : Option String
  reply_event_id : Option String
  body : String
  claim_owner : String
  claim_revision : Nat
  deriving DecidableEq

def PendingProjection.key (p : PendingProjection) : SourceKind × String × Projection :=
  (p.source_kind, p.source_id, p.projection)

/-- The text of the `source_kind` column. -/
def SourceKind.asStr : SourceKind → String
  | .taskEvent => "task_event"
  | .transportReceipt => "transport_receipt"

/-- The columns of `ORDER BY created_at,source_kind,source_id,projection`. -/
def OutboxRow.place (r : OutboxRow) : List String :=
  [r.created_at, r.source_kind.asStr, r.source_id, r.projection.asStr]

/-- `SELECT rowid FROM projection_outbox WHERE state='pending' ORDER BY … LIMIT 1`. -/
def Db.nextPending (db : Db) : Option OutboxRow :=
  ((db.projectionOutbox.rows.filter fun r => decide (r.state = .pending)).insertionSort
    fun a b => a.place ≤ b.place).head?

/-- The row under a claim. -/
def OutboxRow.claimed (owner now : String) (r : OutboxRow) : OutboxRow :=
  { r with state := .sending, claim_owner := some owner,
           claim_revision := some (r.claim_revision.getD 0 + 1), updated_at := now }

/-- What a claim returns of a row. -/
def OutboxRow.pending (owner : String) (r : OutboxRow) : PendingProjection :=
  { source_kind := r.source_kind, source_id := r.source_id, projection := r.projection,
    stable_txn_id := r.stable_txn_id, room_id := r.room_id, thread_root := r.thread_root,
    reply_event_id := r.reply_event_id, body := r.body, claim_owner := owner,
    claim_revision := r.claim_revision.getD 0 }

@[simp] theorem OutboxRow.claimed_key (owner now : String) (r : OutboxRow) :
    (r.claimed owner now).key = r.key := rfl

@[simp] theorem OutboxRow.pending_key (owner : String) (r : OutboxRow) :
    (r.pending owner).key = r.key := rfl

/-- An `UPDATE` of the outbox. -/
def Db.updateOutbox (db : Db) (p : OutboxRow → Bool) (f : OutboxRow → OutboxRow)
    (hf : ∀ r, (f r).key = r.key) : Db :=
  { db with projectionOutbox := db.projectionOutbox.updateWhere p f hf }

/-- One statement of the loop of `claim_projections`: the next pending row, if there is one. -/
def claimProjection (owner now : String) (db : Db) : Option PendingProjection × Db :=
  match db.nextPending with
  | none => (none, db)
  | some row =>
    (some ((row.claimed owner now).pending owner),
      db.updateOutbox (fun r => decide (r.key = row.key)) (OutboxRow.claimed owner now)
        (fun _ => rfl))

/-- `ReliabilityStore::claim_projections`.  **The stale bound is not read.** -/
def claimProjections (owner now _stale_before : String) :
    Nat → Db → List PendingProjection × Db
  | 0, db => ([], db)
  | limit + 1, db =>
    match claimProjection owner now db with
    | (none, db) => ([], db)
    | (some row, db) =>
      let rest := claimProjections owner now _stale_before limit db
      (row :: rest.1, rest.2)

/-- `state='sending' AND claim_owner=? AND claim_revision=?` on the row of a claim. -/
def PendingProjection.holds (p : PendingProjection) (r : OutboxRow) : Bool :=
  decide (r.key = p.key ∧ r.state = .sending ∧ r.claim_owner = some p.claim_owner ∧
    r.claim_revision = some p.claim_revision)

/-- `ReliabilityStore::mark_projection_sent`. -/
def markProjectionSent (row : PendingProjection) (db : Db) : Bool × Db :=
  (db.projectionOutbox.affected row.holds = 1,
    db.updateOutbox row.holds
      (fun r => { r with state := .sent, attempt_count := r.attempt_count + 1 }) (fun _ => rfl))

/-- `ReliabilityStore::mark_projection_abandoned`. -/
def markProjectionAbandoned (row : PendingProjection) (now : String) (db : Db) : Bool × Db :=
  (db.projectionOutbox.affected row.holds = 1,
    db.updateOutbox row.holds
      (fun r => { r with state := .abandoned, attempt_count := r.attempt_count + 1,
                         updated_at := now }) (fun _ => rfl))

/-! ### Drains -/

/-- Where a `drain_once` stands. -/
inductive DrainPc where
  | claiming (left : Nat) (claimed : List PendingProjection)
  | sending (row : PendingProjection) (rest : List PendingProjection) (sent : Nat)
  | markingSent (row : PendingProjection) (rest : List PendingProjection) (sent : Nat)
  | abandoning (row : PendingProjection) (rest : List PendingProjection) (sent : Nat)
  | done (result : Except Unit Nat)

/-- One `OutboxDrain::drain_once`, with the owner and the time it drew at its start. -/
structure Drainer where
  owner : String
  now : String
  pc : DrainPc

/-- The head of the loop over the claimed rows. -/
def deliver (sent : Nat) : List PendingProjection → DrainPc
  | [] => .done (.ok sent)
  | row :: rest => .sending row rest sent

/-- What a drain did. -/
inductive OutboxEvent where
  | claimed (drain : Nat) (row : PendingProjection)
  | sent (drain : Nat) (row : PendingProjection) (ok : Bool)
  | marked (drain : Nat) (row : PendingProjection) (state : OutboxState)
  deriving DecidableEq

/-- The store after a statement that was answered so. -/
def answered (answer : Answer) (before after : Db) : Db :=
  match answer with
  | .ok | .lost => after
  | .failed => before

/-- The log of a mark that took effect. -/
def markLog (drain : Nat) (row : PendingProjection) (state : OutboxState) (answer : Answer)
    (marked : Bool) : List OutboxEvent :=
  if answer ≠ .failed ∧ marked = true then [.marked drain row state] else []

/-- The next statement or send of a drain. -/
def DrainPc.advance (owner now : String) (index : Nat) (answer : Answer) (clock : String)
    (db : Db) : DrainPc → DrainPc × Db × List OutboxEvent
  | .claiming 0 claimed => (deliver 0 claimed, db, [])
  | .claiming (left + 1) claimed =>
    let r := claimProjection owner now db
    match answer, r.1 with
    | .failed, _ => (.done (.error ()), db, [])
    | .lost, none => (.done (.error ()), r.2, [])
    | .lost, some row => (.done (.error ()), r.2, [.claimed index row])
    | .ok, none => (deliver 0 claimed, r.2, [])
    | .ok, some row => (.claiming left (claimed ++ [row]), r.2, [.claimed index row])
  | .sending row rest sent =>
    (if answer = .ok then .markingSent row rest sent else .abandoning row rest sent, db,
      [.sent index row (answer = .ok)])
  | .markingSent row rest sent =>
    let r := markProjectionSent row db
    (if answer = .ok ∧ r.1 = true then deliver (sent + 1) rest else .abandoning row rest sent,
      answered answer db r.2, markLog index row .sent answer r.1)
  | .abandoning row rest sent =>
    let r := markProjectionAbandoned row clock db
    (if answer = .ok ∧ r.1 = true then deliver sent rest else .done (.error ()),
      answered answer db r.2, markLog index row .abandoned answer r.1)
  | .done result => (.done result, db, [])

section

variable [Externals]

/-- The components that queue rows, and those that leave the outbox alone. -/
inductive OutboxWriter where
  | finalizeTerminal (seen : Db) (lease : Lease) (revision : Nat) (generation : String)
      (state : ContinuationState) (observed_bytes : Nat) (event : TaskEvent) (now : DateTime)
  | admitRetry (input : RetryTaskInput)
  | elsewhere (other : Db)

/-- The store after another component wrote. -/
def OutboxWriter.write (db : Db) : OutboxWriter → Db
  | .finalizeTerminal seen lease revision generation state observed_bytes event now =>
    (GuiguBridge.finalizeTerminal seen lease revision generation state observed_bytes event now
      db).2
  | .admitRetry input => (GuiguBridge.admitRetry input db).2
  | .elsewhere other => { other with projectionOutbox := db.projectionOutbox }

/-- The drains over the store. -/
def outboxSystem : System Db Drainer (Answer × String) OutboxWriter OutboxEvent where
  advance index input d db :=
    let r := d.pc.advance d.owner d.now index input.1 input.2 db
    (⟨d.owner, d.now, r.1⟩, r.2)
  outside writer db := writer.write db

/-- A drain at its start; `OutboxDrain::new` asserts a positive batch. -/
def Drainer.Fresh (d : Drainer) : Prop := ∃ batch, 0 < batch ∧ d.pc = .claiming batch []

end

/-! ### What one statement does -/

/-- The columns that a send reads. -/
def OutboxRow.carries (r : OutboxRow) (p : PendingProjection) : Prop :=
  r.key = p.key ∧ r.stable_txn_id = p.stable_txn_id ∧ r.room_id = p.room_id ∧
    r.thread_root = p.thread_root ∧ r.reply_event_id = p.reply_event_id ∧ r.body = p.body

/-- The row at its end. -/
def OutboxRow.ended (state : OutboxState) (now : String) (r : OutboxRow) : OutboxRow :=
  { r with state := state, attempt_count := r.attempt_count + 1, updated_at := now }

theorem nextPending_mem {db : Db} {row : OutboxRow} (h : db.nextPending = some row) :
    row ∈ db.projectionOutbox.rows ∧ row.state = .pending := by
  have hmem : row ∈ (db.projectionOutbox.rows.filter fun r =>
      decide (r.state = .pending)).insertionSort fun a b => a.place ≤ b.place :=
    List.mem_of_head? h
  rw [List.mem_insertionSort, List.mem_filter] at hmem
  exact ⟨hmem.1, of_decide_eq_true hmem.2⟩

/-- A pending row is found. -/
theorem nextPending_eq_none {db : Db} (h : db.nextPending = none) :
    ∀ r ∈ db.projectionOutbox.rows, r.state ≠ .pending := by
  intro r hr hpending
  have hnil : (db.projectionOutbox.rows.filter fun r =>
      decide (r.state = .pending)).insertionSort (fun a b => a.place ≤ b.place) = [] :=
    List.head?_eq_none_iff.mp h
  have hmem : r ∈ (db.projectionOutbox.rows.filter fun r =>
      decide (r.state = .pending)).insertionSort fun a b => a.place ≤ b.place := by
    rw [List.mem_insertionSort, List.mem_filter]
    exact ⟨hr, decide_eq_true hpending⟩
  rw [hnil] at hmem
  cases hmem

/-- A claim finds nothing pending, or takes one pending row. -/
theorem claimProjection_cases {owner now : String} {db db' : Db}
    {result : Option PendingProjection} (h : claimProjection owner now db = (result, db')) :
    (result = none ∧ db' = db ∧ ∀ r ∈ db.projectionOutbox.rows, r.state ≠ .pending) ∨
    (∃ row ∈ db.projectionOutbox.rows, row.state = .pending ∧
      result = some ((row.claimed owner now).pending owner) ∧
      db.projectionOutbox.Puts row.key (row.claimed owner now) db'.projectionOutbox) := by
  unfold claimProjection at h
  cases hnext : db.nextPending with
  | none =>
    rw [hnext] at h
    cases h
    exact Or.inl ⟨rfl, rfl, nextPending_eq_none hnext⟩
  | some row =>
    rw [hnext] at h
    cases h
    obtain ⟨hmem, hpending⟩ := nextPending_mem hnext
    have hkey : ∀ r : OutboxRow, (r.claimed owner now).key = r.key := fun _ => rfl
    have hputs : db.projectionOutbox.Puts row.key (row.claimed owner now)
        (db.projectionOutbox.updateWhere (fun r => decide (r.key = row.key))
          (OutboxRow.claimed owner now) hkey) :=
      Table.puts_updateWhere (fun r hr => of_decide_eq_true hr) (Table.get_of_mem hmem)
        (decide_eq_true rfl)
    exact Or.inr ⟨row, hmem, hpending, rfl, hputs⟩

theorem holds_key {p : PendingProjection} {r : OutboxRow} (h : p.holds r = true) :
    r.key = p.key := (of_decide_eq_true h).1

/-- A mark ends the row of the claim, or finds none. -/
theorem updateOutbox_cases (p : PendingProjection) (f : OutboxRow → OutboxRow)
    (hf : ∀ r, (f r).key = r.key) (db : Db) :
    (db.projectionOutbox.affected p.holds = 1 ∧ ∃ r ∈ db.projectionOutbox.rows,
      p.holds r = true ∧
      db.projectionOutbox.Puts p.key (f r) (db.updateOutbox p.holds f hf).projectionOutbox) ∨
    (db.projectionOutbox.affected p.holds ≠ 1 ∧
      (db.updateOutbox p.holds f hf).projectionOutbox = db.projectionOutbox) := by
  have hkey : ∀ r : OutboxRow, p.holds r = true → r.key = p.key := fun r => holds_key
  by_cases hone : db.projectionOutbox.affected p.holds = 1
  · obtain ⟨r, hr, hholds⟩ := (Table.affected_eq_one_iff hkey).mp hone
    have hputs : db.projectionOutbox.Puts p.key (f r)
        (db.projectionOutbox.updateWhere p.holds f hf) := Table.puts_updateWhere hkey hr hholds
    exact Or.inl ⟨hone, r, Table.mem_of_get hr, hholds, hputs⟩
  · have hle := Table.affected_le_one (t := db.projectionOutbox) hkey
    have hzero : db.projectionOutbox.affected p.holds = 0 := by omega
    exact Or.inr ⟨hone, Table.updateWhere_of_affected_zero hf hzero⟩

/-- What a step of a drain that holds the rows `held` does to the outbox, and what it logs. -/
inductive DrainStep (index : Nat) (held : List PendingProjection) (db db' : Db) :
    List OutboxEvent → Prop where
  | kept (hsame : db'.projectionOutbox = db.projectionOutbox) : DrainStep index held db db' []
  | sent (row : PendingProjection) (ok : Bool) (hrow : row ∈ held)
      (hsame : db'.projectionOutbox = db.projectionOutbox) :
      DrainStep index held db db' [.sent index row ok]
  | claimed (row : OutboxRow) (owner now : String) (hrow : row ∈ db.projectionOutbox.rows)
      (hpending : row.state = .pending)
      (hputs : db.projectionOutbox.Puts row.key (row.claimed owner now) db'.projectionOutbox) :
      DrainStep index held db db' [.claimed index ((row.claimed owner now).pending owner)]
  | marked (p : PendingProjection) (row : OutboxRow) (state : OutboxState) (now : String)
      (hheld : p ∈ held) (hstate : state = .sent ∨ state = .abandoned)
      (hrow : row ∈ db.projectionOutbox.rows) (hholds : p.holds row = true)
      (hputs : db.projectionOutbox.Puts p.key (row.ended state now) db'.projectionOutbox) :
      DrainStep index held db db' [.marked index p state]

/-- The rows that a drain has claimed and not finished. -/
def DrainPc.held : DrainPc → List PendingProjection
  | .claiming _ claimed => claimed
  | .sending row rest _ | .markingSent row rest _ | .abandoning row rest _ => row :: rest
  | .done _ => []

theorem deliver_held (sent : Nat) (rows : List PendingProjection) :
    (deliver sent rows).held = rows := by
  cases rows <;> rfl

section

variable (index : Nat) {held : List PendingProjection} (db : Db)

/-- A mark, however it is answered. -/
theorem mark_step {p : PendingProjection} {f : OutboxRow → OutboxRow}
    {hf : ∀ r, (f r).key = r.key} (state : OutboxState) (hheld : p ∈ held)
    (hstate : state = .sent ∨ state = .abandoned)
    (hended : ∀ r : OutboxRow, ∃ now, f r = r.ended state now) (answer : Answer) :
    DrainStep index held db (answered answer db (db.updateOutbox p.holds f hf))
      (markLog index p state answer (db.projectionOutbox.affected p.holds = 1)) := by
  rcases updateOutbox_cases p f hf db with
    ⟨hone, r, hr, hholds, hputs⟩ | ⟨hno, hsame⟩
  · obtain ⟨now, hf'⟩ := hended r
    rw [hf'] at hputs
    cases answer with
    | failed => simpa [markLog, answered] using DrainStep.kept rfl
    | ok =>
      simp only [markLog, hone, answered]
      exact .marked p r state now hheld hstate hr hholds hputs
    | lost =>
      simp only [markLog, hone, answered]
      exact .marked p r state now hheld hstate hr hholds hputs
  · have hlog : markLog index p state answer
        (decide (db.projectionOutbox.affected p.holds = 1)) = [] := by
      simp [markLog, hno]
    rw [hlog]
    cases answer with
    | failed => exact .kept rfl
    | ok => exact .kept hsame
    | lost => exact .kept hsame

/-- **One step of a drain**: its effect, and that it holds nothing it has not claimed. -/
theorem advance_step (owner now : String) (answer : Answer) (clock : String) (pc : DrainPc) :
    DrainStep index pc.held db (pc.advance owner now index answer clock db).2.1
        (pc.advance owner now index answer clock db).2.2 ∧
      ∀ p ∈ (pc.advance owner now index answer clock db).1.held,
        p ∈ pc.held ∨ .claimed index p ∈ (pc.advance owner now index answer clock db).2.2 := by
  cases pc with
  | claiming left claimed =>
    cases left with
    | zero =>
      refine ⟨.kept rfl, ?_⟩
      intro p hp
      exact Or.inl (deliver_held 0 claimed ▸ hp)
    | succ left =>
      obtain ⟨⟨result, db'⟩, hclaim⟩ : ∃ r, claimProjection owner now db = r := ⟨_, rfl⟩
      rcases claimProjection_cases hclaim with ⟨rfl, rfl, -⟩ | ⟨row, hrow, hpending, rfl, hputs⟩
      · cases answer <;> simp only [DrainPc.advance, hclaim]
        · exact ⟨.kept rfl, fun p hp => Or.inl (deliver_held 0 claimed ▸ hp)⟩
        · exact ⟨.kept rfl, fun p hp => by simp [DrainPc.held] at hp⟩
        · exact ⟨.kept rfl, fun p hp => by simp [DrainPc.held] at hp⟩
      · cases answer <;> simp only [DrainPc.advance, hclaim]
        · refine ⟨.claimed row owner now hrow hpending hputs, ?_⟩
          intro p hp
          rcases List.mem_append.mp hp with hold | hnew
          · exact Or.inl hold
          · exact Or.inr (by simpa using hnew)
        · exact ⟨.kept rfl, fun p hp => by simp [DrainPc.held] at hp⟩
        · exact ⟨.claimed row owner now hrow hpending hputs,
            fun p hp => by simp [DrainPc.held] at hp⟩
  | sending row rest sent =>
    refine ⟨.sent row _ List.mem_cons_self rfl, ?_⟩
    intro p hp
    by_cases hok : answer = .ok
    · exact Or.inl (by simpa [DrainPc.advance, hok, DrainPc.held] using hp)
    · exact Or.inl (by simpa [DrainPc.advance, hok, DrainPc.held] using hp)
  | markingSent row rest sent =>
    refine ⟨mark_step index db .sent List.mem_cons_self (Or.inl rfl) (fun r => ⟨r.updated_at, rfl⟩)
      answer, ?_⟩
    intro p hp
    simp only [DrainPc.advance] at hp
    split at hp
    · rw [deliver_held] at hp
      exact Or.inl (List.mem_cons_of_mem _ hp)
    · exact Or.inl hp
  | abandoning row rest sent =>
    refine ⟨mark_step index db .abandoned List.mem_cons_self (Or.inr rfl) (fun r => ⟨clock, rfl⟩)
      answer, ?_⟩
    intro p hp
    simp only [DrainPc.advance] at hp
    split at hp
    · rw [deliver_held] at hp
      exact Or.inl (List.mem_cons_of_mem _ hp)
    · simp [DrainPc.held] at hp
  | done result =>
    exact ⟨.kept rfl, fun p hp => by simp [DrainPc.advance, DrainPc.held] at hp⟩

end

/-! ### The log against the table -/

/-- The event is a claim of the row under `k`. -/
def OutboxEvent.claims (k : SourceKind × String × Projection) : OutboxEvent → Bool
  | .claimed _ row => decide (row.key = k)
  | _ => false

/-- The row is under the claim, or was until its end. -/
def OutboxRow.claimedAs (r : OutboxRow) (p : PendingProjection) : Prop :=
  r.carries p ∧ r.state ≠ .pending ∧ r.claim_owner = some p.claim_owner ∧
    r.claim_revision = some p.claim_revision

structure OutboxInv (db : Db) (log : List OutboxEvent) : Prop where
  /-- Nobody has claimed a row that is pending. -/
  unclaimed : ∀ r ∈ db.projectionOutbox.rows, r.state = .pending →
    log.countP (OutboxEvent.claims r.key) = 0
  /-- **A row is claimed at most once.** -/
  once : ∀ k, log.countP (OutboxEvent.claims k) ≤ 1
  claimed : ∀ i p, .claimed i p ∈ log → ∃ r ∈ db.projectionOutbox.rows, r.claimedAs p
  sent : ∀ i p ok, .sent i p ok ∈ log → .claimed i p ∈ log
  marked : ∀ i p state, .marked i p state ∈ log → .claimed i p ∈ log

theorem OutboxInv.empty : OutboxInv Db.empty [] where
  unclaimed := by intro r hr; cases hr
  once := by intro k; simp
  claimed := by intro i p h; cases h
  sent := by intro i p ok h; cases h
  marked := by intro i p state h; cases h

/-- Two claims of one row are the same claim. -/
theorem OutboxInv.claim_unique {db : Db} {log : List OutboxEvent} (h : OutboxInv db log)
    {i j : Nat} {p q : PendingProjection} (hp : .claimed i p ∈ log) (hq : .claimed j q ∈ log)
    (hkey : q.key = p.key) : j = i ∧ q = p := by
  have hle := h.once p.key
  rw [List.countP_eq_length_filter] at hle
  have hpm : OutboxEvent.claimed i p ∈ log.filter (OutboxEvent.claims p.key) :=
    List.mem_filter.mpr ⟨hp, decide_eq_true rfl⟩
  have hqm : OutboxEvent.claimed j q ∈ log.filter (OutboxEvent.claims p.key) :=
    List.mem_filter.mpr ⟨hq, decide_eq_true hkey⟩
  cases hlist : log.filter (OutboxEvent.claims p.key) with
  | nil => rw [hlist] at hpm; cases hpm
  | cons e rest =>
    rw [hlist, List.length_cons] at hle
    have hrest : rest = [] := List.eq_nil_of_length_eq_zero (by omega)
    rw [hlist, hrest, List.mem_singleton] at hpm hqm
    rw [← hpm] at hqm
    cases hqm
    exact ⟨rfl, rfl⟩

section

variable {db db' : Db} {log new : List OutboxEvent}

/-- **One step of a drain keeps log and table together.** -/
theorem OutboxInv.step {index : Nat} {held : List PendingProjection} (h : OutboxInv db log)
    (hheld : ∀ p ∈ held, .claimed index p ∈ log) (hstep : DrainStep index held db db' new) :
    OutboxInv db' (log ++ new) := by
  cases hstep with
  | kept hsame =>
    rw [List.append_nil]
    exact ⟨hsame ▸ h.unclaimed, h.once, hsame ▸ h.claimed, h.sent, h.marked⟩
  | sent row ok hrow hsame =>
    refine ⟨?_, ?_, ?_, ?_, ?_⟩
    · rw [hsame]
      intro r hr hp
      rw [List.countP_append, h.unclaimed r hr hp]
      simp [OutboxEvent.claims]
    · intro k
      rw [List.countP_append]
      simpa [OutboxEvent.claims] using h.once k
    · rw [hsame]
      intro i p hp
      exact h.claimed i p (by simpa using hp)
    · intro i p ok' hp
      rcases List.mem_append.mp hp with hold | hnew
      · exact List.mem_append.mpr (Or.inl (h.sent i p ok' hold))
      · rw [List.mem_singleton] at hnew
        cases hnew
        exact List.mem_append.mpr (Or.inl (hheld row hrow))
    · intro i p state hp
      exact List.mem_append.mpr (Or.inl (h.marked i p state (by simpa using hp)))
  | claimed row owner now hrow hpending hputs =>
    have hget := Table.get_of_mem hrow
    have hcount := h.unclaimed row hrow hpending
    refine ⟨?_, ?_, ?_, ?_, ?_⟩
    · intro r hr hp
      rcases hputs.mem hr with ⟨-, rfl⟩ | hold
      · cases hp
      · have hne : row.key ≠ r.key := by
          intro hk
          have hnow := hputs r.key
          rw [Table.get_of_mem hr, if_pos hk.symm] at hnow
          cases Option.some.inj hnow
          cases hp
        rw [List.countP_append, h.unclaimed r hold hp]
        simp [OutboxEvent.claims, hne]
    · intro k
      rw [List.countP_append]
      by_cases hk : row.key = k
      · rw [← hk, hcount]
        simp [OutboxEvent.claims]
      · have hzero : [OutboxEvent.claimed index ((row.claimed owner now).pending owner)].countP
            (OutboxEvent.claims k) = 0 := by
          simp [OutboxEvent.claims, hk]
        rw [hzero]
        exact h.once k
    · intro i p hp
      rcases List.mem_append.mp hp with hold | hnew
      · obtain ⟨r, hr, has⟩ := h.claimed i p hold
        rcases hputs.kept hget hr with ⟨rfl, -⟩ | ⟨-, hr'⟩
        · exact absurd hpending has.2.1
        · exact ⟨r, hr', has⟩
      · rw [List.mem_singleton] at hnew
        cases hnew
        rcases hputs.kept hget hrow with ⟨-, hr'⟩ | ⟨hne, -⟩
        · exact ⟨_, hr', ⟨rfl, rfl, rfl, rfl, rfl, rfl⟩, nofun, rfl, rfl⟩
        · exact absurd rfl hne
    · intro i p ok hp
      exact List.mem_append.mpr (Or.inl (h.sent i p ok (by simpa using hp)))
    · intro i p state hp
      exact List.mem_append.mpr (Or.inl (h.marked i p state (by simpa using hp)))
  | marked p row state now hin hstate hrow hholds hputs =>
    obtain ⟨hkey, hsending, howner, hrevision⟩ := of_decide_eq_true hholds
    have hget : db.projectionOutbox.get p.key = some row := hkey ▸ Table.get_of_mem hrow
    refine ⟨?_, ?_, ?_, ?_, ?_⟩
    · intro r hr hp
      rcases hputs.mem hr with ⟨-, rfl⟩ | hold
      · rcases hstate with rfl | rfl <;> cases hp
      · rw [List.countP_append, h.unclaimed r hold hp]
        simp [OutboxEvent.claims]
    · intro k
      rw [List.countP_append]
      simpa [OutboxEvent.claims] using h.once k
    · intro i q hq
      obtain ⟨r, hr, hcarries, hne, hrest⟩ := h.claimed i q (by simpa using hq)
      rcases hputs.kept hget hr with ⟨rfl, hr'⟩ | ⟨-, hr'⟩
      · refine ⟨_, hr', hcarries, ?_, hrest⟩
        rcases hstate with rfl | rfl <;> nofun
      · exact ⟨r, hr', hcarries, hne, hrest⟩
    · intro i q ok hq
      exact List.mem_append.mpr (Or.inl (h.sent i q ok (by simpa using hq)))
    · intro i q st hq
      rcases List.mem_append.mp hq with hold | hnew
      · exact List.mem_append.mpr (Or.inl (h.marked i q st hold))
      · rw [List.mem_singleton] at hnew
        cases hnew
        exact List.mem_append.mpr (Or.inl (hheld p hin))

end

/-! ### The writers -/

/-- Rows were queued, nothing else changed. -/
structure Grows (t u : Table OutboxRow.key) : Prop where
  kept : ∀ r ∈ t.rows, r ∈ u.rows
  fresh : ∀ r ∈ u.rows, r ∈ t.rows ∨ (r.state = .pending ∧ ∀ x ∈ t.rows, x.key ≠ r.key)

theorem Grows.refl (t : Table OutboxRow.key) : Grows t t := ⟨fun _ h => h, fun _ h => Or.inl h⟩

theorem Grows.trans {t u v : Table OutboxRow.key} (h : Grows t u) (h' : Grows u v) :
    Grows t v where
  kept r hr := h'.kept r (h.kept r hr)
  fresh := by
    intro r hr
    rcases h'.fresh r hr with hmid | ⟨hpending, hnew⟩
    · exact h.fresh r hmid
    · exact Or.inr ⟨hpending, fun x hx => hnew x (h.kept x hx)⟩

theorem Grows.of_queues {row : Option OutboxRow} {t u : Table OutboxRow.key}
    (h : Queues row t u) (hpending : ∀ r, row = some r → r.state = .pending) : Grows t u where
  kept r hr := (h.mem_iff r).mpr (Or.inl hr)
  fresh := by
    intro r hr
    rcases (h.mem_iff r).mp hr with hold | hrow
    · exact Or.inl hold
    · refine Or.inr ⟨hpending r hrow, ?_⟩
      intro x hx hkey
      rw [hrow] at h
      have hfree : t.get r.key = none := ((Table.insert_eq_some_iff _ _ _).mp h).1
      rw [← hkey, Table.get_of_mem hx] at hfree
      cases hfree

/-- **Every other component only queues rows.** -/
theorem outboxWriter_grows [Externals] (writer : OutboxWriter) (db : Db) :
    Grows db.projectionOutbox (writer.write db).projectionOutbox := by
  cases writer with
  | finalizeTerminal seen lease revision generation state observed_bytes event now =>
    obtain ⟨⟨r, db'⟩, hdone⟩ : ∃ r, finalizeTerminal seen lease revision generation state
      observed_bytes event now db = r := ⟨_, rfl⟩
    have hwrite : (OutboxWriter.finalizeTerminal seen lease revision generation state
      observed_bytes event now).write db = db' := congrArg Prod.snd hdone
    rw [hwrite]
    rcases finalizeTerminal_finalized hdone with ⟨rfl, -⟩ | ⟨-, hfinalized⟩
    · exact .refl _
    · obtain ⟨a, task, -, -, -, -, outbox, hreply, hobserver⟩ := hfinalized.rooms
      refine (Grows.of_queues hreply ?_).trans (Grows.of_queues hobserver ?_)
      · intro row hrow
        obtain ⟨room, body, -, -, rfl⟩ := replyRow_eq_some hrow
        rfl
      · intro row hrow
        obtain ⟨room, -, rfl⟩ := observerRow_eq_some hrow
        rfl
  | admitRetry input =>
    obtain ⟨⟨r, db'⟩, hdone⟩ : ∃ r, admitRetry input db = r := ⟨_, rfl⟩
    have hwrite : (OutboxWriter.admitRetry input).write db = db' := congrArg Prod.snd hdone
    rw [hwrite]
    rcases admitRetry_cases hdone with rfl | ⟨-, -, hinsert, -⟩
    · exact .refl _
    · have hqueues : Queues (some input.outboxRow) db.projectionOutbox db'.projectionOutbox :=
        hinsert
      refine Grows.of_queues hqueues ?_
      intro row hrow
      cases hrow
      rfl
  | elsewhere other => exact .refl _

theorem OutboxInv.grow {db db' : Db} {log : List OutboxEvent} (h : OutboxInv db log)
    (hgrows : Grows db.projectionOutbox db'.projectionOutbox) : OutboxInv db' log where
  unclaimed := by
    intro r hr hpending
    rcases hgrows.fresh r hr with hold | ⟨-, hnew⟩
    · exact h.unclaimed r hold hpending
    · rw [List.countP_eq_zero]
      intro e he hclaims
      cases e with
      | claimed i p =>
        obtain ⟨x, hx, hcarries, -⟩ := h.claimed i p he
        exact hnew x hx (hcarries.1.trans (of_decide_eq_true hclaims))
      | sent i p ok => cases hclaims
      | marked i p state => cases hclaims
  once := h.once
  claimed := by
    intro i p hp
    obtain ⟨r, hr, has⟩ := h.claimed i p hp
    exact ⟨r, hgrows.kept r hr, has⟩
  sent := h.sent
  marked := h.marked

/-! ### What a batch returns -/

/-- What is pending after a claim was pending before it, under another key. -/
theorem pending_of_claimed_puts {t u : Table OutboxRow.key} {row r : OutboxRow}
    {owner now : String} (hputs : t.Puts row.key (row.claimed owner now) u) (hr : r ∈ u.rows)
    (hpending : r.state = .pending) : r.key ≠ row.key ∧ r ∈ t.rows := by
  have hnow := hputs r.key
  rw [Table.get_of_mem hr] at hnow
  by_cases hk : r.key = row.key
  · rw [if_pos hk] at hnow
    cases Option.some.inj hnow
    cases hpending
  · rw [if_neg hk] at hnow
    exact ⟨hk, Table.mem_of_get hnow.symm⟩

section

variable (owner now stale_before : String)

/-- **Only pending rows are claimed**, whatever the stale bound. -/
theorem claimProjections_pending (limit : Nat) (db : Db) :
    ∀ p ∈ (claimProjections owner now stale_before limit db).1,
      ∃ r ∈ db.projectionOutbox.rows, r.state = .pending ∧ r.carries p := by
  induction limit generalizing db with
  | zero =>
    intro p hp
    cases hp
  | succ limit ih =>
    obtain ⟨⟨result, db'⟩, hclaim⟩ : ∃ r, claimProjection owner now db = r := ⟨_, rfl⟩
    simp only [claimProjections, hclaim]
    rcases claimProjection_cases hclaim with ⟨rfl, rfl, -⟩ | ⟨row, hrow, hpending, rfl, hputs⟩
    · intro p hp
      cases hp
    · intro p hp
      rcases List.mem_cons.mp hp with rfl | hrest
      · exact ⟨row, hrow, hpending, rfl, rfl, rfl, rfl, rfl, rfl⟩
      · obtain ⟨r, hr, hrp, hcarries⟩ := ih db' p hrest
        exact ⟨r, (pending_of_claimed_puts hputs hr hrp).2, hrp, hcarries⟩

/-- A batch as large as the set of pending rows takes all of them. -/
theorem claimProjections_all (limit : Nat) (db : Db)
    (keys : List (SourceKind × String × Projection)) (hlen : keys.length ≤ limit)
    (hkeys : ∀ r ∈ db.projectionOutbox.rows, r.state = .pending → r.key ∈ keys) :
    ∀ r ∈ db.projectionOutbox.rows, r.state = .pending →
      ∃ p ∈ (claimProjections owner now stale_before limit db).1, r.carries p := by
  induction limit generalizing db keys with
  | zero =>
    intro r hr hpending
    have hmem := hkeys r hr hpending
    rw [List.length_eq_zero_iff.mp (Nat.le_zero.mp hlen)] at hmem
    cases hmem
  | succ limit ih =>
    intro r hr hrp
    obtain ⟨⟨result, db'⟩, hclaim⟩ : ∃ r, claimProjection owner now db = r := ⟨_, rfl⟩
    simp only [claimProjections, hclaim]
    rcases claimProjection_cases hclaim with ⟨-, -, hno⟩ | ⟨row, hrow, hpending, rfl, hputs⟩
    · exact absurd hrp (hno r hr)
    · rcases hputs.kept (Table.get_of_mem hrow) hr with ⟨rfl, -⟩ | ⟨hne, hr'⟩
      · exact ⟨_, List.mem_cons_self, rfl, rfl, rfl, rfl, rfl, rfl⟩
      · -- the key of the claimed row is struck off, the other pending rows keep theirs
        have hlen' : (keys.erase row.key).length ≤ limit := by
          rw [List.length_erase_of_mem (hkeys row hrow hpending)]
          omega
        have hkeys' : ∀ r ∈ db'.projectionOutbox.rows, r.state = .pending →
            r.key ∈ keys.erase row.key := by
          intro r hr hrp
          obtain ⟨hne, hold⟩ := pending_of_claimed_puts hputs hr hrp
          exact (List.mem_erase_of_ne hne).mpr (hkeys r hold hrp)
        obtain ⟨p, hp, hcarries⟩ := ih db' _ hlen' hkeys' r hr' hrp
        exact ⟨p, List.mem_cons_of_mem _ hp, hcarries⟩

end

/-! ### What a later world keeps -/

/-- The row was under the claim of `p` and a mark of that claim ended it. -/
def EndedBy (log : List OutboxEvent) (r r' : OutboxRow) : Prop :=
  ∃ i p state now, .marked i p state ∈ log ∧ p.holds r = true ∧
    (state = .sent ∨ state = .abandoned) ∧ r' = r.ended state now

/-- What a later world keeps of the outbox. -/
structure Later (w w' : World Db Drainer OutboxEvent) : Prop where
  log : ∃ new, w'.log = w.log ++ new
  /-- A queued row never loses its columns, and what it was claimed as. -/
  row : ∀ r ∈ w.store.projectionOutbox.rows, ∃ r' ∈ w'.store.projectionOutbox.rows,
    ∀ p, r.carries p → r'.carries p
  ended : ∀ r ∈ w.store.projectionOutbox.rows, r.state = .sent ∨ r.state = .abandoned →
    r ∈ w'.store.projectionOutbox.rows
  sending : ∀ r ∈ w.store.projectionOutbox.rows, r.state = .sending →
    r ∈ w'.store.projectionOutbox.rows ∨
      ∃ r' ∈ w'.store.projectionOutbox.rows, EndedBy w'.log r r'

theorem Later.refl (w : World Db Drainer OutboxEvent) : Later w w where
  log := ⟨[], (List.append_nil _).symm⟩
  row r hr := ⟨r, hr, fun _ h => h⟩
  ended _ hr _ := hr
  sending _ hr _ := Or.inl hr

theorem Later.trans (u v w : World Db Drainer OutboxEvent) (h : Later u v) (h' : Later v w) :
    Later u w where
  log := by
    obtain ⟨new, hnew⟩ := h.log
    obtain ⟨more, hmore⟩ := h'.log
    exact ⟨new ++ more, by rw [hmore, hnew, List.append_assoc]⟩
  row := by
    intro r hr
    obtain ⟨r₁, hr₁, hcarry₁⟩ := h.row r hr
    obtain ⟨r₂, hr₂, hcarry₂⟩ := h'.row r₁ hr₁
    exact ⟨r₂, hr₂, fun p hp => hcarry₂ p (hcarry₁ p hp)⟩
  ended := by
    intro r hr hend
    exact h'.ended r (h.ended r hr hend) hend
  sending := by
    intro r hr hsending
    rcases h.sending r hr hsending with hsame | ⟨r', hr', i, p, state, now, hin, hholds, hend, rfl⟩
    · exact h'.sending r hsame hsending
    · refine Or.inr ⟨_, h'.ended _ hr' hend, i, p, state, now, ?_, hholds, hend, rfl⟩
      obtain ⟨more, hmore⟩ := h'.log
      rw [hmore]
      exact List.mem_append.mpr (Or.inl hin)

/-- A step of a drain takes the world to a later one. -/
theorem DrainStep.later {index : Nat} {held : List PendingProjection} {db db' : Db}
    {log new : List OutboxEvent} {ps qs : List Drainer} (h : DrainStep index held db db' new) :
    Later ⟨db, ps, log⟩ ⟨db', qs, log ++ new⟩ := by
  have hsame (hsame : db'.projectionOutbox = db.projectionOutbox) (new : List OutboxEvent) :
      Later ⟨db, ps, log⟩ ⟨db', qs, log ++ new⟩ :=
    { log := ⟨new, rfl⟩
      row := fun r hr => ⟨r, hsame ▸ hr, fun _ hp => hp⟩
      ended := fun r hr _ => hsame ▸ hr
      sending := fun r hr _ => Or.inl (hsame ▸ hr) }
  cases h with
  | kept h => exact hsame h []
  | sent row ok hrow h => exact hsame h _
  | claimed row owner now hrow hpending hputs =>
    have hget := Table.get_of_mem hrow
    refine ⟨⟨_, rfl⟩, ?_, ?_, ?_⟩
    · intro r hr
      rcases hputs.kept hget hr with ⟨rfl, hr'⟩ | ⟨-, hr'⟩
      · exact ⟨_, hr', fun _ hp => hp⟩
      · exact ⟨r, hr', fun _ hp => hp⟩
    · intro r hr hend
      rcases hputs.kept hget hr with ⟨rfl, -⟩ | ⟨-, hr'⟩
      · rcases hend with hend | hend <;> rw [hpending] at hend <;> cases hend
      · exact hr'
    · intro r hr hsending
      rcases hputs.kept hget hr with ⟨rfl, -⟩ | ⟨-, hr'⟩
      · rw [hpending] at hsending
        cases hsending
      · exact Or.inl hr'
  | marked p row state now hin hstate hrow hholds hputs =>
    obtain ⟨hkey, hsending, -, -⟩ := of_decide_eq_true hholds
    have hget : db.projectionOutbox.get p.key = some row := hkey ▸ Table.get_of_mem hrow
    refine ⟨⟨_, rfl⟩, ?_, ?_, ?_⟩
    · intro r hr
      rcases hputs.kept hget hr with ⟨rfl, hr'⟩ | ⟨-, hr'⟩
      · exact ⟨_, hr', fun _ hp => hp⟩
      · exact ⟨r, hr', fun _ hp => hp⟩
    · intro r hr hend
      rcases hputs.kept hget hr with ⟨rfl, -⟩ | ⟨-, hr'⟩
      · rcases hend with hend | hend <;> rw [hsending] at hend <;> cases hend
      · exact hr'
    · intro r hr _
      rcases hputs.kept hget hr with ⟨rfl, hr'⟩ | ⟨-, hr'⟩
      · exact Or.inr ⟨_, hr', index, p, state, now,
          List.mem_append.mpr (Or.inr (List.mem_singleton.mpr rfl)), hholds, hstate, rfl⟩
      · exact Or.inl hr'

/-! ### Every run -/

section

variable [Externals]

/-- What a drain holds, it has claimed. -/
def HeldClaimed (index : Nat) (d : Drainer) (_db : Db) (log : List OutboxEvent) : Prop :=
  ∀ p ∈ d.pc.held, .claimed index p ∈ log

theorem outbox_safe : outboxSystem.Safe Drainer.Fresh OutboxInv HeldClaimed where
  start := by
    rintro i d s l ⟨batch, -, hpc⟩ - p hp
    rw [hpc] at hp
    cases hp
  own := by
    intro i x d s l hinv hheld
    obtain ⟨hstep, hnext⟩ := advance_step i s d.owner d.now x.1 x.2 d.pc
    refine ⟨hinv.step hheld hstep, ?_⟩
    intro p hp
    rcases hnext p hp with hold | hnew
    · exact List.mem_append.mpr (Or.inl (hheld p hold))
    · exact List.mem_append.mpr (Or.inr hnew)
  other := by
    rintro i j x d e s l - - - hheld p hp
    exact List.mem_append.mpr (Or.inl (hheld p hp))
  outside := by
    intro writer s l hinv
    exact ⟨hinv.grow (outboxWriter_grows writer s), fun i d hheld => hheld⟩

/-- The world of the drains after `n` moves from the empty store. -/
abbrev outboxAt (moves : List (Move Drainer (Answer × String) OutboxWriter)) (n : Nat) :
    World Db Drainer OutboxEvent := outboxSystem.worldAt Db.empty moves n

variable {moves : List (Move Drainer (Answer × String) OutboxWriter)}

theorem outboxAt_inv (hfresh : ∀ d, .start d ∈ moves → d.Fresh) (n : Nat) :
    OutboxInv (outboxAt moves n).store (outboxAt moves n).log ∧
      ∀ i d, (outboxAt moves n).procs[i]? = some d →
        HeldClaimed i d (outboxAt moves n).store (outboxAt moves n).log :=
  outbox_safe.worldAt hfresh OutboxInv.empty n

/-- So does every move. -/
theorem outbox_later (w : World Db Drainer OutboxEvent)
    (m : Move Drainer (Answer × String) OutboxWriter) : Later w (outboxSystem.move w m) := by
  cases m with
  | start d =>
    obtain ⟨hlog, hrow, hended, hsending⟩ := Later.refl w
    exact ⟨hlog, hrow, hended, hsending⟩
  | advance index input =>
    cases hd : w.procs[index]? with
    | none =>
      rw [System.move_advance_none hd]
      exact .refl w
    | some d =>
      rw [System.move_advance_some hd]
      exact (advance_step index w.store d.owner d.now input.1 input.2 d.pc).1.later
  | outside writer =>
    have hgrows := outboxWriter_grows writer w.store
    exact
      { log := ⟨[], (List.append_nil _).symm⟩
        row := fun r hr => ⟨r, hgrows.kept r hr, fun _ hp => hp⟩
        ended := fun r hr _ => hgrows.kept r hr
        sending := fun r hr _ => Or.inl (hgrows.kept r hr) }

theorem outboxAt_later {n m : Nat} (h : n ≤ m) : Later (outboxAt moves n) (outboxAt moves m) :=
  System.mono Later Later.refl Later.trans (fun _ _ _ => outbox_later _ _) h

/-- The state of a row that no claim and no mark leaves. -/
def OutboxRow.final (r : OutboxRow) : Prop := r.state = .sent ∨ r.state = .abandoned

/-- **The history of the outbox**, over any interleaving of drains, failures, crashes and
writers: a send carries the columns of its row, which keep for ever; what is marked was claimed
by the same drain, and nobody else ever claimed it; `sent` and `abandoned` are final; a row in
`sending` waits for a mark of its own claim and is never returned by another claim, however old;
a pending row is returned by every claim of a large enough batch. -/
theorem outbox_history (hfresh : ∀ d, .start d ∈ moves → d.Fresh) {n m : Nat} (h : n ≤ m) :
    (∀ i p ok, .sent i p ok ∈ (outboxAt moves n).log →
      ∃ r ∈ (outboxAt moves m).store.projectionOutbox.rows, r.carries p) ∧
    (∀ i p state, .marked i p state ∈ (outboxAt moves n).log →
      .claimed i p ∈ (outboxAt moves n).log ∧ ∀ j q,
        .claimed j q ∈ (outboxAt moves m).log → q.key = p.key → j = i ∧ q = p) ∧
    (∀ r ∈ (outboxAt moves n).store.projectionOutbox.rows, r.final →
      r ∈ (outboxAt moves m).store.projectionOutbox.rows) ∧
    (∀ r ∈ (outboxAt moves n).store.projectionOutbox.rows, r.state = .sending →
      (r ∈ (outboxAt moves m).store.projectionOutbox.rows ∧
        ∀ owner now stale limit, ∀ p ∈ (claimProjections owner now stale limit
          (outboxAt moves m).store).1, p.key ≠ r.key) ∨
      ∃ r' ∈ (outboxAt moves m).store.projectionOutbox.rows,
        EndedBy (outboxAt moves m).log r r') ∧
    (∀ r ∈ (outboxAt moves n).store.projectionOutbox.rows, r.state = .pending →
      ∀ owner now stale limit,
        (outboxAt moves n).store.projectionOutbox.rows.length ≤ limit →
        ∃ p ∈ (claimProjections owner now stale limit (outboxAt moves n).store).1,
          r.carries p) := by
  have hinv := (outboxAt_inv hfresh n).1
  have hinv' := (outboxAt_inv hfresh m).1
  have hlater : Later (outboxAt moves n) (outboxAt moves m) := outboxAt_later h
  obtain ⟨new, hnew⟩ := hlater.log
  have hlog : ∀ e, e ∈ (outboxAt moves n).log → e ∈ (outboxAt moves m).log := by
    intro e he
    rw [hnew]
    exact List.mem_append.mpr (Or.inl he)
  refine ⟨?_, ?_, hlater.ended, ?_, ?_⟩
  · intro i p ok hsent
    obtain ⟨r, hr, hcarries, -⟩ := hinv'.claimed i p (hlog _ (hinv.sent i p ok hsent))
    exact ⟨r, hr, hcarries⟩
  · intro i p state hmarked
    have hclaimed := hinv.marked i p state hmarked
    refine ⟨hclaimed, ?_⟩
    intro j q hq hkey
    exact hinv'.claim_unique (hlog _ hclaimed) hq hkey
  · intro r hr hsending
    rcases hlater.sending r hr hsending with hsame | hended
    · refine Or.inl ⟨hsame, ?_⟩
      intro owner now stale limit p hp hkey
      obtain ⟨x, hx, hpending, hcarries⟩ := claimProjections_pending owner now stale limit _ p hp
      have hxr : x = r := Table.eq_of_key_eq _ hx hsame (hcarries.1.trans hkey)
      rw [hxr, hsending] at hpending
      cases hpending
    · exact Or.inr hended
  · intro r hr hpending owner now stale limit hlimit
    refine claimProjections_all owner now stale limit _
      ((outboxAt moves n).store.projectionOutbox.rows.map OutboxRow.key) ?_ ?_ r hr hpending
    · rw [List.length_map]
      exact hlimit
    · intro x hx _
      exact List.mem_map_of_mem hx

end

/-! ### A drain that stops after its claim -/

/-- A drain claims a row of a task that ended and is never heard of again. -/
def crashRun : List (Move Drainer (Answer × String) OutboxWriter) :=
  [.outside (.elsewhere endingStore),
    .outside (.finalizeTerminal endingStore endingLease 2 continuationRuntimeGeneration .terminal
      0 endingEvent (DateTime.ofSecs 3)),
    .start ⟨"dead", "2020-01-01T00:00:00Z", .claiming 1 []⟩,
    .advance 0 (.ok, "2020-01-01T00:00:00Z")]

theorem outbox_history_crashRun :
    (∀ d, .start d ∈ crashRun → d.Fresh) ∧
    ∀ r ∈ (outboxAt crashRun 4).store.projectionOutbox.rows, r.state = .sending →
      r ∈ (outboxAt crashRun 9).store.projectionOutbox.rows ∨
      ∃ r' ∈ (outboxAt crashRun 9).store.projectionOutbox.rows,
        EndedBy (outboxAt crashRun 9).log r r' := by
  have hfresh : ∀ d, .start d ∈ crashRun → d.Fresh := by
    intro d hd
    obtain rfl : d = ⟨"dead", "2020-01-01T00:00:00Z", .claiming 1 []⟩ := by
      simpa [crashRun] using hd
    exact ⟨1, by decide, rfl⟩
  refine ⟨hfresh, ?_⟩
  intro r hr hsending
  have hhistory := outbox_history hfresh (show 4 ≤ 9 by decide)
  rcases hhistory.2.2.2.1 r hr hsending with ⟨hsame, -⟩ | hended
  · exact Or.inl hsame
  · exact Or.inr hended

/-- The row is older than the stale bound of the next claim, which has room for every row, and
does not return it. -/
theorem crashRun_not_reclaimed :
    ∃ r ∈ (outboxAt crashRun 4).store.projectionOutbox.rows, r.state = .sending ∧
      r.claim_owner = some "dead" ∧ r.updated_at < "2026-01-01T00:00:00Z" ∧
      ∀ p ∈ (claimProjections "next" "2026-01-01T00:05:00Z" "2026-01-01T00:00:00Z" 8
        (outboxAt crashRun 4).store).1, p.key ≠ r.key := by
  decide +kernel

end GuiguBridge
