import GuiguBridge.Reference
import GuiguBridge.Runtime.System

/-!
# All or nothing at the end of a task

`finalize_terminal` writes eleven tables in one transaction, with early returns all the way.
This file reads its result value against the tables.

* `TaskEnded` — the store of a task that ended, as a reader of it finds it: continuation and
  receipt, event and version, admission, disposition, lease and claims, and the rooms;
* `RoomsTold` — **a reply is queued exactly if there is a reply room, a line for the monitor
  exactly if there is a monitor room**;
* `finalize_all_or_nothing` — `Committed` comes with all of it, every other result with none.
-/

namespace GuiguBridge

open Relational

section

variable [Externals]

/-! ### The rooms -/

omit [Externals] in
theorem Queues.mem_iff {row : Option OutboxRow} {outbox outbox' : Table OutboxRow.key}
    (h : Queues row outbox outbox') (o : OutboxRow) :
    o ∈ outbox'.rows ↔ o ∈ outbox.rows ∨ row = some o := by
  cases row with
  | none =>
    have hsame : outbox' = outbox := h
    simp [hsame]
  | some row =>
    have hinsert : outbox.insert row = some outbox' := h
    rw [Table.mem_insert hinsert, Option.some.injEq, eq_comm (a := o)]

omit [Externals] in
/-- A row that is queued was not there. -/
theorem Queues.not_mem {row : OutboxRow} {outbox outbox' : Table OutboxRow.key}
    (h : Queues (some row) outbox outbox') : row ∉ outbox.rows := by
  intro hmem
  have hfree : outbox.get row.key = none := ((Table.insert_eq_some_iff _ _ _).mp h).1
  rw [Table.get_of_mem hmem] at hfree
  cases hfree

/-- What the rooms of a task are told when it ends. -/
structure RoomsTold (event : TaskEvent) (a : AdmissionRow) (task : TaskRow) (now : DateTime)
    (db db' : Db) : Prop where
  /-- A task with a reply room is answered by its output set if it completed, else by a text. -/
  reply : ∀ room, a.reply_room = some room →
    (∃ output, event.payload = .completed output ∧
      SetQueued event room a.reply_thread_root a.reply_event_id (a.render_version.getD "v1") now
        db.acpOutputSets db'.acpOutputSets) ∨
    (∃ body, terminalReplyBody event.payload = some body ∧
      textRow event .terminalReply room a.reply_thread_root a.reply_event_id
        a.monitor_generation (a.render_version.getD "v1") body now ∈
          db'.projectionOutbox.rows ∧
      textRow event .terminalReply room a.reply_thread_root a.reply_event_id
        a.monitor_generation (a.render_version.getD "v1") body now ∉ db.projectionOutbox.rows)
  no_reply : a.reply_room = none → db'.acpOutputSets = db.acpOutputSets ∧
    ∀ o ∈ db'.projectionOutbox.rows, o ∉ db.projectionOutbox.rows → o.projection = .observer
  observer : ∀ room, a.monitor_room = some room →
    textRow event .observer room none none a.monitor_generation (a.render_version.getD "v1")
      (monitorBody event task) now ∈ db'.projectionOutbox.rows ∧
    textRow event .observer room none none a.monitor_generation (a.render_version.getD "v1")
      (monitorBody event task) now ∉ db.projectionOutbox.rows
  no_observer : a.monitor_room = none →
    ∀ o ∈ db'.projectionOutbox.rows, o ∉ db.projectionOutbox.rows →
      o.projection = .terminalReply

/-- The row of a reply is a text of the event. -/
theorem replyRow_eq_some {event : TaskEvent} {a : AdmissionRow} {now : DateTime}
    {o : OutboxRow} (h : replyRow event a now = some o) :
    ∃ room body, a.reply_room = some room ∧ terminalReplyBody event.payload = some body ∧
      o = textRow event .terminalReply room a.reply_thread_root a.reply_event_id
        a.monitor_generation (a.render_version.getD "v1") body now := by
  unfold replyRow at h
  split at h
  · cases h
  · cases h
  · rename_i room hroom hpayload
    obtain ⟨body, hbody, ho⟩ := Option.map_eq_some_iff.mp h
    exact ⟨room, body, hroom, hbody, ho.symm⟩

theorem observerRow_eq_some {event : TaskEvent} {a : AdmissionRow} {task : TaskRow}
    {now : DateTime} {o : OutboxRow} (h : observerRow event a task now = some o) :
    ∃ room, a.monitor_room = some room ∧
      o = textRow event .observer room none none a.monitor_generation
        (a.render_version.getD "v1") (monitorBody event task) now := by
  obtain ⟨room, hroom, ho⟩ := Option.map_eq_some_iff.mp h
  exact ⟨room, hroom, ho.symm⟩

section

variable {lease : Lease} {revision : Nat} {state : ContinuationState} {observed_bytes : Nat}
  {event : TaskEvent} {now : DateTime} {db db' : Db}

/-- The rooms after a finalization. -/
theorem Finalized.told (h : Finalized lease revision state observed_bytes event now db db') :
    ∃ a task, db.taskAdmissions.get event.task_id = some a ∧
      db.tasks.get event.task_id = some task ∧ RoomsTold event a task now db db' := by
  obtain ⟨a, task, ha, htask, hbody, hsets, outbox, hreply, hobserver⟩ := h.rooms
  -- every row of the outbox is old, the reply or the line for the monitor
  have hrows : ∀ o ∈ db'.projectionOutbox.rows, o ∉ db.projectionOutbox.rows →
      replyRow event a now = some o ∨ observerRow event a task now = some o := by
    intro o ho hnew
    rcases (hobserver.mem_iff o).mp ho with hmid | hrow
    · rcases (hreply.mem_iff o).mp hmid with hold | hrow
      · exact absurd hold hnew
      · exact Or.inl hrow
    · exact Or.inr hrow
  refine ⟨a, task, ha, htask, ?_, ?_, ?_, ?_⟩
  · intro room hroom
    obtain ⟨body, hbody⟩ := hbody room hroom
    by_cases hcompleted : ∃ output, event.payload = .completed output
    · obtain ⟨output, hpayload⟩ := hcompleted
      simp only [replySets, hroom, hpayload] at hsets
      exact Or.inl ⟨output, hpayload, hsets⟩
    · have hrow : replyRow event a now = some (textRow event .terminalReply room
          a.reply_thread_root a.reply_event_id a.monitor_generation
          (a.render_version.getD "v1") body now) := by
        unfold replyRow
        rw [hroom]
        split
        · contradiction
        · rename_i output _ hpayload
          exact absurd ⟨_, hpayload⟩ hcompleted
        · rename_i hsome _
          cases hsome
          rw [hbody]
          rfl
      rw [hrow] at hreply
      refine Or.inr ⟨body, hbody, ?_, hreply.not_mem⟩
      exact (hobserver.mem_iff _).mpr (Or.inl ((hreply.mem_iff _).mpr (Or.inr rfl)))
  · intro hroom
    refine ⟨?_, ?_⟩
    · simp only [replySets, hroom] at hsets
      exact hsets
    · intro o ho hnew
      rcases hrows o ho hnew with hrow | hrow
      · obtain ⟨room, body, hsome, -⟩ := replyRow_eq_some hrow
        rw [hroom] at hsome
        cases hsome
      · obtain ⟨room, -, rfl⟩ := observerRow_eq_some hrow
        rfl
  · intro room hroom
    have hrow : observerRow event a task now = some (textRow event .observer room none none
        a.monitor_generation (a.render_version.getD "v1") (monitorBody event task) now) := by
      rw [observerRow, hroom]
      rfl
    rw [hrow] at hobserver
    refine ⟨(hobserver.mem_iff _).mpr (Or.inr rfl), ?_⟩
    intro hold
    exact hobserver.not_mem ((hreply.mem_iff _).mpr (Or.inl hold))
  · intro hroom o ho hnew
    rcases hrows o ho hnew with hrow | hrow
    · obtain ⟨room, body, -, -, rfl⟩ := replyRow_eq_some hrow
      rfl
    · obtain ⟨room, hsome, -⟩ := observerRow_eq_some hrow
      rw [hroom] at hsome
      cases hsome

/-! ### The store of a task that ended -/

/-- A task ended: what the store holds of it. -/
structure TaskEnded (lease : Lease) (revision : Nat) (state : ContinuationState)
    (event : TaskEvent) (now : DateTime) (db db' : Db) : Prop where
  continuation : ∃ c, db'.taskContinuations.get lease.task_id = some c ∧ c.state = state ∧
    c.revision = revision + 1
  receipt : ∃ receipt, db'.continuationResponseReceipts.get
      ⟨lease.task_id, event.id.uuid, lease.fence, revision⟩ = some receipt ∧
    receipt.response_hash = terminalHash event
  event_next : ∃ last, db.maxSeq event.task_id = some last ∧ event.seq = last + 1
  event_appended : db.taskEvents.insert (eventToRow event event.seq event.status) =
    some db'.taskEvents
  version : ∃ row row', db.tasks.get event.task_id = some row ∧
    db'.tasks.get event.task_id = some row' ∧ row'.version = row.version + 1
  admission : ∃ a, db'.taskAdmissions.get event.task_id = some a ∧ a.state = .terminal
  disposition : ∀ d ∈ db'.deliveryDispositions.rows,
    some d.delivery_id = db'.boundDelivery event.task_id → d.task_id = event.task_id →
    d.state = .terminal
  lease_closed : ∃ l, db'.executionLeases.get lease.resource = some l ∧ l.state = .released
  claims : ∀ c ∈ db'.workspaceClaims.rows, lease.Holds c → c.state ≠ .active
  rooms : ∃ a task, db.taskAdmissions.get event.task_id = some a ∧
    db.tasks.get event.task_id = some task ∧ RoomsTold event a task now db db'

theorem Finalized.ended (h : Finalized lease revision state observed_bytes event now db db') :
    TaskEnded lease revision state event now db db' where
  continuation := by
    obtain ⟨c, -, hrevision, -, hputs⟩ := h.continuation
    refine ⟨lastTurn state observed_bytes now c, ?_, rfl, congrArg (· + 1) hrevision⟩
    rw [hputs, if_pos rfl]
  receipt := h.receipt
  event_next := by
    have hge := h.seq_ge
    exact ⟨event.seq - 1, h.last, by omega⟩
  event_appended := h.appended
  version := by
    obtain ⟨row, hrow, hversion, hputs⟩ := h.version
    refine ⟨row, { row with version := event.seq - 2 + 1 }, hrow, ?_, ?_⟩
    · rw [hputs, if_pos rfl]
    · show event.seq - 2 + 1 = row.version + 1
      rw [hversion]
  admission := by
    obtain ⟨a, -, -, hputs⟩ := h.admission
    exact ⟨_, by rw [hputs, if_pos rfl], rfl⟩
  disposition := h.disposition
  lease_closed := by
    obtain ⟨l, -, -, -, hputs⟩ := h.lease_ended
    exact ⟨_, by rw [hputs, if_pos rfl], rfl⟩
  claims := by
    intro c hc hholds hactive
    exact ((h.claims_ended c hactive).mp hc).2 hholds
  rooms := h.told

end

/-- **`finalize_terminal` is all or nothing**, for every store, every argument and whatever it
read before its transaction. -/
theorem finalize_all_or_nothing (seen : Db) (lease : Lease) (revision : Nat)
    (generation : String) (state : ContinuationState) (observed_bytes : Nat)
    (event : TaskEvent) (now : DateTime) (db db' : Db)
    (r : Except RuntimeError FinalizeResult)
    (h : finalizeTerminal seen lease revision generation state observed_bytes event now db =
      (r, db')) :
    (r = .ok .committed ∧ TaskEnded lease revision state event now db db') ∨
      (r ≠ .ok .committed ∧ db' = db) := by
  rcases finalizeTerminal_finalized h with ⟨hsame, hno⟩ | ⟨hcommitted, hfinalized⟩
  · exact Or.inr ⟨hno, hsame⟩
  · exact Or.inl ⟨hcommitted, hfinalized.ended⟩

end

/-! ### A task from admission to its end -/

def endingAgentTask : AgentTask :=
  { task_id := ⟨1⟩, root_task_id := ⟨1⟩, parent_task_id := none, from_agent := ⟨2⟩,
    to_agent := ⟨3⟩, conversation_id := ⟨4⟩, reply_to := none, text := "t",
    priority := .default, depth := 0, hops := 0, deadline := none, version := 0 }

def endingTask : NewTask := { endingAgentTask with version_zero := rfl }

def endingLease : Lease := ⟨⟨9⟩, ⟨1⟩, 8, 1, DateTime.ofSecs 60⟩

/-- A task of a room with a monitor is admitted and takes its first turn. -/
def endingStore : Db :=
  let before := run noFiles
    [.admitTask endingTask
      { id := ⟨5⟩, task_id := ⟨1⟩, seq := 1, status := .queued, timestamp := DateTime.ofSecs 0,
        payload := .queued } "runtime"
      (some ⟨"matrix", "$e", "!room:test", none, "$e", some "!monitor:test", 1⟩),
    .acquire ⟨9⟩ ⟨1⟩ 8 (DateTime.ofSecs 0) 60000000000,
    .beginContinuation endingLease ⟨7⟩ "t" (DateTime.ofSecs 1)]
  (claimTurn before endingLease 1 (DateTime.ofSecs 2) before).2

def endingEvent : TaskEvent :=
  { id := ⟨6⟩, task_id := ⟨1⟩, seq := 2, status := .failed, timestamp := DateTime.ofSecs 3,
    payload := .failed "no" }

theorem finalize_all_or_nothing_endingStore :
    TaskEnded endingLease 2 .terminal endingEvent (DateTime.ofSecs 3) endingStore
      (finalizeTerminal endingStore endingLease 2 continuationRuntimeGeneration .terminal 0
        endingEvent (DateTime.ofSecs 3) endingStore).2 := by
  have hcommitted : (finalizeTerminal endingStore endingLease 2 continuationRuntimeGeneration
      .terminal 0 endingEvent (DateTime.ofSecs 3) endingStore).1 = .ok .committed := by
    decide +kernel
  obtain ⟨⟨r, db'⟩, hdone⟩ : ∃ result, finalizeTerminal endingStore endingLease 2
    continuationRuntimeGeneration .terminal 0 endingEvent (DateTime.ofSecs 3) endingStore =
    result := ⟨_, rfl⟩
  rw [hdone] at hcommitted ⊢
  rcases finalize_all_or_nothing _ _ _ _ _ _ _ _ _ _ _ hdone with ⟨-, hended⟩ | ⟨hno, -⟩
  · exact hended
  · exact absurd hcommitted hno

end GuiguBridge
