import GuiguBridge.Runtime.Leases

/-!
# Continuation turns

A leased task runs in turns.  Its row in `task_continuations` says which turn is next, and
every operation on it is one compare-and-set over the row **and** the live lease
(`src/src/runtime/mod.rs`, `begin_continuation` to `finish_with_generation`).

* `Db.liveLease` — the `EXISTS (SELECT 1 FROM execution_leases …)` of those statements;
* `updateTurn` — the compare-and-set they share;
* `claimTurn`, `recordContinue`, `recordActivity`, `finish` and their variants — each is
  `updateTurn` with its own assignment, followed by what else the call writes.

The generation check, and the delivery a receipt names, are read from the pool before the
transaction opens.  Those operations take the store of that earlier read as `seen`, so any
other call may have come in between.
-/

namespace GuiguBridge

open Relational

/-- `CONTINUATION_RUNTIME_GENERATION`. -/
def continuationRuntimeGeneration : String := "generation.v1:strict"

/-- `MAX_CONTINUATION_PROMPT_BYTES`. -/
def maxContinuationPromptBytes : Nat := 4096

/-- `OUTBOX_BODY_NAMESPACE`. -/
def outboxBodyNamespace : Uuid := 0x7297ec04133857b49bc4f0ff9f84fa5a#128

/-- `Continuation`: a decoded row. -/
structure Continuation where
  task_id : TaskId
  resource : ResourceKey
  delivery_id : DeliveryId
  lease_fence : Nat
  revision : Nat
  state : ContinuationState
  next_turn : Nat
  completed_turns : Nat
  consecutive_no_progress : Nat
  next_prompt : String
  started_at : DateTime
  heartbeat_at : DateTime
  last_progress_at : DateTime
  observed_output_bytes : Nat
  runtime_generation : String
  deriving DecidableEq

/-- `bounded_prompt`. -/
def boundedPrompt (v : String) : Except RuntimeError String :=
  if v.isEmpty ∨ v.utf8ByteSize > maxContinuationPromptBytes then .error .continuation
  else .ok v

/-- A row of `execution_leases` that is active under this owner and fence and not expired. -/
def Db.liveLease (db : Db) (resource : ResourceKey) (task_id : TaskId) (owner : Uuid)
    (fence : Nat) (now : String) : Bool :=
  db.executionLeases.rows.any fun l =>
    decide (l.resource_key = resource ∧ l.task_id = task_id ∧ l.owner_token = owner ∧
      l.fence = fence ∧ l.state = .active ∧ now < l.expires_at)

/-- `SELECT runtime_generation FROM task_continuations WHERE task_id=?`. -/
def Db.runtimeGeneration (db : Db) (task_id : TaskId) : Option String :=
  (db.taskContinuations.get task_id).map (·.runtime_generation)

section

variable [Externals]

/-- `u32::try_from` of a counter column. -/
def countU32 (v : Nat) : Option Nat := if v < 2 ^ 32 then some v else none

/-- `decode_continuation`. -/
def decodeContinuation (row : ContinuationRow) : Option Continuation := do
  let next_turn ← countU32 row.next_turn
  let completed_turns ← countU32 row.completed_turns
  let consecutive_no_progress ← countU32 row.consecutive_no_progress
  let started_at ← Externals.parseDateTime row.started_at
  let heartbeat_at ← Externals.parseDateTime row.heartbeat_at
  let last_progress_at ← Externals.parseDateTime row.last_progress_at
  some
    { task_id := row.task_id, resource := row.resource_key, delivery_id := row.delivery_id,
      lease_fence := row.lease_fence, revision := row.revision, state := row.state,
      next_turn := next_turn, completed_turns := completed_turns,
      consecutive_no_progress := consecutive_no_progress, next_prompt := row.next_prompt,
      started_at := started_at, heartbeat_at := heartbeat_at,
      last_progress_at := last_progress_at,
      observed_output_bytes := row.observed_output_bytes,
      runtime_generation := row.runtime_generation }

/-- The compare-and-set of every turn operation: the row of this task, resource, fence and
revision, in the expected state, under a lease that is live for its owner. -/
def updateTurn {ρ : Type} (lease : Lease) (fence revision : Nat) (generation : Option String)
    (expected : ContinuationState) (now : DateTime) (set : ContinuationRow → ContinuationRow)
    (hset : ∀ c, (set c).task_id = c.task_id := by intro c; rfl) : Tx Db ρ Nat := do
  let db ← Tx.read fun db => db
  Tx.update Db.taskContinuationsL
    (fun c => decide (c.task_id = lease.task_id ∧ c.resource_key = lease.resource ∧
      c.lease_fence = fence ∧ c.revision = revision ∧
      (∀ g ∈ generation, c.runtime_generation = g) ∧ c.state = expected ∧
      db.liveLease c.resource_key c.task_id lease.owner c.lease_fence (ts now)))
    set hset

/-- The row of the task, decoded, as the turn operations return it. -/
def readContinuation (task_id : TaskId) : Tx Db RuntimeError Continuation := do
  let row ← Tx.read fun db => db.taskContinuations.get task_id
  let row ← Tx.orElse row .malformed
  Tx.orElse (decodeContinuation row) .malformed

/-- `SqliteRuntimeStore::begin_continuation`. -/
def beginContinuation (lease : Lease) (delivery_id : DeliveryId) (prompt : String)
    (now : DateTime) (db : Db) : Except RuntimeError Unit × Db :=
  Tx.commit .error (do
    let prompt ← Tx.ofExcept (boundedPrompt prompt)
    let fence ← Tx.orElse (toI64 lease.fence) .malformed
    let live ← Tx.read fun db =>
      db.liveLease lease.resource lease.task_id lease.owner fence (ts now)
    Tx.require live .fenced
    Tx.insert Db.taskContinuationsL
      { task_id := lease.task_id, resource_key := lease.resource, delivery_id := delivery_id,
        lease_fence := fence, revision := 1, state := .ready, next_turn := 1,
        completed_turns := 0, consecutive_no_progress := 0, next_prompt := prompt,
        started_at := ts now, heartbeat_at := ts now, last_progress_at := ts now,
        observed_output_bytes := 0, runtime_generation := continuationRuntimeGeneration }
      (.storage .constraint)
    pure (.ok ())) db

/-- What `claim_turn` and `claim_turn_with_generation` share: the generation read before the
transaction must be `required`, and the update also names it when `generation` is given. -/
def claimTurnWhere (seen : Db) (lease : Lease) (revision : Nat) (required : String)
    (generation : Option String) (now : DateTime) (db : Db) :
    Except RuntimeError Continuation × Db :=
  Tx.commit .error (do
    Tx.require (seen.runtimeGeneration lease.task_id = some required) .fenced
    let fence ← Tx.orElse (toI64 lease.fence) .malformed
    let revision ← Tx.orElse (toI64 revision) .malformed
    let n ← updateTurn lease fence revision generation .ready now
      (fun c => { c with state := .inFlight, revision := c.revision + 1,
                         heartbeat_at := ts now })
    Tx.require (n = 1) .fenced
    let continuation ← readContinuation lease.task_id
    pure (.ok continuation)) db

/-- `SqliteRuntimeStore::claim_turn`. -/
def claimTurn (seen : Db) (lease : Lease) (revision : Nat) (now : DateTime) :
    Db → Except RuntimeError Continuation × Db :=
  claimTurnWhere seen lease revision continuationRuntimeGeneration none now

/-- `SqliteRuntimeStore::claim_turn_with_generation`. -/
def claimTurnWithGeneration (seen : Db) (lease : Lease) (revision : Nat) (generation : String)
    (now : DateTime) : Db → Except RuntimeError Continuation × Db :=
  claimTurnWhere seen lease revision generation (some generation) now

/-- The assignment of a turn that asks for another one. -/
def nextTurn (prompt : String) (observed_bytes : Nat) (now : DateTime) (c : ContinuationRow) :
    ContinuationRow :=
  { c with
    state := .ready, revision := c.revision + 1, next_turn := c.next_turn + 1,
    completed_turns := c.completed_turns + 1,
    consecutive_no_progress := c.consecutive_no_progress + 1, next_prompt := prompt,
    heartbeat_at := ts now, observed_output_bytes := c.observed_output_bytes + observed_bytes }

/-- `SqliteRuntimeStore::record_continue`. -/
def recordContinue (seen : Db) (lease : Lease) (revision : Nat) (next_prompt : String)
    (observed_bytes : Nat) (now : DateTime) (db : Db) :
    Except RuntimeError Continuation × Db :=
  Tx.commit .error (do
    Tx.require (seen.runtimeGeneration lease.task_id = some continuationRuntimeGeneration)
      .fenced
    let prompt ← Tx.ofExcept (boundedPrompt next_prompt)
    let observed ← Tx.orElse (toI64 observed_bytes) .malformed
    let fence ← Tx.orElse (toI64 lease.fence) .malformed
    let revision ← Tx.orElse (toI64 revision) .malformed
    let n ← updateTurn lease fence revision none .inFlight now
      (nextTurn prompt observed now)
    Tx.require (n = 1) .fenced
    let continuation ← readContinuation lease.task_id
    pure (.ok continuation)) db

/-- `SqliteRuntimeStore::record_continue_with_receipt`. -/
def recordContinueWithReceipt (seen : Db) (lease : Lease) (revision : Nat)
    (generation next_prompt : String) (observed_bytes : Nat) (outcome : ReceiptOutcomeKind)
    (response : String) (now : DateTime) (db : Db) : Except RuntimeError Continuation × Db :=
  Tx.commit .error (do
    let prompt ← Tx.ofExcept (boundedPrompt next_prompt)
    let bound ← Tx.orElse (seen.taskContinuations.get lease.task_id)
      (.storage .rowNotFound)
    let observed ← Tx.orElse (toI64 observed_bytes) .malformed
    let fence ← Tx.orElse (toI64 lease.fence) .malformed
    let rev ← Tx.orElse (toI64 revision) .malformed
    let n ← updateTurn lease fence rev (some generation) .inFlight now
      (nextTurn prompt observed now)
    Tx.require (n = 1) .fenced
    let row ← Tx.read fun db => db.taskContinuations.get lease.task_id
    let row ← Tx.orElse row .continuation
    let inserted ← Tx.insertOrIgnore Db.continuationResponseReceiptsL
      { idempotency_key := ⟨lease.task_id, bound.delivery_id.uuid, lease.fence, revision⟩,
        task_id := row.task_id, delivery_id := row.delivery_id,
        resource_key := row.resource_key, lease_fence := row.lease_fence,
        continuation_revision := row.revision - 1,
        response_hash := Externals.newV5 outboxBodyNamespace response, outcome := outcome,
        output_bytes := min response.utf8ByteSize (2 ^ 63 - 1),
        runtime_generation := generation, created_at := ts now }
    Tx.require (inserted = 1) .continuation
    let continuation ← readContinuation lease.task_id
    pure (.ok continuation)) db

/-- `SqliteRuntimeStore::record_activity_with_generation`. -/
def recordActivityWithGeneration (lease : Lease) (revision : Nat) (generation : String)
    (observed_bytes : Nat) (now : DateTime) (db : Db) : Except RuntimeError Unit × Db :=
  Tx.commit .error (do
    let observed ← Tx.orElse (toI64 observed_bytes) .malformed
    let fence ← Tx.orElse (toI64 lease.fence) .malformed
    let revision ← Tx.orElse (toI64 revision) .malformed
    let n ← updateTurn lease fence revision (some generation) .inFlight now
      (fun c => { c with heartbeat_at := ts now,
                         observed_output_bytes := c.observed_output_bytes + observed })
    Tx.require (n = 1) .fenced
    pure (.ok ())) db

/-- `SqliteRuntimeStore::record_activity`. -/
def recordActivity (lease : Lease) (revision observed_bytes : Nat) (now : DateTime) :
    Db → Except RuntimeError Unit × Db :=
  recordActivityWithGeneration lease revision continuationRuntimeGeneration observed_bytes now

/-- The assignment of the turn that ends its continuation in `state`. -/
def lastTurn (state : ContinuationState) (observed_bytes : Nat) (now : DateTime)
    (c : ContinuationRow) : ContinuationRow :=
  { c with
    state := state, revision := c.revision + 1, completed_turns := c.completed_turns + 1,
    heartbeat_at := ts now, observed_output_bytes := c.observed_output_bytes + observed_bytes }

theorem lastTurn_key (state : ContinuationState) (observed_bytes : Nat) (now : DateTime)
    (c : ContinuationRow) : (lastTurn state observed_bytes now c).task_id = c.task_id := rfl

/-- The lease of a finished turn ends as its continuation asks. -/
def endLease {ρ : Type} (resource : ResourceKey) (task_id : TaskId) (owner : Uuid)
    (fence : Nat) (state : LeaseState) (now : String) : Tx Db ρ Nat :=
  Tx.update Db.executionLeasesL
    (fun l => decide (l.resource_key = resource ∧ l.task_id = task_id ∧
      l.owner_token = owner ∧ l.fence = fence ∧ l.state = .active ∧ now < l.expires_at))
    (fun l => { l with state := state, heartbeat_at := now, expires_at := now })

/-- `SqliteRuntimeStore::finish_with_generation`: the continuation and the lease end; the
workspace claims are not touched. -/
def finishWithGeneration (seen : Db) (lease : Lease) (revision : Nat) (generation : String)
    (state : ContinuationState) (observed_bytes : Nat) (now : DateTime) (db : Db) :
    Except RuntimeError Unit × Db :=
  Tx.commit .error (do
    Tx.require (seen.runtimeGeneration lease.task_id = some generation) .fenced
    let observed ← Tx.orElse (toI64 observed_bytes) .malformed
    let fence ← Tx.orElse (toI64 lease.fence) .malformed
    let revision ← Tx.orElse (toI64 revision) .malformed
    let n ← updateTurn lease fence revision (some generation) .inFlight now
      (lastTurn state observed now)
    Tx.require (n = 1) .fenced
    let n ← endLease lease.resource lease.task_id lease.owner fence
      (if state = .recoveryNeeded then .recoveryNeeded else .released) (ts now)
    Tx.require (n = 1) .fenced
    if state = .recoveryNeeded then do
      let db ← Tx.read fun db => db
      let _ ← Tx.update Db.deliveryDispositionsL
        (fun d => decide (
          some d.delivery_id = (db.taskContinuations.get lease.task_id).map (·.delivery_id) ∧
          d.task_id = lease.task_id ∧ (d.state = .prepared ∨ d.state = .acknowledged)))
        (fun d => { d with state := .outcomeUnknown, reason_code := some "recovery_needed" })
      pure (.ok ())
    else pure (.ok ())) db

/-- `SqliteRuntimeStore::finish`. -/
def finish (seen : Db) (lease : Lease) (revision : Nat) (state : ContinuationState)
    (observed_bytes : Nat) (now : DateTime) : Db → Except RuntimeError Unit × Db :=
  finishWithGeneration seen lease revision continuationRuntimeGeneration state observed_bytes
    now

/-! ### What each call can do -/

/-- The lease is the active one of its resource, held for its task. -/
def Lease.Live (lease : Lease) (db : Db) : Prop :=
  ∃ l, db.executionLeases.get lease.resource = some l ∧ l.task_id = lease.task_id ∧
    lease.Owns l

omit [Externals] in
theorem liveLease_iff {db : Db} {lease : Lease} {now : String} :
    db.liveLease lease.resource lease.task_id lease.owner lease.fence now = true ↔
      ∃ l, db.executionLeases.get lease.resource = some l ∧ l.task_id = lease.task_id ∧
        lease.Owns l ∧ now < l.expires_at := by
  simp only [Db.liveLease, List.any_eq_true, decide_eq_true_eq]
  constructor
  · rintro ⟨l, hl, hres, htask, hown, hfence, hact, hexp⟩
    refine ⟨l, ?_, htask, ⟨hown, hfence, hact⟩, hexp⟩
    rw [← hres]
    exact Table.get_of_mem hl
  · rintro ⟨l, hl, htask, ⟨hown, hfence, hact⟩, hexp⟩
    exact ⟨l, Table.mem_of_get hl, Table.key_of_get hl, htask, hown, hfence, hact, hexp⟩

/-- The compare-and-set of a turn writes the continuation only, and writes it only under the
live lease. -/
theorem updateTurn_ok {ρ : Type} {lease : Lease} {revision : Nat}
    {generation : Option String} {expected : ContinuationState} {now : DateTime}
    {set : ContinuationRow → ContinuationRow} {hset : ∀ c, (set c).task_id = c.task_id}
    {s s' : Db} {n : Nat}
    (h : (updateTurn lease lease.fence revision generation expected now set hset :
      Tx Db ρ Nat) s = .ok (n, s')) :
    ∃ t, s' = { s with taskContinuations := t } ∧
      (n = 1 → lease.Live s ∧
        ∃ c, s.taskContinuations.get lease.task_id = some c ∧
          c.resource_key = lease.resource ∧ c.lease_fence = lease.fence ∧
          c.revision = revision ∧ c.state = expected ∧
          s.taskContinuations.Puts lease.task_id (set c) t) := by
  simp only [updateTurn, Tx.bind_ok, Tx.read_ok, Tx.update_ok] at h
  obtain ⟨_, _, ⟨rfl, rfl⟩, haff, rfl⟩ := h
  refine ⟨_, rfl, ?_⟩
  intro hn
  obtain ⟨c, hc, hp, hputs⟩ :=
    Table.update_puts (fun r hp => (of_decide_eq_true hp).1) (haff.trans hn)
  have hp := of_decide_eq_true hp
  have hlive := hp.2.2.2.2.2.2
  rw [hp.1, hp.2.1, hp.2.2.1] at hlive
  obtain ⟨l, hl, htask, hown, -⟩ := liveLease_iff.1 hlive
  exact ⟨⟨l, hl, htask, hown⟩, c, hc, hp.2.1, hp.2.2.1, hp.2.2.2.1, hp.2.2.2.2.2.1, hputs⟩

theorem readContinuation_ok {task_id : TaskId} {s s' : Db} {c : Continuation}
    (h : readContinuation task_id s = .ok (c, s')) : s' = s := by
  simp only [readContinuation, Tx.bind_ok, Tx.read_ok, Tx.orElse_ok] at h
  obtain ⟨_, _, ⟨-, rfl⟩, _, _, ⟨-, rfl⟩, -, rfl⟩ := h
  rfl

/-- A turn operation fails without a trace, or writes its continuation (and receipt) under
the live lease. -/
def TurnStep {α : Type} (lease : Lease) (db db' : Db) (r : Except RuntimeError α) : Prop :=
  (db' = db ∧ ∃ e, r = .error e) ∨
    (lease.Live db ∧ (∃ a, r = .ok a) ∧
      ∃ t u, db' = { db with taskContinuations := t, continuationResponseReceipts := u })

theorem beginContinuation_cases {lease : Lease} {delivery_id : DeliveryId} {prompt : String}
    {now : DateTime} {db db' : Db} {r : Except RuntimeError Unit}
    (h : beginContinuation lease delivery_id prompt now db = (r, db')) :
    TurnStep lease db db' r := by
  rcases Tx.commit_cases h with hok | ⟨hdb, e, _, hr⟩
  · simp only [Tx.bind_ok, Tx.ofExcept_ok, Tx.orElse_ok, Tx.read_ok, Tx.require_ok,
      Tx.insert_ok, Tx.pure_ok] at hok
    obtain ⟨_, _, ⟨-, rfl⟩, f, _, ⟨hf, rfl⟩, live, _, ⟨hlive, rfl⟩, _, _, ⟨hl, rfl⟩, _, _,
      ⟨t, -, rfl⟩, hr, rfl⟩ := hok
    obtain ⟨rfl, -⟩ := toI64_eq_some hf
    obtain ⟨l, hget, htask, hown, -⟩ := liveLease_iff.1 (hlive.trans hl)
    exact Or.inr ⟨⟨l, hget, htask, hown⟩, ⟨_, hr.symm⟩, t, _, rfl⟩
  · exact Or.inl ⟨hdb, e, hr⟩

theorem claimTurnWhere_cases {seen : Db} {lease : Lease} {revision : Nat} {required : String}
    {generation : Option String} {now : DateTime} {db db' : Db}
    {r : Except RuntimeError Continuation}
    (h : claimTurnWhere seen lease revision required generation now db = (r, db')) :
    TurnStep lease db db' r := by
  rcases Tx.commit_cases h with hok | ⟨hdb, e, _, hr⟩
  · simp only [Tx.bind_ok, Tx.orElse_ok, Tx.require_ok, Tx.pure_ok] at hok
    obtain ⟨_, _, ⟨-, rfl⟩, f, _, ⟨hf, rfl⟩, _, _, ⟨-, rfl⟩, hmore⟩ := hok
    obtain ⟨n, s₁, hupd, _, _, ⟨hn, rfl⟩, c, _, hread, hr, rfl⟩ := hmore
    obtain ⟨rfl, -⟩ := toI64_eq_some hf
    obtain ⟨t, rfl, hlive⟩ := updateTurn_ok hupd
    obtain rfl := readContinuation_ok hread
    exact Or.inr ⟨(hlive (of_decide_eq_true hn)).1, ⟨_, hr.symm⟩, t, _, rfl⟩
  · exact Or.inl ⟨hdb, e, hr⟩

theorem recordContinue_cases {seen : Db} {lease : Lease} {revision : Nat}
    {next_prompt : String} {observed_bytes : Nat} {now : DateTime} {db db' : Db}
    {r : Except RuntimeError Continuation}
    (h : recordContinue seen lease revision next_prompt observed_bytes now db = (r, db')) :
    TurnStep lease db db' r := by
  rcases Tx.commit_cases h with hok | ⟨hdb, e, _, hr⟩
  · simp only [Tx.bind_ok, Tx.ofExcept_ok, Tx.orElse_ok, Tx.require_ok, Tx.pure_ok] at hok
    obtain ⟨_, _, ⟨-, rfl⟩, _, _, ⟨-, rfl⟩, _, _, ⟨-, rfl⟩, hmore⟩ := hok
    obtain ⟨f, _, ⟨hf, rfl⟩, _, _, ⟨-, rfl⟩, n, s₁, hupd, hmore⟩ := hmore
    obtain ⟨_, _, ⟨hn, rfl⟩, c, _, hread, hr, rfl⟩ := hmore
    obtain ⟨rfl, -⟩ := toI64_eq_some hf
    obtain ⟨t, rfl, hlive⟩ := updateTurn_ok hupd
    obtain rfl := readContinuation_ok hread
    exact Or.inr ⟨(hlive (of_decide_eq_true hn)).1, ⟨_, hr.symm⟩, t, _, rfl⟩
  · exact Or.inl ⟨hdb, e, hr⟩

theorem recordContinueWithReceipt_cases {seen : Db} {lease : Lease} {revision : Nat}
    {generation next_prompt : String} {observed_bytes : Nat} {outcome : ReceiptOutcomeKind}
    {response : String} {now : DateTime} {db db' : Db} {r : Except RuntimeError Continuation}
    (h : recordContinueWithReceipt seen lease revision generation next_prompt observed_bytes
      outcome response now db = (r, db')) :
    TurnStep lease db db' r := by
  rcases Tx.commit_cases h with hok | ⟨hdb, e, _, hr⟩
  · simp only [Tx.bind_ok, Tx.ofExcept_ok, Tx.orElse_ok, Tx.read_ok, Tx.insertOrIgnore_ok,
      Tx.require_ok, Tx.pure_ok] at hok
    obtain ⟨_, _, ⟨-, rfl⟩, _, _, ⟨-, rfl⟩, _, _, ⟨-, rfl⟩, hmore⟩ := hok
    obtain ⟨f, _, ⟨hf, rfl⟩, _, _, ⟨-, rfl⟩, n, s₁, hupd, hmore⟩ := hmore
    obtain ⟨_, _, ⟨hn, rfl⟩, _, _, ⟨-, rfl⟩, _, _, ⟨-, rfl⟩, hmore⟩ := hmore
    obtain ⟨m, s₂, hins, _, _, ⟨hm, rfl⟩, c, _, hread, hr, rfl⟩ := hmore
    obtain ⟨rfl, -⟩ := toI64_eq_some hf
    obtain ⟨t, rfl, hlive⟩ := updateTurn_ok hupd
    obtain rfl := readContinuation_ok hread
    rcases hins with ⟨-, u, -, rfl⟩ | ⟨rfl, -, -⟩
    · exact Or.inr ⟨(hlive (of_decide_eq_true hn)).1, ⟨_, hr.symm⟩, t, u, rfl⟩
    · cases of_decide_eq_true hm
  · exact Or.inl ⟨hdb, e, hr⟩

theorem recordActivityWithGeneration_cases {lease : Lease} {revision : Nat}
    {generation : String} {observed_bytes : Nat} {now : DateTime} {db db' : Db}
    {r : Except RuntimeError Unit}
    (h : recordActivityWithGeneration lease revision generation observed_bytes now db =
      (r, db')) :
    TurnStep lease db db' r := by
  rcases Tx.commit_cases h with hok | ⟨hdb, e, _, hr⟩
  · simp only [Tx.bind_ok, Tx.orElse_ok, Tx.require_ok, Tx.pure_ok] at hok
    obtain ⟨_, _, ⟨-, rfl⟩, f, _, ⟨hf, rfl⟩, _, _, ⟨-, rfl⟩, n, s₁, hupd, _, _, ⟨hn, rfl⟩,
      hr, rfl⟩ := hok
    obtain ⟨rfl, -⟩ := toI64_eq_some hf
    obtain ⟨t, rfl, hlive⟩ := updateTurn_ok hupd
    exact Or.inr ⟨(hlive (of_decide_eq_true hn)).1, ⟨_, hr.symm⟩, t, _, rfl⟩
  · exact Or.inl ⟨hdb, e, hr⟩

omit [Externals] in
theorem endLease_ok {ρ : Type} {resource : ResourceKey} {task_id : TaskId} {owner : Uuid}
    {fence : Nat} {state : LeaseState} {now : String} {s s' : Db} {n : Nat}
    (h : (endLease resource task_id owner fence state now : Tx Db ρ Nat) s = .ok (n, s'))
    (hn : n = 1) :
    ∃ l t, s' = { s with executionLeases := t } ∧
      s.executionLeases.get resource = some l ∧ l.task_id = task_id ∧
      (l.owner_token = owner ∧ l.fence = fence ∧ l.state = .active) ∧
      s.executionLeases.Puts resource
        { l with state := state, heartbeat_at := now, expires_at := now } t := by
  obtain ⟨haff, rfl⟩ := Tx.update_ok.1 h
  obtain ⟨l, hl, hp, hputs⟩ :=
    Table.update_puts (fun r hp => (of_decide_eq_true hp).1) (haff.trans hn)
  have hp := of_decide_eq_true hp
  exact ⟨l, _, rfl, hl, hp.2.1, ⟨hp.2.2.1, hp.2.2.2.1, hp.2.2.2.2.1⟩, hputs⟩

/-- `finish` fails without a trace, or ends its continuation and the lease the caller owns;
the workspace claims stay as they are. -/
theorem finishWithGeneration_cases {seen : Db} {lease : Lease} {revision : Nat}
    {generation : String} {state : ContinuationState} {observed_bytes : Nat} {now : DateTime}
    {db db' : Db} {r : Except RuntimeError Unit}
    (h : finishWithGeneration seen lease revision generation state observed_bytes now db =
      (r, db')) :
    (db' = db ∧ ∃ e, r = .error e) ∨
    (∃ l st t c d, db' = { db with executionLeases := t, taskContinuations := c,
                                   deliveryDispositions := d } ∧ r = .ok () ∧
      db.executionLeases.get lease.resource = some l ∧ l.task_id = lease.task_id ∧
      lease.Owns l ∧ st ≠ LeaseState.active ∧
      db.executionLeases.Puts lease.resource
        { l with state := st, heartbeat_at := ts now, expires_at := ts now } t) := by
  rcases Tx.commit_cases h with hok | ⟨hdb, e, _, hr⟩
  · simp only [Tx.bind_ok, Tx.orElse_ok, Tx.require_ok, Tx.ite_ok, Tx.read_ok, Tx.update_ok,
      Tx.pure_ok] at hok
    obtain ⟨_, _, ⟨-, rfl⟩, _, _, ⟨-, rfl⟩, f, _, ⟨hf, rfl⟩, hmore⟩ := hok
    obtain ⟨_, _, ⟨-, rfl⟩, n, s₁, hupd, _, _, ⟨hn, rfl⟩, hmore⟩ := hmore
    obtain ⟨m, s₂, hend, _, _, ⟨hm, rfl⟩, hlast⟩ := hmore
    obtain ⟨rfl, -⟩ := toI64_eq_some hf
    obtain ⟨c, rfl, -⟩ := updateTurn_ok hupd
    obtain ⟨l, t, rfl, hl, htask, hown, hputs⟩ := endLease_ok hend (of_decide_eq_true hm)
    have hst : (if state = .recoveryNeeded then LeaseState.recoveryNeeded else .released) ≠
        .active := by split <;> simp
    rcases hlast with ⟨-, _, _, ⟨rfl, rfl⟩, _, _, ⟨-, rfl⟩, hr, rfl⟩ | ⟨-, hr, rfl⟩
    · exact Or.inr ⟨l, _, t, c, _, rfl, hr.symm, hl, htask, hown, hst, hputs⟩
    · exact Or.inr ⟨l, _, t, c, db.deliveryDispositions, rfl, hr.symm, hl, htask, hown, hst,
        hputs⟩
  · exact Or.inl ⟨hdb, e, hr⟩

end

end GuiguBridge
