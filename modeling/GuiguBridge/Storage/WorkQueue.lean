import GuiguBridge.Runtime.Lifecycle
import GuiguBridge.Storage.Workflow

/-!
# The work queue

The bounded queue of each target (`src/src/storage/reliability.rs`, and the two calls of
`src/src/runtime/mod.rs` by which the worker takes its item; tables of
`src/migrations/0010_agent_work_queue.sql`).

* `reserveQueue` — a place in the queue, once for an idempotency key;
* `claimNext`, `claimQueue`, `markSendStarted`, `markQueueSendStarted` — the holder of a live
  lease takes an item and says that it sends it;
* `pauseQueue`, `pauseTaskQueued`, `pauseTaskAfterReap`, `markPauseRecoveryNeeded` — an item
  stops; **an item that was sent stops only after its holder is gone**;
* `resumeTask`, `resumeQueue`, `recoverQueue` — an item goes back into the queue;
* `QueueMove`, `QueueStep` — what may happen to a row, and `queueStep_cases`, **every call is
  made of such moves**.
-/

namespace GuiguBridge

open Relational

structure QueueClaim where
  queue_id : Uuid
  task_id : TaskId
  revision : Nat
  owner_fence : Nat
  deriving DecidableEq

/-- What `pause_task_after_reap` reports. -/
inductive PauseOutcome where
  | paused | recoveryNeeded | absent
  deriving DecidableEq

/-- `QueueLeaseContext`, with the texts of the key and the owner read as what they name. -/
structure QueueLease where
  resource_key : ResourceKey
  runtime_owner : Uuid
  owner_fence : Nat
  expires_at : String
  deriving DecidableEq

/-! ### Rows -/

/-- `state='active' AND expires_at>?`: the lease is live at `now`, as texts compare. -/
def LeaseRow.liveAt (now : String) (l : LeaseRow) : Bool :=
  decide (l.state = .active ∧ now < l.expires_at)

/-- The lease of this task, owner and fence. -/
def LeaseRow.bound (task_id : TaskId) (owner : Uuid) (fence : Nat) (l : LeaseRow) : Bool :=
  decide (l.task_id = task_id ∧ l.owner_token = owner ∧ l.fence = fence)

namespace WorkQueueRow

def claimedBy (owner : Uuid) (fence : Nat) (now : String) (q : WorkQueueRow) : WorkQueueRow :=
  { q with state := .claimed, revision := q.revision + 1, claimed_at := some now,
           runtime_owner := some owner, owner_fence := some fence, updated_at := now }

def started (now : String) (q : WorkQueueRow) : WorkQueueRow :=
  { q with state := .running, send_started := true, revision := q.revision + 1,
           updated_at := now }

def paused (now : String) (q : WorkQueueRow) : WorkQueueRow :=
  { q with state := .paused, revision := q.revision + 1, updated_at := now }

/-- The reap of the holder is not proven. -/
def suspected (now : String) (q : WorkQueueRow) : WorkQueueRow :=
  { q with state := .recoveryNeeded, revision := q.revision + 1,
           reason := some "pause reap not confirmed", updated_at := now }

/-- Back at the end of the queue. -/
def requeued (sequence : Nat) (now : String) (q : WorkQueueRow) : WorkQueueRow :=
  { q with state := .queued, sequence := sequence, revision := q.revision + 1,
           claimed_at := none, send_started := false, runtime_owner := none,
           owner_fence := none, updated_at := now }

/-- Recovery puts an item that was not sent back in its place, and gives up one that was. -/
def recovered (now : String) (q : WorkQueueRow) : WorkQueueRow :=
  { q with
    state := if q.send_started then .recoveryNeeded else .queued
    revision := q.revision + 1
    claimed_at := if q.send_started then q.claimed_at else none
    runtime_owner := if q.send_started then q.runtime_owner else none
    owner_fence := if q.send_started then q.owner_fence else none
    updated_at := now }

/-- The row that `reserve_queue` inserts. -/
def reserved (queue_id : Uuid) (task_id : TaskId) (delivery_id : DeliveryId)
    (target : EndpointId) (room_id : String) (thread_root : Option String)
    (sender : EndpointId) (idempotency_key body_hash : String) (sequence : Nat)
    (now : String) : WorkQueueRow :=
  { queue_id := queue_id, task_id := task_id, delivery_id := delivery_id,
    target_endpoint_id := target, room_id := room_id, thread_root := thread_root,
    sender_endpoint_id := sender, idempotency_key := idempotency_key, body_hash := body_hash,
    lane := .ordinary, state := .queued, sequence := sequence, revision := 0,
    claimed_at := none, send_started := false, runtime_owner := none, owner_fence := none,
    reason := none, created_at := now, updated_at := now }

/-- `(runtime_owner=? AND owner_fence=?) OR (runtime_owner IS NULL AND owner_fence IS NULL)`;
a comparison with `NULL` does not hold. -/
def ownedOrFree (owner : Option Uuid) (fence : Option Nat) (q : WorkQueueRow) : Bool :=
  (owner.isSome && fence.isSome && decide (q.runtime_owner = owner ∧ q.owner_fence = fence)) ||
    decide (q.runtime_owner = none ∧ q.owner_fence = none)

end WorkQueueRow

/-- `ORDER BY sequence LIMIT 1` over the rows that `p` selects. -/
def Db.oldest (db : Db) (p : WorkQueueRow → Bool) : Option WorkQueueRow :=
  (db.agentWorkQueue.rows.filter p).foldl
    (fun best q =>
      match best with
      | none => some q
      | some b => if q.sequence < b.sequence then some q else some b) none

/-- The rows that count against the capacity of a target. -/
def Db.activeItems (db : Db) (target : EndpointId) : Nat :=
  db.agentWorkQueue.rows.countP fun q =>
    decide (q.target_endpoint_id = target ∧ q.lane = .ordinary) && q.state.active

/-! ### Reservation -/

/-- The counter of a target: created, or with the capacity of this call. -/
def upsertCounter (target : EndpointId) (capacity : Int) (now : String) :
    Tx Db ReliabilityError Unit := do
  Tx.require (1 ≤ capacity) (.sql .constraint)
  let _ ← Tx.insertOrIgnore Db.agentQueueCountersL
    { target_endpoint_id := target, next_sequence := 1, capacity := capacity,
      updated_at := now }
  let _ ← Tx.update Db.agentQueueCountersL (fun c => decide (c.target_endpoint_id = target))
    (fun c => { c with capacity := capacity, updated_at := now })
    (QueueCounterRow.capacity_key capacity now)
  pure ()

/-- The next sequence number of a target. -/
def takeSequence (target : EndpointId) (now : String) : Tx Db ReliabilityError Nat := do
  let counter ← Tx.read fun db => db.agentQueueCounters.get target
  let counter ← Tx.orElse counter (.sql .rowNotFound)
  let _ ← Tx.update Db.agentQueueCountersL (fun c => decide (c.target_endpoint_id = target))
    (fun c => { c with next_sequence := c.next_sequence + 1, updated_at := now })
    (QueueCounterRow.sequence_key now)
  pure counter.next_sequence

/-- `ReliabilityStore::reserve_queue`; `queue_id` is the fresh identity of this call. -/
def reserveQueue (queue_id : Uuid) (task_id : TaskId) (delivery_id : DeliveryId)
    (target : EndpointId) (room_id : String) (thread_root : Option String)
    (sender : EndpointId) (idempotency_key body_hash : String) (capacity : Int) (now : String)
    (db : Db) : Except ReliabilityError QueueReservation × Db :=
  Tx.commit .error (do
    upsertCounter target capacity now
    let existing ← Tx.read fun db => db.agentWorkQueue.rows.find? fun q =>
      decide (q.target_endpoint_id = target ∧ q.idempotency_key = idempotency_key)
    match existing with
    | some row => pure (.ok ⟨row.queue_id, row.sequence, row.state⟩)
    | none => do
      let active ← Tx.read fun db => db.activeItems target
      Tx.require ((active : Int) < capacity) .queueFull
      let sequence ← takeSequence target now
      insertQueueRow (.reserved queue_id task_id delivery_id target room_id thread_root sender
        idempotency_key body_hash sequence now)
      pure (.ok ⟨queue_id, sequence, .queued⟩)) db

/-! ### Claim and send -/

/-- `ReliabilityStore::claim_next`. -/
def claimNext (target : EndpointId) (resource : ResourceKey) (owner : Uuid) (fence : Nat)
    (now : String) (db : Db) : Except ReliabilityError (Option QueueClaim) × Db :=
  Tx.commit .error (do
    let lease ← Tx.read fun db => (db.executionLeases.get resource).filter fun l =>
      decide (l.owner_token = owner ∧ l.fence = fence) && l.liveAt now
    let lease ← Tx.orElse lease .workflowConflict
    let row ← Tx.read fun db => db.oldest fun q =>
      decide (q.target_endpoint_id = target ∧ q.lane = .ordinary ∧ q.state = .queued)
    match row with
    | none => pure (.ok none)
    | some row => do
      Tx.require (row.task_id = lease.task_id) .workflowConflict
      let n ← Tx.update Db.agentWorkQueueL
        (fun q => decide (q.queue_id = row.queue_id ∧ q.state = .queued ∧
          q.revision = row.revision))
        (WorkQueueRow.claimedBy owner fence now)
      Tx.require (n = 1) .workflowConflict
      pure (.ok (some ⟨row.queue_id, row.task_id, row.revision + 1, fence⟩))) db

/-- `ReliabilityStore::mark_send_started`. -/
def markSendStarted (claim : QueueClaim) (resource : ResourceKey) (owner : Uuid) (now : String)
    (db : Db) : Except ReliabilityError Unit × Db :=
  Tx.commit .error (do
    let lease ← Tx.read fun db => (db.executionLeases.get resource).filter fun l =>
      l.bound claim.task_id owner claim.owner_fence && l.liveAt now
    Tx.require lease.isSome .workflowConflict
    let n ← Tx.update Db.agentWorkQueueL
      (fun q => decide (q.queue_id = claim.queue_id ∧ q.task_id = claim.task_id ∧
        q.state = .claimed ∧ q.send_started = false ∧ q.revision = claim.revision ∧
        q.runtime_owner = some owner ∧ q.owner_fence = some claim.owner_fence))
      (WorkQueueRow.started now)
    Tx.require (n = 1) .workflowConflict
    pure (.ok ())) db

/-- `TaskLifecycle::claim_queue`; `picked` is the lease that the join of queue and leases
yields, `expires` the end that the call gives it. -/
def claimQueue (task_id : TaskId) (picked : ResourceKey) (now expires : String) (db : Db) :
    Except DispatchError (Option QueueLease) × Db :=
  Tx.commit .error (do
    let lease ← Tx.read fun db => (db.executionLeases.get picked).filter fun l =>
      decide (l.task_id = task_id) && l.liveAt now
    let row ← Tx.read fun db => db.oldest fun q =>
      decide (q.task_id = task_id ∧ q.state = .queued ∧ q.send_started = false)
    match lease, row with
    | some lease, some row => do
      let refreshed ← Tx.update Db.executionLeasesL
        (fun l => decide (l.resource_key = picked) &&
          l.bound task_id lease.owner_token lease.fence && l.liveAt now)
        (fun l => { l with heartbeat_at := now, expires_at := expires })
      Tx.require (refreshed = 1) (runtimeDispatchError "queue lease expired")
      let n ← Tx.update Db.agentWorkQueueL
        (fun q => decide (q.queue_id = row.queue_id ∧ q.state = .queued ∧
          q.revision = row.revision ∧ q.send_started = false))
        (WorkQueueRow.claimedBy lease.owner_token lease.fence now)
      Tx.require (n = 1) (runtimeDispatchError "queue claim conflict")
      pure (.ok (some ⟨picked, lease.owner_token, lease.fence, lease.expires_at⟩))
    | _, _ => pure (.ok none)) db

/-- `TaskLifecycle::mark_queue_send_started`. -/
def markQueueSendStarted (task_id : TaskId) (lease : QueueLease) (now : String)
    (db : Db) : Except DispatchError Unit × Db :=
  Tx.commit .error (do
    let live ← Tx.read fun db => (db.executionLeases.get lease.resource_key).any fun l =>
      l.bound task_id lease.runtime_owner lease.owner_fence && l.liveAt now
    let n ← Tx.update Db.agentWorkQueueL
      (fun q => decide (q.task_id = task_id ∧ q.state = .claimed ∧ q.send_started = false ∧
        q.runtime_owner = some lease.runtime_owner ∧
        q.owner_fence = some lease.owner_fence) && live)
      (WorkQueueRow.started now)
    Tx.require (n = 1) (runtimeDispatchError "queue send-start fenced")
    pure (.ok ())) db

/-- `TaskLifecycle::renew_queue_lease`. -/
def renewQueueLease (task_id : TaskId) (lease : QueueLease) (now expires : String)
    (db : Db) : Except DispatchError Unit × Db :=
  Tx.commit .error (do
    let n ← Tx.update Db.executionLeasesL
      (fun l => decide (l.resource_key = lease.resource_key) &&
        l.bound task_id lease.runtime_owner lease.owner_fence && l.liveAt now)
      (fun l => { l with heartbeat_at := now, expires_at := expires })
    Tx.require (n = 1) (runtimeDispatchError "queue lease renewal fenced")
    pure (.ok ())) db

/-! ### Pause -/

/-- `ReliabilityStore::pause_queue`. -/
def pauseQueue (queue_id : Uuid) (revision : Nat) (owner : Uuid) (fence : Nat) (now : String)
    (db : Db) : Except ReliabilityError Unit × Db :=
  Tx.commit .error (do
    let n ← Tx.update Db.agentWorkQueueL
      (fun q => decide (q.queue_id = queue_id ∧ q.revision = revision ∧
        (q.state = .queued ∨ q.state = .claimed ∨ q.state = .running) ∧
        q.send_started = false ∧ q.runtime_owner = some owner ∧ q.owner_fence = some fence))
      (WorkQueueRow.paused now)
    Tx.require (n = 1) .workflowConflict
    pure (.ok ())) db

/-- `ReliabilityStore::pause_task_queued`. -/
def pauseTaskQueued (task_id : TaskId) (now : String) (db : Db) : Nat × Db :=
  let p := fun q : WorkQueueRow => decide (q.task_id = task_id ∧ q.state = .queued ∧
    q.send_started = false ∧ q.runtime_owner = none ∧ q.owner_fence = none)
  (db.agentWorkQueue.affected p,
    { db with agentWorkQueue := db.agentWorkQueue.updateWhere p (WorkQueueRow.paused now) })

/-- `ReliabilityStore::pause_task_after_reap`. -/
def pauseTaskAfterReap (task_id : TaskId) (resource : ResourceKey) (owner : Uuid) (fence : Nat)
    (now : String) (db : Db) : Except ReliabilityError PauseOutcome × Db :=
  Tx.commit .error (do
    let row ← Tx.read fun db => db.oldest fun q =>
      decide (q.task_id = task_id ∧
        (q.state = .queued ∨ q.state = .claimed ∨ q.state = .running))
    match row with
    | none => pure (.ok .absent)
    | some row =>
      if row.state = .queued then do
        let _ ← Tx.update Db.agentWorkQueueL
          (fun q => decide (q.queue_id = row.queue_id ∧ q.revision = row.revision ∧
            q.state = .queued ∧ q.send_started = false))
          (WorkQueueRow.paused now)
        pure (.ok .paused)
      else do
        Tx.require (row.runtime_owner = some owner ∧ row.owner_fence = some fence)
          .workflowConflict
        let lease ← Tx.read fun db => (db.executionLeases.get resource).filter
          (LeaseRow.bound task_id owner fence)
        let lease ← Tx.orElse lease .workflowConflict
        if lease.liveAt now then do
          let _ ← Tx.update Db.agentWorkQueueL
            (fun q => decide (q.queue_id = row.queue_id ∧ q.revision = row.revision))
            (WorkQueueRow.suspected now)
          pure (.ok .recoveryNeeded)
        else do
          let n ← Tx.update Db.agentWorkQueueL
            (fun q => decide (q.queue_id = row.queue_id ∧ q.revision = row.revision ∧
              q.runtime_owner = some owner ∧ q.owner_fence = some fence ∧
              (q.state = .claimed ∨ q.state = .running)))
            (WorkQueueRow.paused now)
          Tx.require (n = 1) .workflowConflict
          pure (.ok .paused)) db

/-- `ReliabilityStore::mark_pause_recovery_needed`. -/
def markPauseRecoveryNeeded (task_id : TaskId) (now : String) (db : Db) : PauseOutcome × Db :=
  let p := fun q : WorkQueueRow => decide (q.task_id = task_id ∧
    (q.state = .claimed ∨ q.state = .running) ∧ q.send_started = true)
  (if db.agentWorkQueue.affected p = 1 then .recoveryNeeded else .absent,
    { db with agentWorkQueue := db.agentWorkQueue.updateWhere p (WorkQueueRow.suspected now) })

/-! ### Back into the queue -/

/-- The row goes to the end of the queue of its target; sequence numbers are unique there. -/
def requeueRow (queue_id : Uuid) (revision : Nat) (target : EndpointId) (owner : Option Uuid)
    (fence : Option Nat) (now : String) : Tx Db ReliabilityError Unit := do
  let sequence ← takeSequence target now
  let taken ← Tx.read fun db => db.agentWorkQueue.rows.any fun q =>
    decide (q.target_endpoint_id = target ∧ q.sequence = sequence ∧ q.queue_id ≠ queue_id)
  Tx.require (!taken) (.sql .constraint)
  let n ← Tx.update Db.agentWorkQueueL
    (fun q => decide (q.queue_id = queue_id ∧ q.revision = revision ∧ q.state = .paused) &&
      q.ownedOrFree owner fence)
    (WorkQueueRow.requeued sequence now)
  Tx.require (n = 1) .workflowConflict

/-- The rows of a task, one after the other. -/
def requeueRows (now : String) : List WorkQueueRow → Tx Db ReliabilityError Unit
  | [] => pure ()
  | q :: rest => do
    requeueRow q.queue_id q.revision q.target_endpoint_id q.runtime_owner q.owner_fence now
    requeueRows now rest

/-- `ReliabilityStore::resume_task`. -/
def resumeTask (task_id : TaskId) (now : String) (db : Db) : Except ReliabilityError Nat × Db :=
  Tx.commit .error (do
    let rows ← Tx.read fun db => (db.agentWorkQueue.rows.filter fun q =>
      decide (q.task_id = task_id ∧ q.state = .paused)).mergeSort
        fun a b => decide (a.sequence ≤ b.sequence)
    requeueRows now rows
    pure (.ok rows.length)) db

/-- `ReliabilityStore::resume_queue`. -/
def resumeQueue (queue_id : Uuid) (revision : Nat) (owner : Uuid) (fence : Nat) (now : String)
    (db : Db) : Except ReliabilityError Unit × Db :=
  Tx.commit .error (do
    let row ← Tx.read fun db => (db.agentWorkQueue.get queue_id).filter fun q =>
      decide (q.revision = revision ∧ q.state = .paused) &&
        q.ownedOrFree (some owner) (some fence)
    let row ← Tx.orElse row (.sql .rowNotFound)
    requeueRow queue_id revision row.target_endpoint_id (some owner) (some fence) now
    pure (.ok ())) db

/-- No live lease holds the row. -/
def Db.orphaned (db : Db) (now : String) (q : WorkQueueRow) : Bool :=
  db.executionLeases.rows.all fun l =>
    !(decide (l.task_id = q.task_id ∧ q.runtime_owner = some l.owner_token ∧
      q.owner_fence = some l.fence) && l.liveAt now)

/-- `ReliabilityStore::recover_queue`. -/
def recoverQueue (queue_id : Uuid) (revision : Nat) (now : String) (db : Db) :
    Except ReliabilityError Unit × Db :=
  Tx.commit .error (do
    let orphaned ← Tx.read fun db => db.orphaned now
    let n ← Tx.update Db.agentWorkQueueL
      (fun q => decide (q.queue_id = queue_id ∧ q.revision = revision ∧
        (q.state = .claimed ∨ q.state = .running)) && orphaned q)
      (WorkQueueRow.recovered now)
    Tx.require (n = 1) .workflowConflict
    pure (.ok ())) db

/-! ### The queue as a system -/

/-- One call that writes the queue. -/
inductive QueueCall where
  | reserveQueue (queue_id : Uuid) (task_id : TaskId) (delivery_id : DeliveryId)
      (target : EndpointId) (room_id : String) (thread_root : Option String)
      (sender : EndpointId) (idempotency_key body_hash : String) (capacity : Int) (now : String)
  | admitQueuedWorkflow (input : WorkflowAdmission) (event_id : EventId) (queue_id : Uuid)
      (room_id : String) (thread_root : Option String) (capacity : Int)
  | claimNext (target : EndpointId) (resource : ResourceKey) (owner : Uuid) (fence : Nat)
      (now : String)
  | claimQueue (task_id : TaskId) (picked : ResourceKey) (now expires : String)
  | markSendStarted (claim : QueueClaim) (resource : ResourceKey) (owner : Uuid) (now : String)
  | markQueueSendStarted (task_id : TaskId) (lease : QueueLease) (now : String)
  | renewQueueLease (task_id : TaskId) (lease : QueueLease) (now expires : String)
  | pauseQueue (queue_id : Uuid) (revision : Nat) (owner : Uuid) (fence : Nat) (now : String)
  | pauseTaskQueued (task_id : TaskId) (now : String)
  | pauseTaskAfterReap (task_id : TaskId) (resource : ResourceKey) (owner : Uuid) (fence : Nat)
      (now : String)
  | markPauseRecoveryNeeded (task_id : TaskId) (now : String)
  | resumeTask (task_id : TaskId) (now : String)
  | resumeQueue (queue_id : Uuid) (revision : Nat) (owner : Uuid) (fence : Nat) (now : String)
  | recoverQueue (queue_id : Uuid) (revision : Nat) (now : String)

/-- The store after one call of the queue. -/
def queueStep [Externals] (db : Db) : QueueCall → Db
  | .reserveQueue queue_id task_id delivery_id target room_id thread_root sender idempotency_key
      body_hash capacity now =>
    (reserveQueue queue_id task_id delivery_id target room_id thread_root sender idempotency_key
      body_hash capacity now db).2
  | .admitQueuedWorkflow input event_id queue_id room_id thread_root capacity =>
    (admitQueuedWorkflow input event_id queue_id room_id thread_root capacity db).2
  | .claimNext target resource owner fence now =>
    (claimNext target resource owner fence now db).2
  | .claimQueue task_id picked now expires => (claimQueue task_id picked now expires db).2
  | .markSendStarted claim resource owner now => (markSendStarted claim resource owner now db).2
  | .markQueueSendStarted task_id lease now => (markQueueSendStarted task_id lease now db).2
  | .renewQueueLease task_id lease now expires =>
    (renewQueueLease task_id lease now expires db).2
  | .pauseQueue queue_id revision owner fence now =>
    (pauseQueue queue_id revision owner fence now db).2
  | .pauseTaskQueued task_id now => (pauseTaskQueued task_id now db).2
  | .pauseTaskAfterReap task_id resource owner fence now =>
    (pauseTaskAfterReap task_id resource owner fence now db).2
  | .markPauseRecoveryNeeded task_id now => (markPauseRecoveryNeeded task_id now db).2
  | .resumeTask task_id now => (resumeTask task_id now db).2
  | .resumeQueue queue_id revision owner fence now =>
    (resumeQueue queue_id revision owner fence now db).2
  | .recoverQueue queue_id revision now => (recoverQueue queue_id revision now db).2

/-- The task that a call brings into the queue. -/
def QueueCall.entered : QueueCall → Option TaskId
  | .reserveQueue _ task_id _ _ _ _ _ _ _ _ _ => some task_id
  | .admitQueuedWorkflow input _ _ _ _ _ => some input.task_id
  | _ => none

/-! ### Moves of a row -/

theorem QueueState.active_of_taken {state : QueueState}
    (h : state = .queued ∨ state = .claimed ∨ state = .running) : state.active = true := by
  rcases h with rfl | rfl | rfl <;> rfl

/-- What one call may do to a row. -/
inductive QueueMove (db : Db) (call : QueueCall) (q : WorkQueueRow) : WorkQueueRow → Prop where
  | claimed (owner : Uuid) (fence : Nat) (now : String) (hstate : q.state = .queued) :
      QueueMove db call q (q.claimedBy owner fence now)
  | started (now : String) (hstate : q.state = .claimed) (hunsent : q.send_started = false) :
      QueueMove db call q (q.started now)
  | paused (now : String) (hactive : q.state.active = true) (hunsent : q.send_started = false) :
      QueueMove db call q (q.paused now)
  /-- **The holder of the row is gone**: its lease is there and not live. -/
  | reaped (resource : ResourceKey) (owner : Uuid) (fence : Nat) (now : String) (l : LeaseRow)
      (hcall : call = .pauseTaskAfterReap q.task_id resource owner fence now)
      (hactive : q.state.active = true) (howner : q.runtime_owner = some owner)
      (hfence : q.owner_fence = some fence)
      (hl : db.executionLeases.get resource = some l)
      (hbound : l.bound q.task_id owner fence = true) (hdead : l.liveAt now = false) :
      QueueMove db call q (q.paused now)
  | suspected (now : String) (hactive : q.state.active = true) :
      QueueMove db call q (q.suspected now)
  | requeued (sequence : Nat) (now : String) (hstate : q.state = .paused) :
      QueueMove db call q (q.requeued sequence now)
  | recovered (now : String) (hactive : q.state.active = true) :
      QueueMove db call q (q.recovered now)

/-- A row as it enters the queue. -/
structure FreshItem (q : WorkQueueRow) : Prop where
  state : q.state = .queued
  unsent : q.send_started = false
  owner : q.runtime_owner = none
  fence : q.owner_fence = none

/-- The sequence numbers of a target are different, and below its counter. -/
structure SequenceInv (db : Db) : Prop where
  below : ∀ q ∈ db.agentWorkQueue.rows, ∃ c,
    db.agentQueueCounters.get q.target_endpoint_id = some c ∧ q.sequence < c.next_sequence
  distinct : ∀ q ∈ db.agentWorkQueue.rows, ∀ q' ∈ db.agentWorkQueue.rows,
    q.target_endpoint_id = q'.target_endpoint_id → q.sequence = q'.sequence → q = q'

/-- What one call does to the queue. -/
structure QueueStep (db : Db) (call : QueueCall) (db' : Db) : Prop where
  rows : ∀ q' ∈ db'.agentWorkQueue.rows, q' ∈ db.agentWorkQueue.rows ∨
    (∃ q ∈ db.agentWorkQueue.rows, q.queue_id = q'.queue_id ∧ QueueMove db call q q') ∨
    ((∀ q ∈ db.agentWorkQueue.rows, q.queue_id ≠ q'.queue_id) ∧ FreshItem q' ∧
      call.entered = some q'.task_id)
  kept : ∀ q ∈ db.agentWorkQueue.rows, ∃ q' ∈ db'.agentWorkQueue.rows, q'.queue_id = q.queue_id
  sequence : SequenceInv db → SequenceInv db'

/-- A call that leaves the queue alone. -/
theorem QueueStep.of_same {db db' : Db} {call : QueueCall}
    (hrows : db'.agentWorkQueue = db.agentWorkQueue)
    (hcounters : ∀ target c, db.agentQueueCounters.get target = some c →
      ∃ c', db'.agentQueueCounters.get target = some c' ∧ c'.next_sequence = c.next_sequence) :
    QueueStep db call db' where
  rows := by
    intro q' hq'
    rw [hrows] at hq'
    exact Or.inl hq'
  kept := by
    intro q hq
    exact ⟨q, by rw [hrows]; exact hq, rfl⟩
  sequence := by
    intro h
    refine ⟨?_, by rw [hrows]; exact h.distinct⟩
    intro q hq
    rw [hrows] at hq
    obtain ⟨c, hc, hlt⟩ := h.below q hq
    obtain ⟨c', hc', hnext⟩ := hcounters _ c hc
    exact ⟨c', hc', hnext ▸ hlt⟩

theorem QueueStep.refl (db : Db) (call : QueueCall) : QueueStep db call db :=
  .of_same rfl fun _ c hc => ⟨c, hc, rfl⟩

/-- Places in the queue do not move with an update that keeps them. -/
theorem SequenceInv.updateWhere {db db' : Db} {p : WorkQueueRow → Bool}
    {f : WorkQueueRow → WorkQueueRow} {hf : ∀ q, (f q).queue_id = q.queue_id}
    (h : SequenceInv db) (hrows : db'.agentWorkQueue = db.agentWorkQueue.updateWhere p f hf)
    (hcounters : db'.agentQueueCounters = db.agentQueueCounters)
    (hplace : ∀ q, (f q).target_endpoint_id = q.target_endpoint_id ∧
      (f q).sequence = q.sequence) : SequenceInv db' := by
  have hold : ∀ q' ∈ db'.agentWorkQueue.rows, ∃ q ∈ db.agentWorkQueue.rows,
      q'.queue_id = q.queue_id ∧ q'.target_endpoint_id = q.target_endpoint_id ∧
        q'.sequence = q.sequence := by
    intro q' hq'
    rw [hrows] at hq'
    rcases Table.mem_updateWhere.1 hq' with ⟨q, hq, -, rfl⟩ | ⟨hq, -⟩
    · exact ⟨q, hq, hf q, hplace q⟩
    · exact ⟨q', hq, rfl, rfl, rfl⟩
  refine ⟨?_, ?_⟩
  · intro q' hq'
    obtain ⟨q, hq, -, htarget, hseq⟩ := hold q' hq'
    obtain ⟨c, hc, hlt⟩ := h.below q hq
    exact ⟨c, by rw [hcounters, htarget]; exact hc, by rw [hseq]; exact hlt⟩
  · intro x hx y hy htarget hseq
    obtain ⟨qx, hqx, hidx, htx, hsx⟩ := hold x hx
    obtain ⟨qy, hqy, hidy, hty, hsy⟩ := hold y hy
    have heq : qx = qy := h.distinct qx hqx qy hqy (by rw [← htx, ← hty, htarget])
      (by rw [← hsx, ← hsy, hseq])
    refine db'.agentWorkQueue.eq_of_key_eq hx hy ?_
    rw [hidx, hidy, heq]

/-- One statement that moves rows where they are. -/
theorem QueueStep.of_update {db db' : Db} {call : QueueCall} {p : WorkQueueRow → Bool}
    {f : WorkQueueRow → WorkQueueRow} (hf : ∀ q, (f q).queue_id = q.queue_id)
    (hrows : db'.agentWorkQueue = db.agentWorkQueue.updateWhere p f hf)
    (hcounters : db'.agentQueueCounters = db.agentQueueCounters)
    (hplace : ∀ q, (f q).target_endpoint_id = q.target_endpoint_id ∧
      (f q).sequence = q.sequence)
    (hmove : ∀ q ∈ db.agentWorkQueue.rows, p q = true → QueueMove db call q (f q)) :
    QueueStep db call db' where
  rows := by
    intro q' hq'
    rw [hrows] at hq'
    rcases Table.mem_updateWhere.1 hq' with ⟨q, hq, hp, rfl⟩ | ⟨hq, -⟩
    · exact Or.inr (Or.inl ⟨q, hq, (hf q).symm, hmove q hq hp⟩)
    · exact Or.inl hq
  kept := by
    intro q hq
    rw [hrows]
    exact Table.exists_updateWhere hf hq
  sequence := fun h => h.updateWhere hrows hcounters hplace

theorem foldl_oldest_mem (qs : List WorkQueueRow) (best : Option WorkQueueRow) {q : WorkQueueRow}
    (h : qs.foldl
      (fun best q =>
        match best with
        | none => some q
        | some b => if q.sequence < b.sequence then some q else some b) best = some q) :
    q ∈ qs ∨ best = some q := by
  induction qs generalizing best with
  | nil => exact Or.inr h
  | cons x qs ih =>
    rcases ih _ h with hq | hbest
    · exact Or.inl (List.mem_cons_of_mem x hq)
    · cases best with
      | none =>
        cases hbest
        exact Or.inl List.mem_cons_self
      | some b =>
        dsimp only at hbest
        split at hbest
        · cases hbest
          exact Or.inl List.mem_cons_self
        · exact Or.inr hbest

theorem Db.oldest_mem {db : Db} {p : WorkQueueRow → Bool} {q : WorkQueueRow}
    (h : db.oldest p = some q) : q ∈ db.agentWorkQueue.rows ∧ p q = true := by
  rcases foldl_oldest_mem _ none h with hq | hnone
  · exact List.mem_filter.mp hq
  · cases hnone

section

variable {db db' : Db}

theorem claimNext_queueStep {target : EndpointId} {resource : ResourceKey} {owner : Uuid}
    {fence : Nat} {now : String} {r : Except ReliabilityError (Option QueueClaim)}
    (h : claimNext target resource owner fence now db = (r, db')) :
    QueueStep db (.claimNext target resource owner fence now) db' := by
  rcases Tx.commit_cases h with hok | ⟨rfl, -⟩
  · simp only [Tx.bind_ok, Tx.read_ok, Tx.orElse_ok] at hok
    obtain ⟨_, _, ⟨-, rfl⟩, l, _, ⟨-, rfl⟩, row, _, ⟨-, rfl⟩, hok⟩ := hok
    cases row with
    | none =>
      obtain ⟨-, rfl⟩ := Tx.pure_ok.1 hok
      exact .refl db _
    | some row =>
      simp only [Tx.bind_ok, Tx.require_ok, Tx.pure_ok] at hok
      obtain ⟨_, _, ⟨-, rfl⟩, _, _, ⟨-, rfl⟩, _, _, ⟨-, rfl⟩, -, rfl⟩ := hok
      refine .of_update (by intro q; rfl) rfl rfl (fun _ => ⟨rfl, rfl⟩) ?_
      intro q _ hp
      exact .claimed owner fence now (of_decide_eq_true hp).2.1
  · exact .refl _ _

theorem claimQueue_queueStep {task_id : TaskId} {picked : ResourceKey} {now expires : String}
    {r : Except DispatchError (Option QueueLease)}
    (h : claimQueue task_id picked now expires db = (r, db')) :
    QueueStep db (.claimQueue task_id picked now expires) db' := by
  rcases Tx.commit_cases h with hok | ⟨rfl, -⟩
  · simp only [Tx.bind_ok, Tx.read_ok] at hok
    obtain ⟨lease, _, ⟨-, rfl⟩, row, _, ⟨-, rfl⟩, hok⟩ := hok
    cases lease with
    | none =>
      obtain ⟨-, rfl⟩ := Tx.pure_ok.1 hok
      exact .refl db _
    | some lease =>
      cases row with
      | none =>
        obtain ⟨-, rfl⟩ := Tx.pure_ok.1 hok
        exact .refl db _
      | some row =>
        simp only [Tx.bind_ok, Tx.require_ok, Tx.update_ok, Tx.pure_ok] at hok
        obtain ⟨_, _, ⟨-, rfl⟩, _, _, ⟨-, rfl⟩, _, _, ⟨-, rfl⟩, _, _, ⟨-, rfl⟩, -, rfl⟩ := hok
        refine .of_update (by intro q; rfl) rfl rfl (fun _ => ⟨rfl, rfl⟩) ?_
        intro q _ hp
        exact .claimed _ _ now (of_decide_eq_true hp).2.1
  · exact .refl _ _

theorem markSendStarted_queueStep {claim : QueueClaim} {resource : ResourceKey} {owner : Uuid}
    {now : String} {r : Except ReliabilityError Unit}
    (h : markSendStarted claim resource owner now db = (r, db')) :
    QueueStep db (.markSendStarted claim resource owner now) db' := by
  rcases Tx.commit_cases h with hok | ⟨rfl, -⟩
  · simp only [Tx.bind_ok, Tx.read_ok, Tx.require_ok, Tx.pure_ok] at hok
    obtain ⟨_, _, ⟨-, rfl⟩, _, _, ⟨-, rfl⟩, _, _, ⟨-, rfl⟩, _, _, ⟨-, rfl⟩, -, rfl⟩ := hok
    refine .of_update (by intro q; rfl) rfl rfl (fun _ => ⟨rfl, rfl⟩) ?_
    intro q _ hp
    have hp := of_decide_eq_true hp
    exact .started now hp.2.2.1 hp.2.2.2.1
  · exact .refl _ _

theorem markQueueSendStarted_queueStep {task_id : TaskId} {lease : QueueLease}
    {now : String} {r : Except DispatchError Unit}
    (h : markQueueSendStarted task_id lease now db = (r, db')) :
    QueueStep db (.markQueueSendStarted task_id lease now) db' := by
  rcases Tx.commit_cases h with hok | ⟨rfl, -⟩
  · simp only [Tx.bind_ok, Tx.read_ok, Tx.require_ok, Tx.pure_ok] at hok
    obtain ⟨_, _, ⟨-, rfl⟩, _, _, ⟨-, rfl⟩, _, _, ⟨-, rfl⟩, -, rfl⟩ := hok
    refine .of_update (by intro q; rfl) rfl rfl (fun _ => ⟨rfl, rfl⟩) ?_
    intro q _ hp
    have hp := of_decide_eq_true (Bool.and_eq_true_iff.mp hp).1
    exact .started now hp.2.1 hp.2.2.1
  · exact .refl _ _

theorem renewQueueLease_queueStep {task_id : TaskId} {lease : QueueLease}
    {now expires : String} {r : Except DispatchError Unit}
    (h : renewQueueLease task_id lease now expires db = (r, db')) :
    QueueStep db (.renewQueueLease task_id lease now expires) db' := by
  rcases Tx.commit_cases h with hok | ⟨rfl, -⟩
  · simp only [Tx.bind_ok, Tx.require_ok, Tx.update_ok, Tx.pure_ok] at hok
    obtain ⟨_, _, ⟨-, rfl⟩, _, _, ⟨-, rfl⟩, -, rfl⟩ := hok
    exact .of_same rfl fun _ c hc => ⟨c, hc, rfl⟩
  · exact .refl _ _

theorem pauseQueue_queueStep {queue_id : Uuid} {revision : Nat} {owner : Uuid} {fence : Nat}
    {now : String} {r : Except ReliabilityError Unit}
    (h : pauseQueue queue_id revision owner fence now db = (r, db')) :
    QueueStep db (.pauseQueue queue_id revision owner fence now) db' := by
  rcases Tx.commit_cases h with hok | ⟨rfl, -⟩
  · simp only [Tx.bind_ok, Tx.require_ok, Tx.pure_ok] at hok
    obtain ⟨_, _, ⟨-, rfl⟩, _, _, ⟨-, rfl⟩, -, rfl⟩ := hok
    refine .of_update (by intro q; rfl) rfl rfl (fun _ => ⟨rfl, rfl⟩) ?_
    intro q _ hp
    have hp := of_decide_eq_true hp
    exact .paused now (QueueState.active_of_taken hp.2.2.1) hp.2.2.2.1
  · exact .refl _ _

theorem pauseTaskQueued_queueStep (task_id : TaskId) (now : String) (db : Db) :
    QueueStep db (.pauseTaskQueued task_id now) (pauseTaskQueued task_id now db).2 := by
  refine .of_update (by intro q; rfl) rfl rfl (fun _ => ⟨rfl, rfl⟩) ?_
  intro q _ hp
  have hp := of_decide_eq_true hp
  exact .paused now (QueueState.active_of_taken (Or.inl hp.2.1)) hp.2.2.1

theorem markPauseRecoveryNeeded_queueStep (task_id : TaskId) (now : String) (db : Db) :
    QueueStep db (.markPauseRecoveryNeeded task_id now)
      (markPauseRecoveryNeeded task_id now db).2 := by
  refine .of_update (by intro q; rfl) rfl rfl (fun _ => ⟨rfl, rfl⟩) ?_
  intro q _ hp
  exact .suspected now (QueueState.active_of_taken (Or.inr (of_decide_eq_true hp).2.1))

theorem pauseTaskAfterReap_queueStep {task_id : TaskId} {resource : ResourceKey} {owner : Uuid}
    {fence : Nat} {now : String} {r : Except ReliabilityError PauseOutcome}
    (h : pauseTaskAfterReap task_id resource owner fence now db = (r, db')) :
    QueueStep db (.pauseTaskAfterReap task_id resource owner fence now) db' := by
  rcases Tx.commit_cases h with hok | ⟨rfl, -⟩
  · simp only [Tx.bind_ok, Tx.read_ok] at hok
    obtain ⟨row, _, ⟨hrow, rfl⟩, hok⟩ := hok
    cases row with
    | none =>
      obtain ⟨-, rfl⟩ := Tx.pure_ok.1 hok
      exact .refl db _
    | some row =>
      obtain ⟨hmem, hpicked⟩ := Db.oldest_mem hrow
      have htask : row.task_id = task_id := (of_decide_eq_true hpicked).1
      have hsame : ∀ q ∈ db.agentWorkQueue.rows, q.queue_id = row.queue_id → q = row :=
        fun q hq hid => db.agentWorkQueue.eq_of_key_eq hq hmem hid
      simp only [Tx.ite_ok, Tx.bind_ok, Tx.pure_ok, Tx.require_ok, Tx.read_ok,
        Tx.orElse_ok] at hok
      rcases hok with ⟨-, _, _, ⟨-, rfl⟩, -, rfl⟩ | ⟨-, _, _, ⟨howner, rfl⟩, _, _, ⟨rfl, rfl⟩, l, _,
        ⟨hl, rfl⟩, hok⟩
      · refine .of_update (by intro q; rfl) rfl rfl (fun _ => ⟨rfl, rfl⟩) ?_
        intro q _ hp
        have hp := of_decide_eq_true hp
        exact .paused now (QueueState.active_of_taken (Or.inl hp.2.2.1)) hp.2.2.2
      · obtain ⟨hget, hbound⟩ := Option.filter_eq_some_iff.mp hl
        rcases hok with ⟨-, _, _, ⟨-, rfl⟩, -, rfl⟩ | ⟨hdead, _, _, ⟨-, rfl⟩, _, _, ⟨-, rfl⟩, -, rfl⟩
        · refine .of_update (by intro q; rfl) rfl rfl (fun _ => ⟨rfl, rfl⟩) ?_
          intro q hq hp
          refine .suspected now ?_
          rw [hsame q hq (of_decide_eq_true hp).1]
          exact QueueState.active_of_taken (of_decide_eq_true hpicked).2
        · refine .of_update (by intro q; rfl) rfl rfl (fun _ => ⟨rfl, rfl⟩) ?_
          intro q hq hp
          have hp := of_decide_eq_true hp
          have hqrow := hsame q hq hp.1
          have htaskq : q.task_id = task_id := by rw [hqrow, htask]
          refine .reaped resource owner fence now l (by rw [htaskq])
            (QueueState.active_of_taken (Or.inr hp.2.2.2.2)) hp.2.2.1 hp.2.2.2.1 hget ?_
            (by simpa using hdead)
          rw [htaskq]
          exact hbound
  · exact .refl _ _

theorem recoverQueue_queueStep {queue_id : Uuid} {revision : Nat} {now : String}
    {r : Except ReliabilityError Unit} (h : recoverQueue queue_id revision now db = (r, db')) :
    QueueStep db (.recoverQueue queue_id revision now) db' := by
  rcases Tx.commit_cases h with hok | ⟨rfl, -⟩
  · simp only [Tx.bind_ok, Tx.read_ok, Tx.require_ok, Tx.pure_ok] at hok
    obtain ⟨_, _, ⟨-, rfl⟩, _, _, ⟨-, rfl⟩, _, _, ⟨-, rfl⟩, -, rfl⟩ := hok
    refine .of_update (by intro q; rfl) rfl rfl (fun _ => ⟨rfl, rfl⟩) ?_
    intro q _ hp
    have hp := of_decide_eq_true (Bool.and_eq_true_iff.mp hp).1
    exact .recovered now (QueueState.active_of_taken (Or.inr hp.2.2))
  · exact .refl _ _

end

/-! ### Places in the queue -/

section

variable {s s' : Db} {target : EndpointId} {now : String}

theorem takeSequence_ok {n : Nat} (h : takeSequence target now s = .ok (n, s')) :
    ∃ c t, s.agentQueueCounters.get target = some c ∧ n = c.next_sequence ∧
      s' = { s with agentQueueCounters := t } ∧
      s.agentQueueCounters.Puts target
        { c with next_sequence := c.next_sequence + 1, updated_at := now } t := by
  simp only [takeSequence, Tx.bind_ok, Tx.read_ok, Tx.orElse_ok, Tx.update_ok, Tx.pure_ok] at h
  obtain ⟨_, _, ⟨rfl, rfl⟩, c, _, ⟨hc, rfl⟩, _, _, ⟨-, rfl⟩, rfl, rfl⟩ := h
  refine ⟨c, _, hc, rfl, rfl, ?_⟩
  exact Table.puts_updateWhere (fun r hp => of_decide_eq_true hp) hc
    (decide_eq_true (Table.key_of_get hc))

/-- An upsert keeps what the counters have given out. -/
theorem upsertCounter_ok {capacity : Int} {u : Unit}
    (h : upsertCounter target capacity now s = .ok (u, s')) :
    ∃ t, s' = { s with agentQueueCounters := t } ∧
      ∀ k c, s.agentQueueCounters.get k = some c →
        ∃ c', t.get k = some c' ∧ c'.next_sequence = c.next_sequence := by
  have hupdate : ∀ t : Table QueueCounterRow.target_endpoint_id, ∀ k c, t.get k = some c →
      ∃ c', (t.updateWhere (fun c => decide (c.target_endpoint_id = target))
        (fun c => { c with capacity := capacity, updated_at := now }) (fun _ => rfl)).get k =
          some c' ∧ c'.next_sequence = c.next_sequence := by
    intro t k c hc
    rw [Table.get_updateWhere, hc]
    refine ⟨_, rfl, ?_⟩
    by_cases hk : c.target_endpoint_id = target <;> simp [hk]
  simp only [upsertCounter, Tx.bind_ok, Tx.require_ok, Tx.insertOrIgnore_ok, Tx.update_ok,
    Tx.pure_ok] at h
  obtain ⟨_, _, ⟨-, rfl⟩, _, s₁, hins, _, _, ⟨-, rfl⟩, -, rfl⟩ := h
  rcases hins with ⟨-, t, ht, rfl⟩ | ⟨-, -, rfl⟩
  · refine ⟨_, rfl, ?_⟩
    intro k c hc
    refine hupdate t k c ?_
    obtain ⟨hfree, hputs⟩ := Table.insert_puts ht
    rw [hputs k]
    by_cases hk : k = target
    · subst hk
      rw [show s.agentQueueCounters.get k = none from hfree] at hc
      cases hc
    · rw [if_neg hk]
      exact hc
  · exact ⟨_, rfl, fun k c hc => hupdate s.agentQueueCounters k c hc⟩

/-- `nextSequence` is an upsert followed by a draw. -/
theorem nextSequence_draws {capacity : Int} {n : Nat}
    (h : nextSequence target capacity now s = .ok (n, s')) :
    ∃ s₁, upsertCounter target capacity now s = .ok ((), s₁) ∧
      takeSequence target now s₁ = .ok (n, s') := by
  simp only [nextSequence, Tx.bind_ok] at h
  obtain ⟨_, s₁, hreq, _, s₂, hins, _, s₃, hupd, hrest⟩ := h
  refine ⟨s₃, ?_, ?_⟩
  · simp only [upsertCounter, Tx.bind_ok]
    exact ⟨_, s₁, hreq, _, s₂, hins, _, s₃, hupd, rfl⟩
  · simp only [takeSequence, Tx.bind_ok]
    exact hrest

/-- One row takes the number that was drawn. -/
theorem SequenceInv.place {c : QueueCounterRow} (queue_id : Uuid) (h : SequenceInv s)
    (hc : s.agentQueueCounters.get target = some c)
    (hputs : s.agentQueueCounters.Puts target
      { c with next_sequence := c.next_sequence + 1, updated_at := now } s'.agentQueueCounters)
    (hrows : ∀ q' ∈ s'.agentWorkQueue.rows, q' ∈ s.agentWorkQueue.rows ∨
      (q'.queue_id = queue_id ∧ q'.target_endpoint_id = target ∧
        q'.sequence = c.next_sequence)) : SequenceInv s' := by
  -- a row that was there is below the number that was drawn
  have hbelow : ∀ q ∈ s.agentWorkQueue.rows, q.target_endpoint_id = target →
      q.sequence < c.next_sequence := by
    intro q hq htarget
    obtain ⟨c', hc', hlt⟩ := h.below q hq
    rw [htarget, hc] at hc'
    cases hc'
    exact hlt
  refine ⟨?_, ?_⟩
  · intro q' hq'
    rw [hputs q'.target_endpoint_id]
    by_cases htarget : q'.target_endpoint_id = target
    · rw [if_pos htarget]
      refine ⟨_, rfl, ?_⟩
      rcases hrows q' hq' with hold | ⟨-, -, hseq⟩
      · exact Nat.lt_succ_of_lt (hbelow q' hold htarget)
      · rw [hseq]
        exact Nat.lt_succ_self _
    · rw [if_neg htarget]
      rcases hrows q' hq' with hold | ⟨-, hnew, -⟩
      · exact h.below q' hold
      · exact absurd hnew htarget
  · intro x hx y hy htarget hseq
    rcases hrows x hx with hx' | ⟨hidx, htx, hsx⟩
    · rcases hrows y hy with hy' | ⟨-, hty, hsy⟩
      · exact h.distinct x hx' y hy' htarget hseq
      · have hlt := hbelow x hx' (htarget.trans hty)
        omega
    · rcases hrows y hy with hy' | ⟨hidy, -, -⟩
      · have hlt := hbelow y hy' (htarget.symm.trans htx)
        omega
      · exact s'.agentWorkQueue.eq_of_key_eq hx hy (hidx.trans hidy.symm)

theorem SequenceInv.counters {t : _} (h : SequenceInv s)
    (hkept : ∀ k c, s.agentQueueCounters.get k = some c →
      ∃ c', Table.get t k = some c' ∧ c'.next_sequence = c.next_sequence) :
    SequenceInv { s with agentQueueCounters := t } := by
  refine ⟨?_, h.distinct⟩
  intro q hq
  obtain ⟨c, hc, hlt⟩ := h.below q hq
  obtain ⟨c', hc', hnext⟩ := hkept _ c hc
  exact ⟨c', hc', hnext ▸ hlt⟩

/-! ### Reservation -/

/-- A new row at the end of the queue. -/
theorem insertQueueRow_step {n : Nat} {row : WorkQueueRow} {s₁ : Db} {u : Unit}
    {call : QueueCall} (hentered : call.entered = some row.task_id) (hfresh : FreshItem row)
    (htarget : row.target_endpoint_id = target) (hseq : row.sequence = n)
    (hdraw : takeSequence target now s = .ok (n, s₁))
    (hins : insertQueueRow row s₁ = .ok (u, s')) : QueueStep s call s' := by
  obtain ⟨c, t, hc, rfl, rfl, hputs⟩ := takeSequence_ok hdraw
  simp only [insertQueueRow, Tx.bind_ok, Tx.read_ok, Tx.require_ok, Tx.insert_ok] at hins
  obtain ⟨_, _, ⟨-, rfl⟩, _, _, ⟨-, rfl⟩, q, hq, rfl⟩ := hins
  refine ⟨?_, ?_, ?_⟩
  · intro q' hq'
    rcases (Table.mem_insert hq).mp hq' with hold | rfl
    · exact Or.inl hold
    · refine Or.inr (Or.inr ⟨?_, hfresh, hentered⟩)
      intro x hx hid
      have hnone := (Table.get_eq_none_iff _ _).mp (Table.insert_puts hq).1
      exact hnone x hx hid
  · intro x hx
    exact ⟨x, (Table.mem_insert hq).mpr (Or.inl hx), rfl⟩
  · intro h
    refine h.place row.queue_id hc hputs ?_
    intro q' hq'
    rcases (Table.mem_insert hq).mp hq' with hold | rfl
    · exact Or.inl hold
    · exact Or.inr ⟨rfl, htarget, hseq⟩

/-- A row sees of the store only the leases. -/
theorem QueueMove.congr {call : QueueCall} {q q' : WorkQueueRow} (h : QueueMove s call q q')
    (hleases : s.executionLeases = s'.executionLeases) : QueueMove s' call q q' := by
  cases h with
  | claimed owner fence now hstate => exact .claimed owner fence now hstate
  | started now hstate hunsent => exact .started now hstate hunsent
  | paused now hactive hunsent => exact .paused now hactive hunsent
  | reaped resource owner fence now l hcall hactive howner hfence hl hbound hdead =>
    exact .reaped resource owner fence now l hcall hactive howner hfence (hleases ▸ hl) hbound
      hdead
  | suspected now hactive => exact .suspected now hactive
  | requeued sequence now hstate => exact .requeued sequence now hstate
  | recovered now hactive => exact .recovered now hactive

/-- What a call does to other tables before it comes to the queue does not matter. -/
theorem QueueStep.congr_left {call : QueueCall} {db : Db} (h : QueueStep s call s')
    (hrows : s.agentWorkQueue = db.agentWorkQueue)
    (hleases : s.executionLeases = db.executionLeases)
    (hsequence : SequenceInv db → SequenceInv s) : QueueStep db call s' where
  rows := by
    intro q' hq'
    rw [← hrows]
    rcases h.rows q' hq' with hold | ⟨q, hq, hid, hmove⟩ | hfresh
    · exact Or.inl hold
    · exact Or.inr (Or.inl ⟨q, hq, hid, hmove.congr hleases⟩)
    · exact Or.inr (Or.inr hfresh)
  kept := by
    rw [← hrows]
    exact h.kept
  sequence := fun hdb => h.sequence (hsequence hdb)

theorem reserveQueue_queueStep {queue_id : Uuid} {task_id : TaskId} {delivery_id : DeliveryId}
    {room_id : String} {thread_root : Option String} {sender : EndpointId}
    {idempotency_key body_hash : String} {capacity : Int} {db db' : Db}
    {r : Except ReliabilityError QueueReservation}
    (h : reserveQueue queue_id task_id delivery_id target room_id thread_root sender
      idempotency_key body_hash capacity now db = (r, db')) :
    QueueStep db (.reserveQueue queue_id task_id delivery_id target room_id thread_root sender
      idempotency_key body_hash capacity now) db' := by
  rcases Tx.commit_cases h with hok | ⟨rfl, -⟩
  · simp only [Tx.bind_ok, Tx.read_ok] at hok
    obtain ⟨_, s₁, hupsert, existing, _, ⟨-, rfl⟩, hok⟩ := hok
    obtain ⟨t, rfl, hkept⟩ := upsertCounter_ok hupsert
    cases existing with
    | some row =>
      obtain ⟨-, rfl⟩ := Tx.pure_ok.1 hok
      exact .of_same rfl hkept
    | none =>
      simp only [Tx.bind_ok, Tx.read_ok, Tx.require_ok, Tx.pure_ok] at hok
      obtain ⟨_, _, ⟨-, rfl⟩, _, _, ⟨-, rfl⟩, n, s₂, hdraw, _, s₃, hins, -, rfl⟩ := hok
      have hstep : QueueStep _ (.reserveQueue queue_id task_id delivery_id target room_id
          thread_root sender idempotency_key body_hash capacity now) s₃ :=
        insertQueueRow_step rfl ⟨rfl, rfl, rfl, rfl⟩ rfl rfl hdraw hins
      exact hstep.congr_left rfl rfl fun hdb => hdb.counters hkept
  · exact .refl _ _

theorem reserveWorkflowQueue_step {input : WorkflowAdmission} {queue_id : Uuid}
    {room_id : String} {thread_root : Option String} {capacity : Int}
    {outcome : ReceiptOutcome} {reservation : QueueReservation} {call : QueueCall}
    (hentered : call.entered = some input.task_id)
    (h : reserveWorkflowQueue input queue_id room_id thread_root capacity outcome s =
      .ok (reservation, s')) : QueueStep s call s' := by
  cases outcome with
  | replay task_id result_code =>
    simp only [reserveWorkflowQueue, Tx.bind_ok, Tx.read_ok, Tx.orElse_ok, Tx.pure_ok] at h
    obtain ⟨_, _, ⟨-, rfl⟩, _, _, ⟨-, rfl⟩, -, rfl⟩ := h
    exact .refl _ _
  | inserted =>
    simp only [reserveWorkflowQueue, Tx.bind_ok, Tx.read_ok, Tx.require_ok, Tx.pure_ok] at h
    obtain ⟨_, _, ⟨-, rfl⟩, _, _, ⟨-, rfl⟩, n, s₁, hseq, _, s₂, hins, -, rfl⟩ := h
    obtain ⟨s₃, hupsert, hdraw⟩ := nextSequence_draws hseq
    obtain ⟨t, rfl, hkept⟩ := upsertCounter_ok hupsert
    have hstep : QueueStep _ call s₂ :=
      insertQueueRow_step hentered ⟨rfl, rfl, rfl, rfl⟩ rfl rfl hdraw hins
    exact hstep.congr_left rfl rfl fun hdb => hdb.counters hkept

theorem admitQueuedWorkflow_queueStep [Externals] {input : WorkflowAdmission}
    {event_id : EventId} {queue_id : Uuid} {room_id : String} {thread_root : Option String}
    {capacity : Int} {db db' : Db} {r : Except ReliabilityError QueueReservation}
    (h : admitQueuedWorkflow input event_id queue_id room_id thread_root capacity db =
      (r, db')) :
    QueueStep db (.admitQueuedWorkflow input event_id queue_id room_id thread_root capacity)
      db' := by
  rcases Tx.commit_cases h with hok | ⟨rfl, -⟩
  · simp only [Tx.bind_ok, Tx.pure_ok] at hok
    obtain ⟨outcome, s₁, htx, reservation, s₂, hqueue, -, rfl⟩ := hok
    obtain ⟨-, t, ev, ad, we, d, e, rfl⟩ := admitWorkflowTx_ok htx
    refine (reserveWorkflowQueue_step rfl hqueue).congr_left rfl rfl ?_
    intro hdb
    exact ⟨hdb.below, hdb.distinct⟩
  · exact .refl _ _

/-! ### Back into the queue -/

/-- Rows that were paused are queued again. -/
structure Requeues (s s' : Db) : Prop where
  rows : ∀ q' ∈ s'.agentWorkQueue.rows, q' ∈ s.agentWorkQueue.rows ∨
    ∃ q ∈ s.agentWorkQueue.rows, q.state = .paused ∧ ∃ n now, q' = q.requeued n now
  kept : ∀ q ∈ s.agentWorkQueue.rows, ∃ q' ∈ s'.agentWorkQueue.rows, q'.queue_id = q.queue_id
  sequence : SequenceInv s → SequenceInv s'

theorem Requeues.refl (s : Db) : Requeues s s :=
  ⟨fun _ hq => Or.inl hq, fun q hq => ⟨q, hq, rfl⟩, fun h => h⟩

theorem Requeues.trans {s₁ : Db} (h : Requeues s s₁) (h' : Requeues s₁ s') : Requeues s s' where
  rows := by
    intro q' hq'
    rcases h'.rows q' hq' with hq | ⟨q, hq, hpaused, n, now, rfl⟩
    · exact h.rows q' hq
    · -- a row that was queued again is not paused
      rcases h.rows q hq with hold | ⟨q₀, -, -, n₀, now₀, rfl⟩
      · exact Or.inr ⟨q, hold, hpaused, n, now, rfl⟩
      · cases hpaused
  kept := by
    intro q hq
    obtain ⟨q₁, hq₁, hid₁⟩ := h.kept q hq
    obtain ⟨q₂, hq₂, hid₂⟩ := h'.kept q₁ hq₁
    exact ⟨q₂, hq₂, hid₂.trans hid₁⟩
  sequence := fun hs => h'.sequence (h.sequence hs)

theorem Requeues.queueStep {call : QueueCall} (h : Requeues s s') : QueueStep s call s' where
  rows := by
    intro q' hq'
    rcases h.rows q' hq' with hold | ⟨q, hq, hpaused, n, now, rfl⟩
    · exact Or.inl hold
    · exact Or.inr (Or.inl ⟨q, hq, rfl, .requeued n now hpaused⟩)
  kept := h.kept
  sequence := h.sequence

/-- The target of the row is the one whose counter was drawn from. -/
theorem requeueRow_requeues {queue_id : Uuid} {revision : Nat} {owner : Option Uuid}
    {fence : Option Nat} {u : Unit}
    (htarget : ∀ q ∈ s.agentWorkQueue.rows, q.queue_id = queue_id →
      q.target_endpoint_id = target)
    (h : requeueRow queue_id revision target owner fence now s = .ok (u, s')) :
    Requeues s s' := by
  simp only [requeueRow, Tx.bind_ok, Tx.read_ok, Tx.require_ok] at h
  obtain ⟨n, s₁, hdraw, _, _, ⟨-, rfl⟩, _, _, ⟨-, rfl⟩, _, s₂, hupd, -, rfl⟩ := h
  obtain ⟨c, t, hc, rfl, rfl, hputs⟩ := takeSequence_ok hdraw
  obtain ⟨-, rfl⟩ := Tx.update_ok.1 hupd
  have hselected : ∀ q : WorkQueueRow, (decide (q.queue_id = queue_id ∧ q.revision = revision ∧
      q.state = .paused) && q.ownedOrFree owner fence) = true →
        q.queue_id = queue_id ∧ q.state = .paused := by
    intro q hp
    have hp := of_decide_eq_true (Bool.and_eq_true_iff.mp hp).1
    exact ⟨hp.1, hp.2.2⟩
  have hrows : ∀ q' ∈ (s.agentWorkQueue.updateWhere (fun q =>
      decide (q.queue_id = queue_id ∧ q.revision = revision ∧ q.state = .paused) &&
        q.ownedOrFree owner fence) (WorkQueueRow.requeued c.next_sequence now)
        (fun _ => rfl)).rows,
      q' ∈ s.agentWorkQueue.rows ∨ ∃ q ∈ s.agentWorkQueue.rows, q.queue_id = queue_id ∧
        q.state = .paused ∧ q' = q.requeued c.next_sequence now := by
    intro q' hq'
    rcases Table.mem_updateWhere.1 hq' with ⟨q, hq, hp, rfl⟩ | ⟨hq, -⟩
    · exact Or.inr ⟨q, hq, (hselected q hp).1, (hselected q hp).2, rfl⟩
    · exact Or.inl hq
  refine ⟨?_, ?_, ?_⟩
  · intro q' hq'
    rcases hrows q' hq' with hold | ⟨q, hq, -, hpaused, rfl⟩
    · exact Or.inl hold
    · exact Or.inr ⟨q, hq, hpaused, _, now, rfl⟩
  · exact fun q hq => Table.exists_updateWhere (by intro q; rfl) hq
  · intro hs
    refine hs.place queue_id hc hputs ?_
    intro q' hq'
    rcases hrows q' hq' with hold | ⟨q, hq, hid, -, rfl⟩
    · exact Or.inl hold
    · exact Or.inr ⟨hid, htarget q hq hid, rfl⟩

/-- The rows of the list are rows of the store, with the targets they have there. -/
theorem requeueRows_requeues (qs : List WorkQueueRow) {u : Unit}
    (hqs : ∀ q ∈ qs, ∀ x ∈ s.agentWorkQueue.rows, x.queue_id = q.queue_id →
      x.target_endpoint_id = q.target_endpoint_id)
    (h : requeueRows now qs s = .ok (u, s')) : Requeues s s' := by
  induction qs generalizing s with
  | nil =>
    obtain ⟨-, rfl⟩ := Tx.pure_ok.1 h
    exact .refl s
  | cons q qs ih =>
    simp only [requeueRows, Tx.bind_ok] at h
    obtain ⟨_, s₁, hrow, hrest⟩ := h
    have hstep := requeueRow_requeues (hqs q List.mem_cons_self) hrow
    refine hstep.trans (ih ?_ hrest)
    -- a row that was queued again keeps its target
    intro y hy x hx hid
    rcases hstep.rows x hx with hold | ⟨x₀, hx₀, -, n, now', rfl⟩
    · exact hqs y (List.mem_cons_of_mem q hy) x hold hid
    · exact hqs y (List.mem_cons_of_mem q hy) x₀ hx₀ hid

theorem resumeTask_queueStep {task_id : TaskId} {db db' : Db} {r : Except ReliabilityError Nat}
    (h : resumeTask task_id now db = (r, db')) :
    QueueStep db (.resumeTask task_id now) db' := by
  rcases Tx.commit_cases h with hok | ⟨rfl, -⟩
  · simp only [Tx.bind_ok, Tx.read_ok, Tx.pure_ok] at hok
    obtain ⟨_, _, ⟨rfl, rfl⟩, _, s₁, hrows, -, rfl⟩ := hok
    refine (requeueRows_requeues _ ?_ hrows).queueStep
    intro q hq x hx hid
    have hmem := (List.mem_filter.mp (List.mem_mergeSort.mp hq)).1
    rw [db.agentWorkQueue.eq_of_key_eq hx hmem hid]
  · exact .refl _ _

theorem resumeQueue_queueStep {queue_id : Uuid} {revision : Nat} {owner : Uuid} {fence : Nat}
    {db db' : Db} {r : Except ReliabilityError Unit}
    (h : resumeQueue queue_id revision owner fence now db = (r, db')) :
    QueueStep db (.resumeQueue queue_id revision owner fence now) db' := by
  rcases Tx.commit_cases h with hok | ⟨rfl, -⟩
  · simp only [Tx.bind_ok, Tx.read_ok, Tx.orElse_ok, Tx.pure_ok] at hok
    obtain ⟨_, _, ⟨rfl, rfl⟩, row, _, ⟨hrow, rfl⟩, _, s₁, hreq, -, rfl⟩ := hok
    obtain ⟨hget, -⟩ := Option.filter_eq_some_iff.mp hrow
    refine (requeueRow_requeues ?_ hreq).queueStep
    intro x hx hid
    have hmem := Table.mem_of_get hget
    have hkey : row.queue_id = queue_id := Table.key_of_get hget
    rw [db.agentWorkQueue.eq_of_key_eq hx hmem (hid.trans hkey.symm)]
  · exact .refl _ _

end

/-- **Every call of the queue is a step of it.** -/
theorem queueStep_cases [Externals] (db : Db) (call : QueueCall) :
    QueueStep db call (queueStep db call) := by
  cases call with
  | reserveQueue queue_id task_id delivery_id target room_id thread_root sender idempotency_key
      body_hash capacity now => exact reserveQueue_queueStep rfl
  | admitQueuedWorkflow input event_id queue_id room_id thread_root capacity =>
    exact admitQueuedWorkflow_queueStep rfl
  | claimNext target resource owner fence now => exact claimNext_queueStep rfl
  | claimQueue task_id picked now expires => exact claimQueue_queueStep rfl
  | markSendStarted claim resource owner now => exact markSendStarted_queueStep rfl
  | markQueueSendStarted task_id lease now => exact markQueueSendStarted_queueStep rfl
  | renewQueueLease task_id lease now expires => exact renewQueueLease_queueStep rfl
  | pauseQueue queue_id revision owner fence now => exact pauseQueue_queueStep rfl
  | pauseTaskQueued task_id now => exact pauseTaskQueued_queueStep task_id now db
  | pauseTaskAfterReap task_id resource owner fence now =>
    exact pauseTaskAfterReap_queueStep rfl
  | markPauseRecoveryNeeded task_id now => exact markPauseRecoveryNeeded_queueStep task_id now db
  | resumeTask task_id now => exact resumeTask_queueStep rfl
  | resumeQueue queue_id revision owner fence now => exact resumeQueue_queueStep rfl
  | recoverQueue queue_id revision now => exact recoverQueue_queueStep rfl

/-! ### What the queue leaves alone -/

section

variable {υ : Type} {π : Db → υ} (hq : Db.agentWorkQueueL.Apart π)

include hq

theorem claimNext_keeps (target : EndpointId) (resource : ResourceKey) (owner : Uuid)
    (fence : Nat) (now : String) (db : Db) :
    π (claimNext target resource owner fence now db).2 = π db := by
  refine Tx.Keeps.commit ?_ _ _
  refine Tx.keeps_bind (Tx.keeps_read _) fun _ => ?_
  refine Tx.keeps_bind (Tx.keeps_orElse _ _) fun _ => ?_
  refine Tx.keeps_bind (Tx.keeps_read _) fun row => ?_
  cases row with
  | none => exact Tx.keeps_pure _
  | some row =>
    refine Tx.keeps_bind (Tx.keeps_require _ _) fun _ => ?_
    refine Tx.keeps_bind (Tx.keeps_update hq _ _ _) fun _ => ?_
    exact Tx.keeps_bind (Tx.keeps_require _ _) fun _ => Tx.keeps_pure _

theorem markSendStarted_keeps (claim : QueueClaim) (resource : ResourceKey) (owner : Uuid)
    (now : String) (db : Db) : π (markSendStarted claim resource owner now db).2 = π db := by
  refine Tx.Keeps.commit ?_ _ _
  refine Tx.keeps_bind (Tx.keeps_read _) fun _ => ?_
  refine Tx.keeps_bind (Tx.keeps_require _ _) fun _ => ?_
  refine Tx.keeps_bind (Tx.keeps_update hq _ _ _) fun _ => ?_
  exact Tx.keeps_bind (Tx.keeps_require _ _) fun _ => Tx.keeps_pure _

theorem markQueueSendStarted_keeps (task_id : TaskId) (lease : QueueLease) (now : String)
    (db : Db) : π (markQueueSendStarted task_id lease now db).2 = π db := by
  refine Tx.Keeps.commit ?_ _ _
  refine Tx.keeps_bind (Tx.keeps_read _) fun _ => ?_
  refine Tx.keeps_bind (Tx.keeps_update hq _ _ _) fun _ => ?_
  exact Tx.keeps_bind (Tx.keeps_require _ _) fun _ => Tx.keeps_pure _

theorem pauseQueue_keeps (queue_id : Uuid) (revision : Nat) (owner : Uuid) (fence : Nat)
    (now : String) (db : Db) : π (pauseQueue queue_id revision owner fence now db).2 = π db := by
  refine Tx.Keeps.commit ?_ _ _
  refine Tx.keeps_bind (Tx.keeps_update hq _ _ _) fun _ => ?_
  exact Tx.keeps_bind (Tx.keeps_require _ _) fun _ => Tx.keeps_pure _

theorem pauseTaskAfterReap_keeps (task_id : TaskId) (resource : ResourceKey) (owner : Uuid)
    (fence : Nat) (now : String) (db : Db) :
    π (pauseTaskAfterReap task_id resource owner fence now db).2 = π db := by
  refine Tx.Keeps.commit ?_ _ _
  refine Tx.keeps_bind (Tx.keeps_read _) fun row => ?_
  cases row with
  | none => exact Tx.keeps_pure _
  | some row =>
    refine Tx.keeps_ite ?_ ?_
    · exact Tx.keeps_bind (Tx.keeps_update hq _ _ _) fun _ => Tx.keeps_pure _
    · refine Tx.keeps_bind (Tx.keeps_require _ _) fun _ => ?_
      refine Tx.keeps_bind (Tx.keeps_read _) fun _ => ?_
      refine Tx.keeps_bind (Tx.keeps_orElse _ _) fun _ => ?_
      refine Tx.keeps_ite ?_ ?_
      · exact Tx.keeps_bind (Tx.keeps_update hq _ _ _) fun _ => Tx.keeps_pure _
      · refine Tx.keeps_bind (Tx.keeps_update hq _ _ _) fun _ => ?_
        exact Tx.keeps_bind (Tx.keeps_require _ _) fun _ => Tx.keeps_pure _

theorem recoverQueue_keeps (queue_id : Uuid) (revision : Nat) (now : String) (db : Db) :
    π (recoverQueue queue_id revision now db).2 = π db := by
  refine Tx.Keeps.commit ?_ _ _
  refine Tx.keeps_bind (Tx.keeps_read _) fun _ => ?_
  refine Tx.keeps_bind (Tx.keeps_update hq _ _ _) fun _ => ?_
  exact Tx.keeps_bind (Tx.keeps_require _ _) fun _ => Tx.keeps_pure _

theorem claimQueue_keeps (hl : Db.executionLeasesL.Apart π) (task_id : TaskId)
    (picked : ResourceKey) (now expires : String) (db : Db) :
    π (claimQueue task_id picked now expires db).2 = π db := by
  refine Tx.Keeps.commit ?_ _ _
  refine Tx.keeps_bind (Tx.keeps_read _) fun lease => ?_
  refine Tx.keeps_bind (Tx.keeps_read _) fun row => ?_
  cases lease with
  | none => exact Tx.keeps_pure _
  | some lease =>
    cases row with
    | none => exact Tx.keeps_pure _
    | some row =>
      refine Tx.keeps_bind (Tx.keeps_update hl _ _ _) fun _ => ?_
      refine Tx.keeps_bind (Tx.keeps_require _ _) fun _ => ?_
      refine Tx.keeps_bind (Tx.keeps_update hq _ _ _) fun _ => ?_
      exact Tx.keeps_bind (Tx.keeps_require _ _) fun _ => Tx.keeps_pure _

omit hq in
theorem renewQueueLease_keeps (hl : Db.executionLeasesL.Apart π) (task_id : TaskId)
    (lease : QueueLease) (now expires : String) (db : Db) :
    π (renewQueueLease task_id lease now expires db).2 = π db := by
  refine Tx.Keeps.commit ?_ _ _
  refine Tx.keeps_bind (Tx.keeps_update hl _ _ _) fun _ => ?_
  exact Tx.keeps_bind (Tx.keeps_require _ _) fun _ => Tx.keeps_pure _

variable (hc : Db.agentQueueCountersL.Apart π)

include hc

omit hq in
theorem takeSequence_keeps (target : EndpointId) (now : String) :
    Tx.Keeps π (takeSequence target now) := by
  refine Tx.keeps_bind (Tx.keeps_read _) fun _ => ?_
  refine Tx.keeps_bind (Tx.keeps_orElse _ _) fun _ => ?_
  exact Tx.keeps_bind (Tx.keeps_update hc _ _ _) fun _ => Tx.keeps_pure _

theorem requeueRow_keeps (queue_id : Uuid) (revision : Nat) (target : EndpointId)
    (owner : Option Uuid) (fence : Option Nat) (now : String) :
    Tx.Keeps π (requeueRow queue_id revision target owner fence now) := by
  refine Tx.keeps_bind (takeSequence_keeps hc target now) fun _ => ?_
  refine Tx.keeps_bind (Tx.keeps_read _) fun _ => ?_
  refine Tx.keeps_bind (Tx.keeps_require _ _) fun _ => ?_
  exact Tx.keeps_bind (Tx.keeps_update hq _ _ _) fun _ => Tx.keeps_require _ _

theorem requeueRows_keeps (now : String) (rows : List WorkQueueRow) :
    Tx.Keeps π (requeueRows now rows) := by
  induction rows with
  | nil => exact Tx.keeps_pure _
  | cons q rows ih => exact Tx.keeps_bind (requeueRow_keeps hq hc _ _ _ _ _ _) fun _ => ih

theorem resumeTask_keeps (task_id : TaskId) (now : String) (db : Db) :
    π (resumeTask task_id now db).2 = π db := by
  refine Tx.Keeps.commit ?_ _ _
  refine Tx.keeps_bind (Tx.keeps_read _) fun _ => ?_
  exact Tx.keeps_bind (requeueRows_keeps hq hc _ _) fun _ => Tx.keeps_pure _

theorem resumeQueue_keeps (queue_id : Uuid) (revision : Nat) (owner : Uuid) (fence : Nat)
    (now : String) (db : Db) : π (resumeQueue queue_id revision owner fence now db).2 = π db := by
  refine Tx.Keeps.commit ?_ _ _
  refine Tx.keeps_bind (Tx.keeps_read _) fun _ => ?_
  refine Tx.keeps_bind (Tx.keeps_orElse _ _) fun _ => ?_
  exact Tx.keeps_bind (requeueRow_keeps hq hc _ _ _ _ _ _) fun _ => Tx.keeps_pure _

theorem reserveQueue_keeps (queue_id : Uuid) (task_id : TaskId) (delivery_id : DeliveryId)
    (target : EndpointId) (room_id : String) (thread_root : Option String)
    (sender : EndpointId) (idempotency_key body_hash : String) (capacity : Int) (now : String)
    (db : Db) :
    π (reserveQueue queue_id task_id delivery_id target room_id thread_root sender
      idempotency_key body_hash capacity now db).2 = π db := by
  refine Tx.Keeps.commit ?_ _ _
  refine Tx.keeps_bind ?_ fun _ => ?_
  · refine Tx.keeps_bind (Tx.keeps_require _ _) fun _ => ?_
    refine Tx.keeps_bind (Tx.keeps_insertOrIgnore hc _) fun _ => ?_
    exact Tx.keeps_bind (Tx.keeps_update hc _ _ _) fun _ => Tx.keeps_pure _
  · refine Tx.keeps_bind (Tx.keeps_read _) fun existing => ?_
    cases existing with
    | some row => exact Tx.keeps_pure _
    | none =>
      refine Tx.keeps_bind (Tx.keeps_read _) fun _ => ?_
      refine Tx.keeps_bind (Tx.keeps_require _ _) fun _ => ?_
      refine Tx.keeps_bind (takeSequence_keeps hc _ _) fun _ => ?_
      refine Tx.keeps_bind ?_ fun _ => Tx.keeps_pure _
      refine Tx.keeps_bind (Tx.keeps_read _) fun _ => ?_
      exact Tx.keeps_bind (Tx.keeps_require _ _) fun _ => Tx.keeps_insert hq _ _

end

end GuiguBridge
