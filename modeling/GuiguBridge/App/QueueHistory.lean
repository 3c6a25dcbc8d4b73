import GuiguBridge.App.Frame
import GuiguBridge.Reference

/-!
# The history of the work queue

Twelve calls in two files write the rows of the queue, each under a guard of its own.  Over
every run of the bridge, whoever calls and whatever becomes of the leases:

* `QueueMove.revision_lt` — a row that changes takes a larger revision;
* `QueueRowInv` — **a queued row is nobody's**: it was not sent, and no owner or fence is left
  on it;
* `LeaseOrigin`, `OwnerInv` — where the owner of a lease comes from, and that two leases never
  share one;
* `reaped_since` — a row that was sent is free again only after its holder was reaped, at an
  instant when no lease of that holder was live.
-/

namespace GuiguBridge

open Relational

/-! ### The leases -/

/-- The resource and the owner token of an attempt to acquire. -/
def Call.attempt : Call → Option (ResourceKey × Uuid)
  | .acquire resource _ owner _ _ => some (resource, owner)
  | _ => none

def BridgeCall.attempt : BridgeCall → Option (ResourceKey × Uuid)
  | .runtime call => call.attempt
  | _ => none

/-- **`Uuid::now_v7` gives every attempt an owner token of its own.** -/
def FreshOwners (calls : List BridgeCall) : Prop :=
  ((calls.filterMap BridgeCall.attempt).map Prod.snd).Nodup

instance (calls : List BridgeCall) : Decidable (FreshOwners calls) :=
  inferInstanceAs (Decidable (List.Nodup _))

/-- Every lease after a call was there before it, under the same resource, owner and task, or is
the one that the call acquired. -/
def LeaseOrigin (attempt : Option (ResourceKey × Uuid)) (db db' : Db) : Prop :=
  ∀ l' ∈ db'.executionLeases.rows,
    (∃ l ∈ db.executionLeases.rows, l.resource_key = l'.resource_key ∧
      l.owner_token = l'.owner_token ∧ l.task_id = l'.task_id) ∨
    attempt = some (l'.resource_key, l'.owner_token)

section

variable {db db' : Db} {attempt : Option (ResourceKey × Uuid)}

theorem LeaseOrigin.of_same (h : db'.executionLeases = db.executionLeases) :
    LeaseOrigin attempt db db' := by
  intro l hl
  rw [h] at hl
  exact Or.inl ⟨l, hl, rfl, rfl, rfl⟩

theorem LeaseOrigin.of_puts {resource : ResourceKey} {l : LeaseRow}
    (hputs : db.executionLeases.Puts resource l db'.executionLeases)
    (hold : (∃ l₀, db.executionLeases.get resource = some l₀ ∧
      l₀.owner_token = l.owner_token ∧ l₀.task_id = l.task_id) ∨
        attempt = some (resource, l.owner_token)) :
    LeaseOrigin attempt db db' := by
  intro l' hl'
  rcases hputs.mem hl' with ⟨hkey, rfl⟩ | hl
  · rcases hold with ⟨l₀, hl₀, hsame⟩ | hnew
    · exact Or.inl ⟨l₀, Table.mem_of_get hl₀, (Table.key_of_get hl₀).trans hkey.symm, hsame⟩
    · exact Or.inr (by rw [hnew, hkey])
  · exact Or.inl ⟨l', hl, rfl, rfl, rfl⟩

end

section

variable [Externals]

theorem acquire_origin {resource : ResourceKey} {task_id : TaskId} {owner : Uuid}
    {now : DateTime} {ttl : Duration} {db db' : Db} {r : Except RuntimeError AcquireOutcome}
    (h : acquire resource task_id owner now ttl db = (r, db')) :
    LeaseOrigin (some (resource, owner)) db db' := by
  rcases acquire_cases h with ⟨rfl, -⟩ | ⟨e, t, rfl, -, -, hputs⟩ |
    ⟨l, t, rfl, -, hl, -, -, hputs⟩ | ⟨l, e, t, rfl, -, hl, -, hputs⟩
  · exact .of_same rfl
  · exact .of_puts hputs (Or.inr rfl)
  · exact .of_puts hputs (Or.inl ⟨l, hl, rfl, rfl⟩)
  · exact .of_puts hputs (Or.inr rfl)

theorem renew_origin {lease : Lease} {now : DateTime} {ttl : Duration} {db db' : Db}
    {r : Except RuntimeError Lease} (h : renew lease now ttl db = (r, db')) :
    LeaseOrigin none db db' := by
  rcases renew_cases h with ⟨rfl, -⟩ | ⟨l, e, t, rfl, -, hl, -, hputs⟩
  · exact .of_same rfl
  · exact .of_puts hputs (Or.inl ⟨l, hl, rfl, rfl⟩)

theorem release_origin {lease : Lease} {disposition : ReleaseDisposition} {now : DateTime}
    {db db' : Db} {r : Except RuntimeError Unit}
    (h : release lease disposition now db = (r, db')) : LeaseOrigin none db db' := by
  rcases release_cases h with ⟨rfl, -⟩ | ⟨l, st, t, c, rfl, -, hl, -, -, hputs, -⟩
  · exact .of_same rfl
  · exact .of_puts hputs (Or.inl ⟨l, hl, rfl, rfl⟩)

theorem finish_origin {seen : Db} {lease : Lease} {revision : Nat} {generation : String}
    {state : ContinuationState} {observed_bytes : Nat} {now : DateTime} {db db' : Db}
    {r : Except RuntimeError Unit}
    (h : finishWithGeneration seen lease revision generation state observed_bytes now db =
      (r, db')) : LeaseOrigin none db db' := by
  rcases finishWithGeneration_cases h with ⟨rfl, -⟩ | ⟨l, st, t, c, d, rfl, -, hl, -, -, -, hputs⟩
  · exact .of_same rfl
  · exact .of_puts hputs (Or.inl ⟨l, hl, rfl, rfl⟩)

theorem finalizeTerminal_origin {seen : Db} {lease : Lease} {revision : Nat}
    {generation : String} {state : ContinuationState} {observed_bytes : Nat}
    {event : TaskEvent} {now : DateTime} {db db' : Db} {r : Except RuntimeError FinalizeResult}
    (h : finalizeTerminal seen lease revision generation state observed_bytes event now db =
      (r, db')) : LeaseOrigin none db db' := by
  rcases finalizeTerminal_cases h with ⟨rfl, -⟩ | ⟨-, h⟩
  · exact .of_same rfl
  · obtain ⟨l, hl, -, -, hputs⟩ := h.lease_ended
    exact .of_puts hputs (Or.inl ⟨l, hl, rfl, rfl⟩)

omit [Externals] in
/-- The queue moves the end of a lease, and nothing else of it. -/
theorem LeaseOrigin.of_update {db db' : Db} {p : LeaseRow → Bool} {now expires : String}
    (h : db'.executionLeases = db.executionLeases.updateWhere p
      (fun l => { l with heartbeat_at := now, expires_at := expires }) (fun _ => rfl)) :
    LeaseOrigin none db db' := by
  intro l' hl'
  rw [h] at hl'
  rcases Table.mem_updateWhere.1 hl' with ⟨l, hl, -, rfl⟩ | ⟨hl, -⟩
  · exact Or.inl ⟨l, hl, rfl, rfl, rfl⟩
  · exact Or.inl ⟨l', hl, rfl, rfl, rfl⟩

omit [Externals] in
theorem claimQueue_origin {task_id : TaskId} {picked : ResourceKey} {now expires : String}
    {db db' : Db} {r : Except DispatchError (Option QueueLease)}
    (h : claimQueue task_id picked now expires db = (r, db')) : LeaseOrigin none db db' := by
  rcases Tx.commit_cases h with hok | ⟨rfl, -⟩
  · simp only [Tx.bind_ok, Tx.read_ok] at hok
    obtain ⟨lease, _, ⟨-, rfl⟩, row, _, ⟨-, rfl⟩, hok⟩ := hok
    cases lease with
    | none =>
      obtain ⟨-, rfl⟩ := Tx.pure_ok.1 hok
      exact .of_same rfl
    | some lease =>
      cases row with
      | none =>
        obtain ⟨-, rfl⟩ := Tx.pure_ok.1 hok
        exact .of_same rfl
      | some row =>
        simp only [Tx.bind_ok, Tx.require_ok, Tx.update_ok, Tx.pure_ok] at hok
        obtain ⟨_, _, ⟨-, rfl⟩, _, _, ⟨-, rfl⟩, _, _, ⟨-, rfl⟩, _, _, ⟨-, rfl⟩, -, rfl⟩ := hok
        exact .of_update rfl
  · exact .of_same rfl

omit [Externals] in
theorem renewQueueLease_origin {task_id : TaskId} {lease : QueueLease}
    {now expires : String} {db db' : Db} {r : Except DispatchError Unit}
    (h : renewQueueLease task_id lease now expires db = (r, db')) : LeaseOrigin none db db' := by
  rcases Tx.commit_cases h with hok | ⟨rfl, -⟩
  · simp only [Tx.bind_ok, Tx.require_ok, Tx.update_ok, Tx.pure_ok] at hok
    obtain ⟨_, _, ⟨-, rfl⟩, _, _, ⟨-, rfl⟩, -, rfl⟩ := hok
    exact .of_update rfl
  · exact .of_same rfl

/-- **No call of the bridge brings a new owner, acquisitions apart.** -/
theorem bridge_origin (fs : FileSystem) (db : Db) (call : BridgeCall) :
    LeaseOrigin call.attempt db (bridgeStep fs db call) := by
  cases call with
  | runtime call =>
    cases call with
    | acquire resource task_id owner now ttl => exact acquire_origin rfl
    | renew lease now ttl => exact renew_origin rfl
    | release lease disposition now => exact release_origin rfl
    | finish seen lease revision generation state observed_bytes now => exact finish_origin rfl
    | finalizeTerminal seen lease revision generation state observed_bytes event now =>
      exact finalizeTerminal_origin rfl
    | _ => exact .of_same (bridgeStep_frame fs db _ .executionLeases rfl)
  | queue call =>
    cases call with
    | claimQueue task_id picked now expires => exact claimQueue_origin rfl
    | renewQueueLease task_id lease now expires => exact renewQueueLease_origin rfl
    | _ => exact .of_same (bridgeStep_frame fs db _ .executionLeases rfl)
  | gateway call =>
    cases call with
    | _ => exact .of_same (bridgeStep_frame fs db _ .executionLeases rfl)
  | closure context lease_mode =>
    rcases closure_cases fs context lease_mode db with h | h
    · rw [h]
      exact .of_same rfl
    · exact fun l' hl' => Or.inl (h.leases l' hl')
  | _ => exact .of_same (bridgeStep_frame fs db _ .executionLeases rfl)

/-! ### The queue in the bridge -/

/-- What a call of the bridge does to the queue: a step of the queue, or nothing. -/
inductive BridgeQueue (db : Db) (call : BridgeCall) (db' : Db) : Prop where
  | stepped (qcall : QueueCall) (hcall : call = .queue qcall) (h : QueueStep db qcall db')
  | same (hqueue : db'.agentWorkQueue = db.agentWorkQueue)
      (hcounters : db'.agentQueueCounters = db.agentQueueCounters)

theorem bridge_queue (fs : FileSystem) (db : Db) (call : BridgeCall) :
    BridgeQueue db call (bridgeStep fs db call) := by
  have hsame (hq : call.writes.contains .agentWorkQueue = false)
      (hc : call.writes.contains .agentQueueCounters = false) :
      BridgeQueue db call (bridgeStep fs db call) :=
    .same (bridgeStep_frame fs db call .agentWorkQueue hq)
      (bridgeStep_frame fs db call .agentQueueCounters hc)
  cases call with
  | queue call => exact .stepped call rfl (queueStep_cases db call)
  | runtime call => cases call <;> exact hsame rfl rfl
  | gateway call => cases call <;> exact hsame rfl rfl
  | _ => exact hsame rfl rfl

/-! ### Rows -/

omit [Externals] in
/-- **A row that changes takes a larger revision.** -/
theorem QueueMove.revision_lt {db : Db} {call : QueueCall} {q q' : WorkQueueRow}
    (h : QueueMove db call q q') : q.revision < q'.revision := by
  cases h <;> exact Nat.lt_succ_self _

/-- A queued row was not sent, and nobody has it. -/
def QueueRowInv (q : WorkQueueRow) : Prop :=
  q.state = .queued → q.send_started = false ∧ q.runtime_owner = none ∧ q.owner_fence = none

omit [Externals] in
theorem FreshItem.rowInv {q : WorkQueueRow} (h : FreshItem q) : QueueRowInv q :=
  fun _ => ⟨h.unsent, h.owner, h.fence⟩

omit [Externals] in
theorem QueueMove.rowInv {db : Db} {call : QueueCall} {q q' : WorkQueueRow}
    (h : QueueMove db call q q') : QueueRowInv q' := by
  intro hqueued
  cases h with
  | claimed owner fence now hstate => cases hqueued
  | started now hstate hunsent => cases hqueued
  | paused now hactive hunsent => cases hqueued
  | reaped resource owner fence now l hcall hactive howner hfence hl hbound hdead =>
    cases hqueued
  | suspected now hactive => cases hqueued
  | requeued sequence now hstate => exact ⟨rfl, rfl, rfl⟩
  | recovered now hactive =>
    -- only a row that was not sent goes back
    cases hsent : q.send_started with
    | true => simp [WorkQueueRow.recovered, hsent] at hqueued
    | false => simp [WorkQueueRow.recovered, hsent]

/-- What holds of the queue in every state. -/
structure QueueInv (db : Db) : Prop where
  sequence : SequenceInv db
  rows : ∀ q ∈ db.agentWorkQueue.rows, QueueRowInv q

omit [Externals] in
theorem QueueInv.empty : QueueInv Db.empty where
  sequence := ⟨(by intro q hq; cases hq), (by intro q hq; cases hq)⟩
  rows := by intro q hq; cases hq

omit [Externals] in
/-- **One call keeps the invariant.** -/
theorem QueueInv.step {db db' : Db} {call : BridgeCall} (h : QueueInv db)
    (hstep : BridgeQueue db call db') : QueueInv db' := by
  cases hstep with
  | stepped qcall hcall hq =>
    refine ⟨hq.sequence h.sequence, ?_⟩
    intro q' hq'
    rcases hq.rows q' hq' with hold | ⟨q, -, -, hmove⟩ | ⟨-, hfresh, -⟩
    · exact h.rows q' hold
    · exact hmove.rowInv
    · exact hfresh.rowInv
  | same hqueue hcounters =>
    refine ⟨⟨?_, ?_⟩, ?_⟩
    · rw [hqueue, hcounters]
      exact h.sequence.below
    · rw [hqueue]
      exact h.sequence.distinct
    · rw [hqueue]
      exact h.rows

theorem bridgeAt_queueInv (fs : FileSystem) (calls : List BridgeCall) (n : Nat) :
    QueueInv (bridgeAt fs calls n) :=
  bridgeAt_invariant QueueInv .empty (fun _ call _ h => h.step (bridge_queue fs _ call)) n

omit [Externals] in
/-- A row is still there after a call, as it was or moved by the queue. -/
theorem BridgeQueue.row {db db' : Db} {call : BridgeCall} (h : BridgeQueue db call db')
    {q : WorkQueueRow} (hq : q ∈ db.agentWorkQueue.rows) :
    ∃ q' ∈ db'.agentWorkQueue.rows, q'.queue_id = q.queue_id ∧
      (q' = q ∨ ∃ qcall, call = .queue qcall ∧ QueueMove db qcall q q') := by
  cases h with
  | same hqueue hcounters =>
    rw [hqueue]
    exact ⟨q, hq, rfl, Or.inl rfl⟩
  | stepped qcall hcall hstep =>
    obtain ⟨q', hq', hid⟩ := hstep.kept q hq
    refine ⟨q', hq', hid, ?_⟩
    rcases hstep.rows q' hq' with hold | ⟨q₀, hq₀, hid₀, hmove⟩ | ⟨hnew, -⟩
    · exact Or.inl (db.agentWorkQueue.eq_of_key_eq hold hq hid)
    · rw [db.agentWorkQueue.eq_of_key_eq hq₀ hq (hid₀.trans hid)] at hmove
      exact Or.inr ⟨qcall, hcall, hmove⟩
    · exact absurd hid.symm (hnew q hq)

/-- The same between two positions of a run. -/
theorem bridgeAt_row {calls : List BridgeCall} {n : Nat} {q : WorkQueueRow}
    (hq : q ∈ (bridgeAt fs calls n).agentWorkQueue.rows) :
    ∃ q' ∈ (bridgeAt fs calls (n + 1)).agentWorkQueue.rows, q'.queue_id = q.queue_id ∧
      (q' = q ∨ ∃ qcall, calls[n]? = some (.queue qcall) ∧
        QueueMove (bridgeAt fs calls n) qcall q q') := by
  cases hcall : calls[n]? with
  | none =>
    rw [bridgeAt_end hcall]
    exact ⟨q, hq, rfl, Or.inl rfl⟩
  | some call =>
    rw [bridgeAt_succ hcall]
    obtain ⟨q', hq', hid, hmove⟩ := (bridge_queue fs _ call).row hq
    refine ⟨q', hq', hid, ?_⟩
    rcases hmove with rfl | ⟨qcall, rfl, hmove⟩
    · exact Or.inl rfl
    · exact Or.inr ⟨qcall, rfl, hmove⟩

/-! ### Owners -/

/-- Every owner of a lease comes from an attempt, and two leases never share one. -/
structure OwnerInv (owners : List Uuid) (db : Db) : Prop where
  known : ∀ l ∈ db.executionLeases.rows, l.owner_token ∈ owners
  apart : ∀ l ∈ db.executionLeases.rows, ∀ l' ∈ db.executionLeases.rows,
    l.owner_token = l'.owner_token → l = l'

omit [Externals] in
theorem OwnerInv.step {owners : List Uuid} {attempt : Option (ResourceKey × Uuid)} {db db' : Db}
    (h : OwnerInv owners db) (horigin : LeaseOrigin attempt db db')
    (hfresh : ∀ resource owner, attempt = some (resource, owner) → owner ∉ owners) :
    OwnerInv (owners ++ (attempt.map Prod.snd).toList) db' := by
  refine ⟨?_, ?_⟩
  · intro l' hl'
    rcases horigin l' hl' with ⟨l, hl, -, howner, -⟩ | hnew
    · exact List.mem_append_left _ (howner ▸ h.known l hl)
    · rw [hnew]
      simp
  · intro x hx y hy hxy
    refine db'.executionLeases.eq_of_key_eq hx hy ?_
    rcases horigin x hx with ⟨lx, hlx, hrx, hox, -⟩ | hnewx
    · rcases horigin y hy with ⟨ly, hly, hry, hoy, -⟩ | hnewy
      · rw [← hrx, ← hry, h.apart lx hlx ly hly (by rw [hox, hoy, hxy])]
      · exact absurd (hxy ▸ hox ▸ h.known lx hlx) (hfresh _ _ hnewy)
    · rcases horigin y hy with ⟨ly, hly, hry, hoy, -⟩ | hnewy
      · exact absurd (hxy ▸ hoy ▸ h.known ly hly) (hfresh _ _ hnewx)
      · rw [hnewx] at hnewy
        exact congrArg Prod.fst (Option.some.inj hnewy)

omit [Externals] in
theorem FreshOwners.take_succ {calls : List BridgeCall} (h : FreshOwners calls) {n : Nat}
    {call : BridgeCall} (hcall : calls[n]? = some call) :
    ∀ resource owner, call.attempt = some (resource, owner) →
      owner ∉ ((calls.take n).filterMap BridgeCall.attempt).map Prod.snd := by
  intro resource owner hattempt hmem
  have hsplit : calls = calls.take n ++ call :: calls.drop (n + 1) := by
    obtain ⟨hn, rfl⟩ := List.getElem?_eq_some_iff.mp hcall
    rw [List.cons_getElem_drop_succ, List.take_append_drop]
  unfold FreshOwners at h
  rw [hsplit, List.filterMap_append, List.filterMap_cons_some hattempt, List.map_append,
    List.nodup_append] at h
  exact h.2.2 owner hmem owner (by simp) rfl

/-- **Two leases of a run never share an owner.** -/
theorem bridgeAt_ownerInv (fs : FileSystem) {calls : List BridgeCall} (hfresh : FreshOwners calls) (n : Nat) :
    OwnerInv (((calls.take n).filterMap BridgeCall.attempt).map Prod.snd)
      (bridgeAt fs calls n) := by
  induction n with
  | zero => exact ⟨(by intro l hl; cases hl), (by intro l hl; cases hl)⟩
  | succ n ih =>
    cases hcall : calls[n]? with
    | none =>
      rw [bridgeAt_end hcall, List.take_add_one, hcall]
      simpa using ih
    | some call =>
      have hstep := ih.step (bridge_origin fs _ call) (hfresh.take_succ hcall)
      rw [bridgeAt_succ hcall, List.take_add_one, hcall]
      cases hattempt : call.attempt with
      | none => simpa [hattempt] using hstep
      | some attempt => simpa [hattempt] using hstep

/-! ### A row that was sent -/

/-- The call at position `j` paused the row after its holder was reaped: the lease of the owner
and the fence that `q` was sent under is there, and it is not live. -/
def ReapedAt (fs : FileSystem) (calls : List BridgeCall) (j : Nat) (q : WorkQueueRow) : Prop :=
  ∃ resource owner fence now l,
    calls[j]? = some (.queue (.pauseTaskAfterReap q.task_id resource owner fence now)) ∧
    q.runtime_owner = some owner ∧ q.owner_fence = some fence ∧
    (∃ p ∈ (bridgeAt fs calls (j + 1)).agentWorkQueue.rows, p.queue_id = q.queue_id ∧
      p.state = .paused) ∧
    (bridgeAt fs calls j).executionLeases.get resource = some l ∧
    l.bound q.task_id owner fence = true ∧ l.liveAt now = false

omit [Externals] in
/-- A row that was sent stays with its holder, is paused after a reap, or was paused before. -/
theorem QueueMove.of_sent {db : Db} {call : QueueCall} {q q' : WorkQueueRow}
    (h : QueueMove db call q q') (hinv : QueueRowInv q) (hsent : q.send_started = true) :
    (q'.send_started = true ∧ q'.runtime_owner = q.runtime_owner ∧
      q'.owner_fence = q.owner_fence ∧ q'.task_id = q.task_id ∧ q'.state ≠ .paused) ∨
    (q'.state = .paused ∧ ∃ resource owner fence now l,
      call = .pauseTaskAfterReap q.task_id resource owner fence now ∧
      q.runtime_owner = some owner ∧ q.owner_fence = some fence ∧
      db.executionLeases.get resource = some l ∧ l.bound q.task_id owner fence = true ∧
      l.liveAt now = false) ∨
    q.state = .paused := by
  cases h with
  | claimed owner fence now hstate =>
    rw [(hinv hstate).1] at hsent
    cases hsent
  | started now hstate hunsent =>
    rw [hunsent] at hsent
    cases hsent
  | paused now hactive hunsent =>
    rw [hunsent] at hsent
    cases hsent
  | reaped resource owner fence now l hcall hactive howner hfence hl hbound hdead =>
    exact Or.inr (Or.inl ⟨rfl, resource, owner, fence, now, l, hcall, howner, hfence, hl, hbound,
      hdead⟩)
  | suspected now hactive => exact Or.inl ⟨hsent, rfl, rfl, rfl, nofun⟩
  | requeued sequence now hstate => exact Or.inr (Or.inr hstate)
  | recovered now hactive =>
    refine Or.inl ⟨hsent, ?_, ?_, rfl, ?_⟩ <;> simp [WorkQueueRow.recovered, hsent]

omit [Externals] in
/-- Only the call that says that it sends a row makes it sent. -/
theorem QueueMove.sends {db : Db} {call : QueueCall} {q q' : WorkQueueRow}
    (h : QueueMove db call q q') (hunsent : q.send_started = false)
    (hsent : q'.send_started = true) : q'.state = .running ∧ q'.task_id = q.task_id := by
  have hcontra : q.send_started ≠ true := by
    rw [hunsent]
    exact Bool.false_ne_true
  cases h with
  | claimed owner fence now hstate => exact absurd hsent hcontra
  | started now hstate _ => exact ⟨rfl, rfl⟩
  | paused now hactive _ => exact absurd hsent hcontra
  | reaped resource owner fence now l hcall hactive howner hfence hl hbound hdead =>
    exact absurd hsent hcontra
  | suspected now hactive => exact absurd hsent hcontra
  | requeued sequence now hstate => cases hsent
  | recovered now hactive => exact absurd hsent hcontra

/-- **Since it was sent, a row is with its holder or its holder was reaped.**  The induction is
on the position; the invariant is what the row looks like there. -/
theorem reaped_since {calls : List BridgeCall} {i : Nat} {q : WorkQueueRow}
    (hq : q ∈ (bridgeAt fs calls (i + 1)).agentWorkQueue.rows) (hsent : q.send_started = true)
    (hrunning : q.state ≠ .paused) (d : Nat) :
    (∃ p ∈ (bridgeAt fs calls (i + 1 + d)).agentWorkQueue.rows, p.queue_id = q.queue_id ∧
      p.send_started = true ∧ p.runtime_owner = q.runtime_owner ∧
      p.owner_fence = q.owner_fence ∧ p.task_id = q.task_id ∧ p.state ≠ .paused) ∨
    ∃ j, i < j ∧ j < i + 1 + d ∧ ReapedAt fs calls j q := by
  induction d with
  | zero => exact Or.inl ⟨q, hq, rfl, hsent, rfl, rfl, rfl, hrunning⟩
  | succ d ih =>
    rcases ih with ⟨p, hp, hid, hpsent, howner, hfence, htask, hpause⟩ | ⟨j, hij, hjd, hreap⟩
    · obtain ⟨p', hp', hid', hmove⟩ := bridgeAt_row hp
      rcases hmove with rfl | ⟨qcall, hcall, hmove⟩
      · exact Or.inl ⟨p', hp', hid, hpsent, howner, hfence, htask, hpause⟩
      · have hinv := (bridgeAt_queueInv fs calls (i + 1 + d)).rows p hp
        rcases hmove.of_sent hinv hpsent with
          ⟨hs, ho, hf, ht, hst⟩ | ⟨hst, resource, owner, fence, now, l, rfl, ho, hf, hl, hb, hdead⟩ |
            hst
        · exact Or.inl ⟨p', hp', hid'.trans hid, hs, ho.trans howner, hf.trans hfence,
            ht.trans htask, hst⟩
        · refine Or.inr ⟨i + 1 + d, by omega, by omega, resource, owner, fence, now, l, ?_,
            howner ▸ ho, hfence ▸ hf, ⟨p', hp', hid'.trans hid, hst⟩, hl, htask ▸ hb, hdead⟩
          rw [hcall, htask]
        · exact absurd hst hpause
    · exact Or.inr ⟨j, hij, by omega, hreap⟩

/-- **The work queue, over every run.**  For every target the places in the queue are different
and below the counter; a queued row is nobody's; a row that changes takes a larger revision; and
a row that was sent is queued, or unsent, again only after a reap at an instant when no lease of
its owner and fence was live. -/
theorem work_queue (fs : FileSystem) (calls : List BridgeCall) :
    (∀ n, SequenceInv (bridgeAt fs calls n)) ∧
    (∀ n, ∀ q ∈ (bridgeAt fs calls n).agentWorkQueue.rows, q.state = .queued →
      q.send_started = false ∧ q.runtime_owner = none ∧ q.owner_fence = none) ∧
    (∀ n, ∀ q ∈ (bridgeAt fs calls n).agentWorkQueue.rows,
      ∃ q' ∈ (bridgeAt fs calls (n + 1)).agentWorkQueue.rows, q'.queue_id = q.queue_id ∧
        (q' = q ∨ q.revision < q'.revision)) ∧
    (FreshOwners calls → ∀ i k, i < k →
      ∀ q ∈ (bridgeAt fs calls i).agentWorkQueue.rows,
      ∀ q' ∈ (bridgeAt fs calls (i + 1)).agentWorkQueue.rows,
      ∀ q'' ∈ (bridgeAt fs calls k).agentWorkQueue.rows,
      q'.queue_id = q.queue_id → q''.queue_id = q.queue_id →
      q.send_started = false → q'.send_started = true →
      (q''.state = .queued ∨ q''.send_started = false) →
      ∃ j, i < j ∧ j < k ∧ ∃ resource owner fence now,
        calls[j]? = some (.queue (.pauseTaskAfterReap q.task_id resource owner fence now)) ∧
        q'.runtime_owner = some owner ∧ q'.owner_fence = some fence ∧
        (∃ p ∈ (bridgeAt fs calls (j + 1)).agentWorkQueue.rows, p.queue_id = q.queue_id ∧
          p.state = .paused) ∧
        ∀ l ∈ (bridgeAt fs calls j).executionLeases.rows, l.owner_token = owner →
          l.fence = fence → l.liveAt now = false) := by
  refine ⟨fun n => (bridgeAt_queueInv fs calls n).sequence,
    fun n q hq => (bridgeAt_queueInv fs calls n).rows q hq, ?_, ?_⟩
  · intro n q hq
    obtain ⟨q', hq', hid, hmove⟩ := bridgeAt_row hq
    refine ⟨q', hq', hid, ?_⟩
    rcases hmove with rfl | ⟨qcall, -, hmove⟩
    · exact Or.inl rfl
    · exact Or.inr hmove.revision_lt
  · intro hfresh i k hik q hq q' hq' q'' hq'' hid' hid'' hunsent hsent hfree
    -- the call at `i` is the one that says that it sends the row
    obtain ⟨x, hx, hidx, hmove⟩ := bridgeAt_row hq
    have hxq : x = q' := (bridgeAt fs calls (i + 1)).agentWorkQueue.eq_of_key_eq hx hq'
      (hidx.trans hid'.symm)
    subst hxq
    obtain ⟨hrunning, htask⟩ : x.state ≠ .paused ∧ x.task_id = q.task_id := by
      rcases hmove with rfl | ⟨qcall, -, hmove⟩
      · rw [hunsent] at hsent
        cases hsent
      · obtain ⟨hstate, htask⟩ := hmove.sends hunsent hsent
        exact ⟨by rw [hstate]; nofun, htask⟩
    obtain ⟨d, rfl⟩ : ∃ d, k = i + 1 + d := ⟨k - (i + 1), by omega⟩
    have hunsent'' : q''.send_started = false := by
      rcases hfree with hqueued | hunsent''
      · exact ((bridgeAt_queueInv fs calls _).rows q'' hq'' hqueued).1
      · exact hunsent''
    rcases reaped_since hx hsent hrunning d with ⟨p, hp, hidp, hpsent, -⟩ | ⟨j, hij, hjk, hreap⟩
    · have hpq : p = q'' := (bridgeAt fs calls (i + 1 + d)).agentWorkQueue.eq_of_key_eq hp hq''
        (hidp.trans (hidx.trans hid''.symm))
      rw [hpq, hunsent''] at hpsent
      cases hpsent
    · obtain ⟨resource, owner, fence, now, l, hcall, howner, hfence, ⟨p, hp, hidp, hpause⟩, hl,
        hbound, hdead⟩ := hreap
      refine ⟨j, hij, hjk, resource, owner, fence, now, htask ▸ hcall, howner, hfence,
        ⟨p, hp, hidp.trans hidx, hpause⟩, ?_⟩
      intro l' hl' hl'owner _
      have hlowner : l.owner_token = owner := (of_decide_eq_true hbound).2.1
      have hsame := (bridgeAt_ownerInv fs hfresh j).apart l' hl' l (Table.mem_of_get hl)
        (hl'owner.trans hlowner.symm)
      rw [hsame]
      exact hdead

end

/-! ### A run that sends, reaps and queues again -/

/-- The admission of the run below. -/
def sendInput : WorkflowAdmission :=
  { transport := "matrix-workflow", external_event_id := "$e", sender_endpoint_id := ⟨6⟩,
    target_endpoint_id := ⟨5⟩, task_id := ⟨2⟩, correlation_id := "c", idempotency_key := "k",
    kind := "dispatch", body_hash := "h", now := "1970-01-01T00:00:00+00:00",
    task :=
      { task_id := ⟨2⟩, root_task_id := ⟨2⟩, parent_task_id := none, from_agent := ⟨6⟩,
        to_agent := ⟨5⟩, conversation_id := ⟨8⟩, reply_to := none, text := "t",
        priority := .default, depth := 0, hops := 1, deadline := none, version := 0 },
    delivery_id := ⟨9⟩, authorization := none }

/-- An event of the task of `sendInput`. -/
def sendEvent (id : EventId) (seq : Nat) (status : TaskStatus) (payload : TaskEventPayload) :
    TaskEvent :=
  { id := id, task_id := ⟨2⟩, seq := seq, status := status, timestamp := DateTime.ofSecs 1,
    payload := payload }

/-- A task enters the queue, is sent under a lease, the lease is released, and the task is paused
and resumed. -/
def sendRun : List BridgeCall :=
  [.queue (.admitQueuedWorkflow sendInput ⟨4⟩ 7 "workflow" (some "c") 1),
    .runtime (.acquire ⟨1⟩ ⟨2⟩ 3 (DateTime.ofSecs 0) 60000000000),
    .queue (.claimNext ⟨5⟩ ⟨1⟩ 3 1 "1970-01-01T00:00:01+00:00"),
    .queue (.markSendStarted ⟨7, ⟨2⟩, 1, 1⟩ ⟨1⟩ 3 "1970-01-01T00:00:02+00:00"),
    .runtime (.release ⟨⟨1⟩, ⟨2⟩, 3, 1, DateTime.ofSecs 60⟩ .released (DateTime.ofSecs 3)),
    .queue (.pauseTaskAfterReap ⟨2⟩ ⟨1⟩ 3 1 "1970-01-01T00:00:04+00:00"),
    .queue (.resumeTask ⟨2⟩ "1970-01-01T00:00:05+00:00")]

/-- The row of the run, claimed. -/
def claimedItem : WorkQueueRow :=
  (sendInput.queueRow 7 "workflow" (some "c") 1).claimedBy 3 1 "1970-01-01T00:00:01+00:00"

def sentItem : WorkQueueRow := claimedItem.started "1970-01-01T00:00:02+00:00"

theorem work_queue_sendRun :
    FreshOwners sendRun ∧ ∃ j, 3 < j ∧ j < 7 ∧ ∃ resource owner fence now,
      sendRun[j]? = some (.queue (.pauseTaskAfterReap ⟨2⟩ resource owner fence now)) ∧
      sentItem.runtime_owner = some owner ∧ sentItem.owner_fence = some fence ∧
      (∃ p ∈ (bridgeAt noFiles sendRun (j + 1)).agentWorkQueue.rows, p.queue_id = 7 ∧
        p.state = .paused) ∧
      ∀ l ∈ (bridgeAt noFiles sendRun j).executionLeases.rows, l.owner_token = owner →
        l.fence = fence → l.liveAt now = false := by
  have hfresh : FreshOwners sendRun := by decide
  have hclaimed : claimedItem ∈ (bridgeAt noFiles sendRun 3).agentWorkQueue.rows := by
    decide
  have hsent : sentItem ∈ (bridgeAt noFiles sendRun 4).agentWorkQueue.rows := by
    decide
  have hqueued : (sentItem.paused "1970-01-01T00:00:04+00:00").requeued 2
      "1970-01-01T00:00:05+00:00" ∈ (bridgeAt noFiles sendRun 7).agentWorkQueue.rows := by
    decide +kernel
  exact ⟨hfresh, (work_queue noFiles sendRun).2.2.2 hfresh 3 7 (by decide) _ hclaimed _ hsent _
    hqueued rfl rfl rfl rfl (Or.inl rfl)⟩

end GuiguBridge
