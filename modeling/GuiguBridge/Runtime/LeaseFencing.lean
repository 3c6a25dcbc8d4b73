import GuiguBridge.Lib.Fencing
import GuiguBridge.Runtime.Frame

/-!
# Lease fencing

Eight statements with slightly different `WHERE` clauses guard the leases.  Read through the
library of fenced locks, each resource is one cell and each call moves it:

* `LeaseStep` — everything one call can do to the leases and the workspace claims;
* `step_leaseStep` — every call of the system is a `LeaseStep`;
* `LeaseStep.move` — and hence a `Fencing.Move` of every resource;
* `StaleRefused`, `Lease.Stale.refused` — a call under a lease whose fence is not the resource's
  own fails and writes nothing;
* `lease_fencing` — the result over whole runs.
-/

namespace GuiguBridge

open Relational

/-- The phase of a lease row as a fenced lock. -/
def LeaseState.phase : LeaseState → Fencing.Phase
  | .active => .held
  | .released => .free
  | .recoveryNeeded => .suspect

/-- A lease row as a fenced lock, owned by a task under an owner token. -/
def LeaseRow.cell (l : LeaseRow) : Fencing.Cell (TaskId × Uuid) :=
  ⟨(l.task_id, l.owner_token), l.fence, l.state.phase⟩

/-- The lock of a resource. -/
def Db.cell (db : Db) (resource : ResourceKey) : Option (Fencing.Cell (TaskId × Uuid)) :=
  (db.executionLeases.get resource).map LeaseRow.cell

/-- The current fence of a resource; `0` before its first lease. -/
def Db.fenceOf (db : Db) (resource : ResourceKey) : Nat := Fencing.token (db.cell resource)

/-- The active claims after the claims of `lease` ended. -/
def ClaimsEnded (lease : Lease) (db db' : Db) : Prop :=
  ∀ c : ClaimRow, c.state = .active →
    (c ∈ db'.workspaceClaims.rows ↔ c ∈ db.workspaceClaims.rows ∧ ¬ lease.Holds c)

/-- The components of the claim are the canonical ones of the path it was made for. -/
def ClaimRow.Resolved (fs : FileSystem) (c : ClaimRow) : Prop :=
  ∃ path, fs.toStringLossy path = c.canonical_path ∧
    pathComponents fs path = .ok c.path_components

/-- What one call does to the leases and the workspace claims. -/
inductive LeaseStep (fs : FileSystem) (db db' : Db) : Prop where
  | same (hleases : db'.executionLeases = db.executionLeases)
      (hclaims : db'.workspaceClaims = db.workspaceClaims)
  | granted (resource : ResourceKey) (l : LeaseRow)
      (hfree : ∀ l₀, db.executionLeases.get resource = some l₀ → l₀.state = .released)
      (hfence : l.fence = db.fenceOf resource + 1) (hactive : l.state = .active)
      (hputs : db.executionLeases.Puts resource l db'.executionLeases)
      (hclaims : db'.workspaceClaims = db.workspaceClaims)
  | renewed (resource : ResourceKey) (l l' : LeaseRow)
      (hl : db.executionLeases.get resource = some l)
      (hputs : db.executionLeases.Puts resource l' db'.executionLeases)
      (hcell : l'.cell = l.cell)
      (hclaims : db'.workspaceClaims = db.workspaceClaims)
  | ended (resource : ResourceKey) (l l' : LeaseRow)
      (hl : db.executionLeases.get resource = some l) (hactive : l.state = .active)
      (hputs : db.executionLeases.Puts resource l' db'.executionLeases)
      (hsame : l'.task_id = l.task_id ∧ l'.owner_token = l.owner_token ∧ l'.fence = l.fence)
      (hclaims : db'.workspaceClaims = db.workspaceClaims)
  | released (lease : Lease) (l l' : LeaseRow)
      (hl : db.executionLeases.get lease.resource = some l) (howns : lease.Owns l)
      (hputs : db.executionLeases.Puts lease.resource l' db'.executionLeases)
      (hsame : l'.task_id = l.task_id ∧ l'.owner_token = l.owner_token ∧ l'.fence = l.fence)
      (hclaims : ClaimsEnded lease db db')
  | claimed (lease : Lease) (new : List ClaimRow)
      (hleases : db'.executionLeases = db.executionLeases)
      (hnew : ∀ c ∈ new, lease.Holds c ∧ c.state = .active ∧ c.Resolved fs)
      (hfree : ∀ c ∈ new, ∀ x ∈ db.workspaceClaims.rows, x.state = .active →
        overlaps c.path_components x.path_components = false)
      (hclaims : db'.workspaceClaims.rows = db.workspaceClaims.rows ++ new)

section

variable [Externals] {fs : FileSystem}

/-! ### Every call is a lease step -/

theorem acquire_leaseStep {resource : ResourceKey} {task_id : TaskId} {owner : Uuid}
    {now : DateTime} {ttl : Duration} {db db' : Db} {r : Except RuntimeError AcquireOutcome}
    (h : acquire resource task_id owner now ttl db = (r, db')) : LeaseStep fs db db' := by
  rcases acquire_cases h with ⟨rfl, -⟩ | ⟨e, t, rfl, -, hnone, hputs⟩ |
    ⟨l, t, rfl, -, hl, hact, -, hputs⟩ | ⟨l, e, t, rfl, -, hl, hrel, hputs⟩
  · exact .same rfl rfl
  · refine .granted resource _ ?_ ?_ rfl hputs rfl
    · intro l₀ hl₀
      rw [hnone] at hl₀
      cases hl₀
    · simp [Db.fenceOf, Db.cell, hnone, Fencing.token]
  · exact .ended resource l _ hl hact hputs ⟨rfl, rfl, rfl⟩ rfl
  · refine .granted resource _ ?_ ?_ rfl hputs rfl
    · intro l₀ hl₀
      rw [hl] at hl₀
      cases hl₀
      exact hrel
    · simp [Db.fenceOf, Db.cell, hl, Fencing.token, LeaseRow.cell]

theorem renew_leaseStep {lease : Lease} {now : DateTime} {ttl : Duration} {db db' : Db}
    {r : Except RuntimeError Lease} (h : renew lease now ttl db = (r, db')) :
    LeaseStep fs db db' := by
  rcases renew_cases h with ⟨rfl, -⟩ | ⟨l, e, t, rfl, -, hl, -, hputs⟩
  · exact .same rfl rfl
  · exact .renewed lease.resource l _ hl hputs rfl rfl

theorem release_leaseStep {lease : Lease} {disposition : ReleaseDisposition} {now : DateTime}
    {db db' : Db} {r : Except RuntimeError Unit}
    (h : release lease disposition now db = (r, db')) : LeaseStep fs db db' := by
  rcases release_cases h with ⟨rfl, -⟩ | ⟨l, st, t, c, rfl, -, hl, hown, -, hputs, hclaims⟩
  · exact .same rfl rfl
  · exact .released lease l _ hl hown hputs ⟨rfl, rfl, rfl⟩ hclaims

theorem claimWorkspaces_leaseStep {lease : Lease} {paths : List PathBuf}
    {newId : Nat → Uuid} {db db' : Db} {r : Except RuntimeError Unit}
    (h : claimWorkspaces fs lease paths newId db = (r, db')) : LeaseStep fs db db' := by
  rcases claimWorkspaces_cases h with
    ⟨rfl, -⟩ | ⟨candidates, new, t, rfl, -, hcand, hrows, hnew, hfree⟩
  · exact .same rfl rfl
  · refine .claimed lease new rfl ?_ hfree hrows
    intro c hc
    obtain ⟨hholds, hactive, hmem⟩ := hnew c hc
    obtain ⟨path, -, htext, hcomponents⟩ := mem_claimCandidates hcand hmem
    exact ⟨hholds, hactive, path, htext, hcomponents⟩

theorem finish_leaseStep {seen : Db} {lease : Lease} {revision : Nat} {generation : String}
    {state : ContinuationState} {observed_bytes : Nat} {now : DateTime} {db db' : Db}
    {r : Except RuntimeError Unit}
    (h : finishWithGeneration seen lease revision generation state observed_bytes now db =
      (r, db')) : LeaseStep fs db db' := by
  rcases finishWithGeneration_cases h with
    ⟨rfl, -⟩ | ⟨l, st, t, c, d, rfl, -, hl, -, hown, -, hputs⟩
  · exact .same rfl rfl
  · exact .ended lease.resource l _ hl hown.2.2 hputs ⟨rfl, rfl, rfl⟩ rfl

theorem finalizeTerminal_leaseStep {seen : Db} {lease : Lease} {revision : Nat}
    {generation : String} {state : ContinuationState} {observed_bytes : Nat}
    {event : TaskEvent} {now : DateTime} {db db' : Db} {r : Except RuntimeError FinalizeResult}
    (h : finalizeTerminal seen lease revision generation state observed_bytes event now db =
      (r, db')) : LeaseStep fs db db' := by
  rcases finalizeTerminal_cases h with ⟨rfl, -⟩ | ⟨-, h⟩
  · exact .same rfl rfl
  · obtain ⟨l, hl, -, hown, hputs⟩ := h.lease_ended
    exact .released lease l _ hl hown hputs ⟨rfl, rfl, rfl⟩ h.claims_ended

/-- **Every call of the system is a lease step.** -/
theorem step_leaseStep (db : Db) (call : Call) :
    LeaseStep fs db (step fs db call) := by
  have hsame (hl : call.writes.contains .executionLeases = false)
      (hc : call.writes.contains .workspaceClaims = false) :
      LeaseStep fs db (step fs db call) :=
    .same (step_frame fs db call .executionLeases hl) (step_frame fs db call .workspaceClaims hc)
  cases call with
  | acquire resource task_id owner now ttl => exact acquire_leaseStep rfl
  | renew lease now ttl => exact renew_leaseStep rfl
  | claimWorkspaces lease paths newId => exact claimWorkspaces_leaseStep rfl
  | release lease disposition now => exact release_leaseStep rfl
  | finish seen lease revision generation state observed_bytes now =>
    exact finish_leaseStep rfl
  | finalizeTerminal seen lease revision generation state observed_bytes event now =>
    exact finalizeTerminal_leaseStep rfl
  | _ => exact hsame rfl rfl

/-! ### Every call moves every lock -/

omit [Externals] in
theorem cell_of_puts {db db' : Db} {resource : ResourceKey} {l : LeaseRow}
    (h : db.executionLeases.Puts resource l db'.executionLeases) (k : ResourceKey) :
    db'.cell k = if k = resource then some l.cell else db.cell k := by
  unfold Db.cell
  rw [h k]
  split <;> rfl

omit [Externals] in
theorem cell_of_get {db : Db} {resource : ResourceKey} {l : LeaseRow}
    (h : db.executionLeases.get resource = some l) : db.cell resource = some l.cell := by
  simp [Db.cell, h]

omit [Externals] in
/-- The end of an active lease is a `leave` of its lock. -/
theorem leave_of_same {l l' : LeaseRow} (hactive : l.state = .active)
    (hsame : l'.task_id = l.task_id ∧ l'.owner_token = l.owner_token ∧ l'.fence = l.fence) :
    Fencing.Move (some l.cell) (some l'.cell) := by
  have hcell : l'.cell = { l.cell with phase := l'.state.phase } := by
    simp [LeaseRow.cell, hsame.1, hsame.2.1, hsame.2.2]
  rw [hcell]
  exact .leave l.cell _ (by simp [LeaseRow.cell, hactive, LeaseState.phase])

omit [Externals] in
/-- **A lease step moves the lock of every resource.** -/
theorem LeaseStep.move {db db' : Db} (h : LeaseStep fs db db') (k : ResourceKey) :
    Fencing.Move (db.cell k) (db'.cell k) := by
  cases h with
  | same hleases hclaims =>
    have hk : db'.cell k = db.cell k := by simp [Db.cell, hleases]
    rw [hk]
    exact .stay _
  | granted resource l hfree hfence hactive hputs hclaims =>
    rw [cell_of_puts hputs k]
    by_cases hk : k = resource
    · subst hk
      have hcell : l.cell = ⟨(l.task_id, l.owner_token), db.fenceOf k + 1, .held⟩ := by
        simp [LeaseRow.cell, hactive, hfence, LeaseState.phase]
      rw [if_pos rfl, hcell]
      refine .grant _ _ ?_
      intro x hx
      obtain ⟨l₀, hl₀, rfl⟩ := Option.map_eq_some_iff.mp hx
      simp [LeaseRow.cell, hfree l₀ hl₀, LeaseState.phase]
    · rw [if_neg hk]
      exact .stay _
  | renewed resource l l' hl hputs hcell hclaims =>
    rw [cell_of_puts hputs k]
    by_cases hk : k = resource
    · subst hk
      rw [if_pos rfl, hcell, cell_of_get hl]
      exact .stay _
    · rw [if_neg hk]
      exact .stay _
  | ended resource l l' hl hactive hputs hsame hclaims =>
    rw [cell_of_puts hputs k]
    by_cases hk : k = resource
    · subst hk
      rw [if_pos rfl, cell_of_get hl]
      exact leave_of_same hactive hsame
    · rw [if_neg hk]
      exact .stay _
  | released lease l l' hl howns hputs hsame hclaims =>
    rw [cell_of_puts hputs k]
    by_cases hk : k = lease.resource
    · subst hk
      rw [if_pos rfl, cell_of_get hl]
      exact leave_of_same howns.2.2 hsame
    · rw [if_neg hk]
      exact .stay _
  | claimed lease new hleases hnew hfree hclaims =>
    have hk : db'.cell k = db.cell k := by simp [Db.cell, hleases]
    rw [hk]
    exact .stay _

/-- The fence of a resource never goes back. -/
theorem fenceOf_mono (resource : ResourceKey) (calls : List Call) (db : Db) :
    db.fenceOf resource ≤ (runFrom fs db calls).fenceOf resource := by
  refine runFrom_invariant (fun d => db.fenceOf resource ≤ d.fenceOf resource) ?_ calls
    (Nat.le_refl _)
  intro d call hd
  exact Nat.le_trans hd ((step_leaseStep d call).move resource).token_le

/-! ### Acquiring -/

/-- A successful `acquire` shows the next fence, in the lease and in the row. -/
theorem acquire_acquired {resource : ResourceKey} {task_id : TaskId} {owner : Uuid}
    {now : DateTime} {ttl : Duration} {db db' : Db} {lease : Lease}
    (h : acquire resource task_id owner now ttl db = (.ok (.acquired lease), db')) :
    lease.resource = resource ∧ lease.task_id = task_id ∧ lease.owner = owner ∧
      lease.fence = db.fenceOf resource + 1 ∧
      db'.cell resource = some ⟨(task_id, owner), lease.fence, .held⟩ := by
  rcases acquire_cases h with ⟨-, hne⟩ | ⟨e, t, rfl, hr, hnone, hputs⟩ |
    ⟨l, t, -, hr, -⟩ | ⟨l, e, t, rfl, hr, hl, hrel, hputs⟩
  · exact absurd rfl (hne lease)
  · cases hr
    refine ⟨rfl, rfl, rfl, ?_, ?_⟩
    · simp [Db.fenceOf, Db.cell, hnone, Fencing.token]
    · rw [cell_of_puts hputs, if_pos rfl]
      rfl
  · cases hr
  · cases hr
    refine ⟨rfl, rfl, rfl, ?_, ?_⟩
    · simp [Db.fenceOf, Db.cell, hl, Fencing.token, LeaseRow.cell]
    · rw [cell_of_puts hputs, if_pos rfl]
      rfl

/-- While a lease is active `acquire` hands it to nobody: the row keeps its task, owner and
fence, and an expired one is left for recovery. -/
theorem acquire_active {resource : ResourceKey} {task_id : TaskId} {owner : Uuid}
    {now : DateTime} {ttl : Duration} {db db' : Db} {r : Except RuntimeError AcquireOutcome}
    {l : LeaseRow} (h : acquire resource task_id owner now ttl db = (r, db'))
    (hl : db.executionLeases.get resource = some l) (hactive : l.state = .active) :
    (∀ lease, r ≠ .ok (.acquired lease)) ∧
      ∃ l', db'.executionLeases.get resource = some l' ∧ l'.task_id = l.task_id ∧
        l'.owner_token = l.owner_token ∧ l'.fence = l.fence ∧
        (l' = l ∨ (l'.state = .recoveryNeeded ∧ r = .ok .recoveryNeeded)) := by
  rcases acquire_cases h with ⟨rfl, hne⟩ | ⟨e, t, -, -, hnone, -⟩ |
    ⟨l₀, t, rfl, hr, hl₀, -, -, hputs⟩ | ⟨l₀, e, t, -, -, hl₀, hrel, -⟩
  · exact ⟨hne, l, hl, rfl, rfl, rfl, Or.inl rfl⟩
  · rw [hnone] at hl
    cases hl
  · rw [hl₀] at hl
    cases hl
    have hget : t.get resource =
        some { l with state := .recoveryNeeded, heartbeat_at := ts now } := by
      rw [hputs resource, if_pos rfl]
    exact ⟨by rw [hr]; simp, _, hget, rfl, rfl, rfl, Or.inr ⟨rfl, hr⟩⟩
  · rw [hl₀] at hl
    cases hl
    rw [hactive] at hrel
    cases hrel

/-- An active lease that has run out becomes `recovery_needed`, whoever asks. -/
theorem acquire_expired {resource : ResourceKey} {task_id : TaskId} {owner : Uuid}
    {now : DateTime} {ttl : Duration} {db : Db} {l : LeaseRow} {x e : DateTime}
    (hadd : add now ttl = some x) (hl : db.executionLeases.get resource = some l)
    (hactive : l.state = .active) (he : Externals.parseDateTime l.expires_at = some e)
    (hle : e ≤ now) :
    (acquire resource task_id owner now ttl db).1 = .ok .recoveryNeeded ∧
      (acquire resource task_id owner now ttl db).2.executionLeases.get resource =
        some { l with state := .recoveryNeeded, heartbeat_at := ts now } := by
  have hkey : l.resource_key = resource := Table.key_of_get hl
  have hins : db.executionLeases.insert
      ⟨resource, task_id, owner, 1, .active, ts now, ts now, ts x⟩ = none :=
    Table.insert_eq_none hl
  simp only [acquire, Tx.commit, Tx.bind_apply, hadd, Tx.orElse_some,
    Tx.insertOrIgnore_taken (l := Db.executionLeasesL) (s := db) hins, Nat.zero_ne_one, if_false,
    Tx.read_apply, hl, hactive, he, hle, if_true, Tx.update_apply, Tx.pure_apply, true_and]
  rw [Table.get_updateWhere, hl]
  simp [hkey, hactive]

/-! ### A stale lease -/

/-- The fence of the lease is not the resource's current one. -/
def Lease.Stale (lease : Lease) (db : Db) : Prop :=
  ∀ l, db.executionLeases.get lease.resource = some l → l.fence ≠ lease.fence

omit [Externals] in
theorem Lease.Stale.not_owns {lease : Lease} {db : Db} (h : lease.Stale db) {l : LeaseRow}
    (hl : db.executionLeases.get lease.resource = some l) : ¬ lease.Owns l :=
  fun howns => h l hl howns.2.1

/-- A failed call: an error, and every row as it was. -/
def Refused {α : Type} (result : Except RuntimeError α × Db) (db : Db) : Prop :=
  (∃ e, result.1 = .error e) ∧ result.2 = db

omit [Externals] in
theorem TurnStep.stale {α : Type} {lease : Lease} {db db' : Db} {r : Except RuntimeError α}
    (h : TurnStep lease db db' r) (hstale : lease.Stale db) : Refused (r, db') db := by
  rcases h with ⟨hdb, hr⟩ | ⟨⟨l, hl, -, hown⟩, -⟩
  · exact ⟨hr, hdb⟩
  · exact absurd hown (hstale.not_owns hl)

theorem renew_stale {lease : Lease} {db : Db} (hstale : lease.Stale db) (now : DateTime)
    (ttl : Duration) : Refused (renew lease now ttl db) db := by
  rcases renew_cases (show renew lease now ttl db = _ from rfl) with
    ⟨hdb, hr⟩ | ⟨l, e, t, -, -, hl, hown, -⟩
  · exact ⟨hr, hdb⟩
  · exact absurd hown (hstale.not_owns hl)

theorem release_stale {lease : Lease} {db : Db} (hstale : lease.Stale db)
    (disposition : ReleaseDisposition) (now : DateTime) :
    Refused (release lease disposition now db) db := by
  rcases release_cases (show release lease disposition now db = _ from rfl) with
    ⟨hdb, hr⟩ | ⟨l, st, t, c, -, -, hl, hown, -⟩
  · exact ⟨hr, hdb⟩
  · exact absurd hown (hstale.not_owns hl)

theorem finish_stale {lease : Lease} {db : Db} (hstale : lease.Stale db) (seen : Db)
    (revision : Nat) (generation : String) (state : ContinuationState) (observed_bytes : Nat)
    (now : DateTime) :
    Refused (finishWithGeneration seen lease revision generation state observed_bytes now db)
      db := by
  rcases finishWithGeneration_cases (show finishWithGeneration seen lease revision generation
    state observed_bytes now db = _ from rfl) with
    ⟨hdb, hr⟩ | ⟨l, st, t, c, d, -, -, hl, -, hown, -⟩
  · exact ⟨hr, hdb⟩
  · exact absurd hown (hstale.not_owns hl)

theorem finalizeTerminal_stale {lease : Lease} {db : Db} (hstale : lease.Stale db) (seen : Db)
    (revision : Nat) (generation : String) (state : ContinuationState) (observed_bytes : Nat)
    (event : TaskEvent) (now : DateTime) :
    (finalizeTerminal seen lease revision generation state observed_bytes event now db).1 ≠
        .ok .committed ∧
      (finalizeTerminal seen lease revision generation state observed_bytes event now db).2 =
        db := by
  rcases finalizeTerminal_cases (show finalizeTerminal seen lease revision generation state
    observed_bytes event now db = _ from rfl) with ⟨hdb, hr⟩ | ⟨-, h⟩
  · exact ⟨hr, hdb⟩
  · obtain ⟨l, hl, -, hown, -⟩ := h.lease_ended
    exact absurd hown (hstale.not_owns hl)

/-- Every operation that checks a lease refuses this one and writes nothing; only
`claim_workspaces` checks none. -/
structure StaleRefused (lease : Lease) (db : Db) : Prop where
  renew : ∀ now ttl, Refused (renew lease now ttl db) db
  release : ∀ disposition now, Refused (release lease disposition now db) db
  beginContinuation : ∀ delivery_id prompt now,
    Refused (beginContinuation lease delivery_id prompt now db) db
  claimTurn : ∀ seen revision now, Refused (claimTurn seen lease revision now db) db
  claimTurnWithGeneration : ∀ seen revision generation now,
    Refused (claimTurnWithGeneration seen lease revision generation now db) db
  recordContinue : ∀ seen revision next_prompt observed_bytes now,
    Refused (recordContinue seen lease revision next_prompt observed_bytes now db) db
  recordContinueWithReceipt : ∀ seen revision generation next_prompt observed_bytes outcome
    response now,
    Refused (recordContinueWithReceipt seen lease revision generation next_prompt
      observed_bytes outcome response now db) db
  recordActivity : ∀ revision generation observed_bytes now,
    Refused (recordActivityWithGeneration lease revision generation observed_bytes now db) db
  finish : ∀ seen revision generation state observed_bytes now,
    Refused (finishWithGeneration seen lease revision generation state observed_bytes now db)
      db
  finalizeTerminal : ∀ seen revision generation state observed_bytes event now,
    (finalizeTerminal seen lease revision generation state observed_bytes event now db).1 ≠
        .ok .committed ∧
      (finalizeTerminal seen lease revision generation state observed_bytes event now db).2 =
        db

theorem Lease.Stale.refused {lease : Lease} {db : Db} (h : lease.Stale db) :
    StaleRefused lease db where
  renew := renew_stale h
  release := release_stale h
  beginContinuation := fun _ _ _ => (beginContinuation_cases rfl).stale h
  claimTurn := fun _ _ _ => (claimTurnWhere_cases rfl).stale h
  claimTurnWithGeneration := fun _ _ _ _ => (claimTurnWhere_cases rfl).stale h
  recordContinue := fun _ _ _ _ _ => (recordContinue_cases rfl).stale h
  recordContinueWithReceipt := fun _ _ _ _ _ _ _ _ =>
    (recordContinueWithReceipt_cases rfl).stale h
  recordActivity := fun _ _ _ _ => (recordActivityWithGeneration_cases rfl).stale h
  finish := finish_stale h
  finalizeTerminal := finalizeTerminal_stale h

/-- **Lease fencing (proved).**  In every state of every run: a successful `acquire` shows a
fence above the resource's last one, and below that of every later acquisition; a resource
has at most one active owner and fence; a lease with another fence than the current one is
refused by every operation without a trace; and an active lease is never handed over, an
expired one becoming `recovery_needed`. -/
theorem lease_fencing (fs : FileSystem) (calls : List Call) :
    (∀ resource task_id owner now ttl lease db',
      acquire resource task_id owner now ttl (run fs calls) = (.ok (.acquired lease), db') →
      lease.resource = resource ∧ (run fs calls).fenceOf resource < lease.fence ∧
        db'.fenceOf resource = lease.fence ∧
        ∀ later task_id' owner' now' ttl' lease' db'',
          acquire resource task_id' owner' now' ttl' (runFrom fs db' later) =
            (.ok (.acquired lease'), db'') → lease.fence < lease'.fence) ∧
    (∀ l ∈ (run fs calls).executionLeases.rows, ∀ l' ∈ (run fs calls).executionLeases.rows,
      l.resource_key = l'.resource_key → l.state = .active → l'.state = .active →
      l.owner_token = l'.owner_token ∧ l.fence = l'.fence) ∧
    (∀ lease, lease.Stale (run fs calls) → StaleRefused lease (run fs calls)) ∧
    (∀ resource l, (run fs calls).executionLeases.get resource = some l →
      l.state = .active → ∀ task_id owner now ttl,
      (∀ lease, (acquire resource task_id owner now ttl (run fs calls)).1 ≠
        .ok (.acquired lease)) ∧
      ∀ x e, add now ttl = some x → Externals.parseDateTime l.expires_at = some e → e ≤ now →
        (acquire resource task_id owner now ttl (run fs calls)).1 = .ok .recoveryNeeded ∧
        (acquire resource task_id owner now ttl (run fs calls)).2.executionLeases.get
          resource = some { l with state := .recoveryNeeded, heartbeat_at := ts now }) := by
  refine ⟨?_, ?_, fun lease h => h.refused, ?_⟩
  · intro resource task_id owner now ttl lease db' h
    obtain ⟨hres, -, -, hfence, hcell⟩ := acquire_acquired h
    have hdb' : db'.fenceOf resource = lease.fence := by simp [Db.fenceOf, hcell, Fencing.token]
    refine ⟨hres, by omega, hdb', ?_⟩
    intro later task_id' owner' now' ttl' lease' db'' h'
    obtain ⟨-, -, -, hfence', -⟩ := acquire_acquired h'
    have hmono : db'.fenceOf resource ≤ (runFrom fs db' later).fenceOf resource :=
      fenceOf_mono resource later db'
    omega
  · intro l hl l' hl' hkey _ _
    have heq := (run fs calls).executionLeases.eq_of_key_eq hl hl' hkey
    rw [heq]
    exact ⟨rfl, rfl⟩
  · intro resource l hl hactive task_id owner now ttl
    exact ⟨(acquire_active (show acquire resource task_id owner now ttl (run fs calls) = _ from
      rfl) hl hactive).1, fun x e hadd he hle => acquire_expired hadd hl hactive he hle⟩

end

end GuiguBridge
