import GuiguBridge.Storage.Codec

/-!
# Execution leases and workspace claims

The statements of `SqliteRuntimeStore` that grant, extend and end an exclusive lease, and the
claims on workspace paths taken under it (`src/src/runtime/mod.rs`, `acquire` to `release`).

Every operation is a call `Db → Result × Db`.  A call that returns early leaves the store as
it was; a call that SQLite refuses (locked, foreign key, disk) does the same with an error of
its own, and is the step `refused` of the runs in `GuiguBridge.Runtime.System`.

* `acquire` — insert a first lease, take over a released one, or find it busy; **an active
  lease that has expired becomes `recovery_needed`, never the caller's**;
* `renew`, `release` — extend or end the lease that the caller still owns;
* `pathComponents`, `overlaps`, `claimWorkspaces` — the exclusion of overlapping paths.
-/

namespace GuiguBridge

open Relational

/-- What SQLite reports when a statement fails. -/
inductive StorageError where
  | constraint | rowNotFound | unavailable
  deriving DecidableEq

inductive PolicyLimit where
  | turns | deadline | inactivity | noProgress | outputBytes
  deriving DecidableEq

inductive RuntimeError where
  | workspace
  | storage (source : StorageError)
  | malformed
  | fenced
  | busy
  | expired
  | exhausted (limit : PolicyLimit)
  | continuation
  deriving DecidableEq

structure Lease where
  resource : ResourceKey
  task_id : TaskId
  owner : Uuid
  fence : Nat
  expires_at : DateTime
  deriving DecidableEq

inductive AcquireOutcome where
  | acquired (lease : Lease)
  | busy
  | recoveryNeeded
  deriving DecidableEq

inductive ReleaseDisposition where
  | released | recoveryNeeded
  deriving DecidableEq

section

variable [Externals]

/-- `add`: when a lease of length `v` taken now runs out. -/
def add (now : DateTime) (v : Duration) : Option DateTime := Externals.checkedAdd now v

/-! ### Leases -/

/-- `SqliteRuntimeStore::acquire`; `owner` is the fresh token of this call. -/
def acquire (resource : ResourceKey) (task_id : TaskId) (owner : Uuid) (now : DateTime)
    (ttl : Duration) (db : Db) : Except RuntimeError AcquireOutcome × Db :=
  Tx.commit .error (do
    let expires ← Tx.orElse (add now ttl) .malformed
    let inserted ← Tx.insertOrIgnore Db.executionLeasesL
      { resource_key := resource, task_id := task_id, owner_token := owner, fence := 1,
        state := .active, acquired_at := ts now, heartbeat_at := ts now,
        expires_at := ts expires }
    if inserted = 1 then
      pure (.ok (.acquired ⟨resource, task_id, owner, 1, expires⟩))
    else do
      let found ← Tx.read fun db => db.executionLeases.get resource
      let row ← Tx.orElse found .malformed
      match row.state with
      | .active => do
        let expired ← Tx.orElse (Externals.parseDateTime row.expires_at) .malformed
        if expired ≤ now then do
          let _ ← Tx.update Db.executionLeasesL
            (fun l => decide (l.resource_key = resource ∧ l.state = .active ∧
              l.fence = row.fence))
            (fun l => { l with state := .recoveryNeeded, heartbeat_at := ts now })
          pure (.ok .recoveryNeeded)
        else pure (.ok .busy)
      | .recoveryNeeded => pure (.ok .recoveryNeeded)
      | .released => do
        let fence ← Tx.orElse (toI64 (row.fence + 1)) .malformed
        let n ← Tx.update Db.executionLeasesL
          (fun l => decide (l.resource_key = resource ∧ l.state = .released ∧
            l.fence = row.fence))
          (fun l => { l with task_id := task_id, owner_token := owner, fence := fence,
                             state := .active, acquired_at := ts now, heartbeat_at := ts now,
                             expires_at := ts expires })
        Tx.require (n = 1) .fenced
        pure (.ok (.acquired ⟨resource, task_id, owner, fence, expires⟩))) db

/-- `SqliteRuntimeStore::renew`. -/
def renew (lease : Lease) (now : DateTime) (ttl : Duration) (db : Db) :
    Except RuntimeError Lease × Db :=
  Tx.commit .error (do
    Tx.require (¬ lease.expires_at ≤ now) .expired
    let expires ← Tx.orElse (add now ttl) .malformed
    let fence ← Tx.orElse (toI64 lease.fence) .malformed
    let n ← Tx.update Db.executionLeasesL
      (fun l => decide (l.resource_key = lease.resource ∧ l.owner_token = lease.owner ∧
        l.fence = fence ∧ l.state = .active ∧ ts now < l.expires_at))
      (fun l => { l with heartbeat_at := ts now, expires_at := ts expires })
    Tx.require (n = 1) .fenced
    pure (.ok { lease with expires_at := expires })) db

/-- The claims taken under `lease` are deleted, or handed to recovery. -/
def endClaims {ρ : Type} (lease : Lease) (fence : Nat) (released : Bool) (now : DateTime) :
    Tx Db ρ Unit :=
  if released then
    Tx.delete Db.workspaceClaimsL
      (fun c => decide (c.runtime_owner = lease.owner ∧ c.task_id = lease.task_id ∧
        c.owner_fence = fence ∧ c.state = .active))
  else do
    let _ ← Tx.update Db.workspaceClaimsL
      (fun c => decide (c.runtime_owner = lease.owner ∧ c.task_id = lease.task_id ∧
        c.owner_fence = fence ∧ c.state = .active))
      (fun c => { c with state := .recoveryNeeded, revision := c.revision + 1,
                         updated_at := ts now })
    pure ()

/-- `SqliteRuntimeStore::release`: end the lease and, with it, the claims taken under it. -/
def release (lease : Lease) (disposition : ReleaseDisposition) (now : DateTime) (db : Db) :
    Except RuntimeError Unit × Db :=
  Tx.commit .error (do
    let fence ← Tx.orElse (toI64 lease.fence) .malformed
    let n ← Tx.update Db.executionLeasesL
      (fun l => decide (l.resource_key = lease.resource ∧ l.owner_token = lease.owner ∧
        l.fence = fence ∧ l.state = .active))
      (fun l => { l with
        state := match disposition with
          | .released => .released
          | .recoveryNeeded => .recoveryNeeded
        heartbeat_at := ts now, expires_at := ts now })
    Tx.require (n = 1) .fenced
    endClaims lease fence (disposition = .released) now
    pure (.ok ())) db

/-! ### Workspace claims -/

/-- `path_components`: the components of the canonical directory a path names. -/
def pathComponents (fs : FileSystem) (path : PathBuf) : Except RuntimeError (List String) :=
  match fs.canonicalize path with
  | none => .error .workspace
  | some canonical =>
    if canonical.isDir then
      canonical.components.mapM fun component =>
        match component with
        | some text => .ok text
        | none => .error .workspace
    else .error .workspace

/-- `overlaps`: one component list starts with the other. -/
def overlaps (left right : List String) : Bool :=
  right.isPrefixOf left || left.isPrefixOf right

/-- The paths to claim with their components, in order; the first path that does not
resolve ends the call. -/
def claimCandidates (fs : FileSystem) (paths : List PathBuf) :
    Except RuntimeError (List (String × List String)) :=
  paths.mapM fun path => (pathComponents fs path).map fun cs => (fs.toStringLossy path, cs)

/-- The row of a new claim. -/
def newClaim (lease : Lease) (claim_id : Uuid) (fence : Nat) (path : String)
    (components : List String) : ClaimRow :=
  { claim_id := claim_id, runtime_owner := lease.owner, task_id := lease.task_id,
    canonical_path := path, path_components := components, owner_fence := fence,
    revision := 1, state := .active, created_at := ts lease.expires_at,
    updated_at := ts lease.expires_at }

/-- One row a candidate; `newId` draws the fresh claim identities in order. -/
def insertClaims (lease : Lease) (newId : Nat → Uuid) :
    Nat → List (String × List String) → Tx Db RuntimeError Unit
  | _, [] => pure ()
  | i, (path, components) :: rest => do
    let fence ← Tx.orElse (toI64 lease.fence) .malformed
    Tx.require (1 ≤ fence) (.storage .constraint)
    Tx.insert Db.workspaceClaimsL (newClaim lease (newId i) fence path components)
      (.storage .constraint)
    insertClaims lease newId (i + 1) rest

/-- `SqliteRuntimeStore::claim_workspaces`. -/
def claimWorkspaces (fs : FileSystem) (lease : Lease) (paths : List PathBuf)
    (newId : Nat → Uuid) (db : Db) : Except RuntimeError Unit × Db :=
  Tx.commit .error (do
    let candidates ← Tx.ofExcept (claimCandidates fs paths)
    let rows ← Tx.read fun db => db.workspaceClaims.rows.filter (·.state = .active)
    Tx.require (!candidates.any fun c => rows.any fun r => overlaps c.2 r.path_components)
      .busy
    insertClaims lease newId 0 candidates
    pure (.ok ())) db

/-! ### What each call can do -/

/-- The lease has run out at `now`. -/
def LeaseRow.Expired (l : LeaseRow) (now : DateTime) : Prop :=
  ∃ e, Externals.parseDateTime l.expires_at = some e ∧ e ≤ now

/-- **Everything `acquire` can do.**  It leaves the store alone, grants a first lease, sends
an expired one to recovery, or grants a released one again under the next fence. -/
theorem acquire_cases {resource : ResourceKey} {task_id : TaskId} {owner : Uuid}
    {now : DateTime} {ttl : Duration} {db db' : Db} {r : Except RuntimeError AcquireOutcome}
    (h : acquire resource task_id owner now ttl db = (r, db')) :
    (db' = db ∧ ∀ l, r ≠ .ok (.acquired l)) ∨
    (∃ e t, db' = { db with executionLeases := t } ∧
      r = .ok (.acquired ⟨resource, task_id, owner, 1, e⟩) ∧
      db.executionLeases.get resource = none ∧
      db.executionLeases.Puts resource
        ⟨resource, task_id, owner, 1, .active, ts now, ts now, ts e⟩ t) ∨
    (∃ l t, db' = { db with executionLeases := t } ∧ r = .ok .recoveryNeeded ∧
      db.executionLeases.get resource = some l ∧ l.state = .active ∧ l.Expired now ∧
      db.executionLeases.Puts resource
        { l with state := .recoveryNeeded, heartbeat_at := ts now } t) ∨
    (∃ l e t, db' = { db with executionLeases := t } ∧
      r = .ok (.acquired ⟨resource, task_id, owner, l.fence + 1, e⟩) ∧
      db.executionLeases.get resource = some l ∧ l.state = .released ∧
      db.executionLeases.Puts resource
        { l with task_id := task_id, owner_token := owner, fence := l.fence + 1,
                 state := .active, acquired_at := ts now, heartbeat_at := ts now,
                 expires_at := ts e } t) := by
  rcases Tx.commit_cases h with hok | ⟨hdb, e, _, hr⟩
  · obtain ⟨e, s₁, h₁, n, s₂, h₂, h₃⟩ := by
      simpa only [Tx.bind_ok] using hok
    obtain ⟨_, rfl⟩ := Tx.orElse_ok.1 h₁
    rcases Tx.insertOrIgnore_ok.1 h₂ with ⟨rfl, t, hins, rfl⟩ | ⟨rfl, -, rfl⟩
    · obtain ⟨hr, hdb⟩ := Tx.pure_ok.1 h₃
      obtain ⟨hnone, hputs⟩ := Table.insert_puts hins
      exact Or.inr (Or.inl ⟨e, t, hdb.symm, hr.symm, hnone, hputs⟩)
    · -- the key is taken, and the call reads the row that holds it
      simp only [Nat.zero_ne_one, if_false, Tx.bind_ok, Tx.read_ok, Tx.orElse_ok] at h₃
      obtain ⟨_, _, ⟨rfl, rfl⟩, l, _, ⟨hl, rfl⟩, h₄⟩ := h₃
      have hkey : l.resource_key = resource := Table.key_of_get hl
      cases hst : l.state with
      | active =>
        simp only [hst, Tx.bind_ok, Tx.orElse_ok, Tx.ite_ok, Tx.update_ok, Tx.pure_ok] at h₄
        obtain ⟨x, _, ⟨hx, rfl⟩, ⟨hle, _, _, ⟨-, rfl⟩, hr, rfl⟩ | ⟨hle, hr, rfl⟩⟩ := h₄
        · refine Or.inr (Or.inr (Or.inl ⟨l, _, rfl, hr.symm, hl, hst, ⟨x, hx, hle⟩, ?_⟩))
          exact Table.puts_updateWhere (fun r hp => (of_decide_eq_true hp).1) hl
            (decide_eq_true ⟨hkey, hst, rfl⟩)
        · exact Or.inl ⟨rfl, by rw [← hr]; simp⟩
      | recoveryNeeded =>
        simp only [hst, Tx.pure_ok] at h₄
        obtain ⟨hr, rfl⟩ := h₄
        exact Or.inl ⟨rfl, by rw [← hr]; simp⟩
      | released =>
        simp only [hst, Tx.bind_ok, Tx.orElse_ok, Tx.update_ok, Tx.require_ok,
          Tx.pure_ok] at h₄
        obtain ⟨f, _, ⟨hf, rfl⟩, n, _, ⟨haff, rfl⟩, _, _, ⟨hn, rfl⟩, hr, rfl⟩ := h₄
        obtain ⟨rfl, -⟩ := toI64_eq_some hf
        refine Or.inr (Or.inr (Or.inr ⟨l, e, _, rfl, hr.symm, hl, hst, ?_⟩))
        exact Table.puts_updateWhere (fun r hp => (of_decide_eq_true hp).1) hl
          (decide_eq_true ⟨hkey, hst, rfl⟩)
  · exact Or.inl ⟨hdb, by rw [hr]; simp⟩

/-- The row of a lease that the caller still owns. -/
def Lease.Owns (lease : Lease) (l : LeaseRow) : Prop :=
  l.owner_token = lease.owner ∧ l.fence = lease.fence ∧ l.state = .active

/-- `renew` fails without a trace, or moves the expiry of a lease the caller owns. -/
theorem renew_cases {lease : Lease} {now : DateTime} {ttl : Duration} {db db' : Db}
    {r : Except RuntimeError Lease} (h : renew lease now ttl db = (r, db')) :
    (db' = db ∧ ∃ e, r = .error e) ∨
    (∃ l e t, db' = { db with executionLeases := t } ∧
      r = .ok { lease with expires_at := e } ∧
      db.executionLeases.get lease.resource = some l ∧ lease.Owns l ∧
      db.executionLeases.Puts lease.resource
        { l with heartbeat_at := ts now, expires_at := ts e } t) := by
  rcases Tx.commit_cases h with hok | ⟨hdb, e, _, hr⟩
  · simp only [Tx.bind_ok, Tx.orElse_ok, Tx.update_ok, Tx.require_ok, Tx.pure_ok] at hok
    obtain ⟨_, _, ⟨-, rfl⟩, e, _, ⟨-, rfl⟩, f, _, ⟨hf, rfl⟩, n, _, ⟨haff, rfl⟩, _, _,
      ⟨hn, rfl⟩, hr, rfl⟩ := hok
    obtain ⟨rfl, -⟩ := toI64_eq_some hf
    have hone := haff.trans (of_decide_eq_true hn)
    obtain ⟨l, hl, hp, hputs⟩ := Table.update_puts (fun r hp => (of_decide_eq_true hp).1) hone
    have hp := of_decide_eq_true hp
    exact Or.inr ⟨l, e, _, rfl, hr.symm, hl, ⟨hp.2.1, hp.2.2.1, hp.2.2.2.1⟩, hputs⟩
  · exact Or.inl ⟨hdb, e, hr⟩

/-- The claims taken under a lease carry its owner, task and fence. -/
def Lease.Holds (lease : Lease) (c : ClaimRow) : Prop :=
  c.runtime_owner = lease.owner ∧ c.task_id = lease.task_id ∧ c.owner_fence = lease.fence

/-- Ending the claims of a lease leaves exactly the other active claims active. -/
theorem endClaims_ok {ρ : Type} {lease : Lease} {released : Bool} {now : DateTime}
    {s s' : Db} {u : Unit}
    (h : (endClaims lease lease.fence released now : Tx Db ρ Unit) s = .ok (u, s')) :
    ∃ t, s' = { s with workspaceClaims := t } ∧
      ∀ c : ClaimRow, c.state = .active →
        (c ∈ t.rows ↔ c ∈ s.workspaceClaims.rows ∧ ¬ lease.Holds c) := by
  cases released with
  | true =>
    have h' := Tx.delete_ok.1 h
    refine ⟨_, h'.symm, ?_⟩
    intro c hc
    rw [Table.mem_deleteWhere]
    simp [Lease.Holds, hc]
  | false =>
    obtain ⟨_, _, h₁, h₂⟩ := Tx.bind_ok.1 h
    obtain ⟨-, rfl⟩ := Tx.update_ok.1 h₁
    obtain ⟨-, rfl⟩ := Tx.pure_ok.1 h₂
    refine ⟨_, rfl, ?_⟩
    intro c hc
    rw [Table.mem_updateWhere]
    constructor
    · rintro (⟨c₀, -, -, rfl⟩ | ⟨hmem, hp⟩)
      · cases hc
      · exact ⟨hmem, fun hh => of_decide_eq_false hp ⟨hh.1, hh.2.1, hh.2.2, hc⟩⟩
    · rintro ⟨hmem, hh⟩
      exact Or.inr ⟨hmem, decide_eq_false fun hp => hh ⟨hp.1, hp.2.1, hp.2.2.1⟩⟩

/-- `release` fails without a trace, or ends a lease the caller owns and the claims taken
under it. -/
theorem release_cases {lease : Lease} {disposition : ReleaseDisposition} {now : DateTime}
    {db db' : Db} {r : Except RuntimeError Unit}
    (h : release lease disposition now db = (r, db')) :
    (db' = db ∧ ∃ e, r = .error e) ∨
    (∃ l st t c, db' = { db with executionLeases := t, workspaceClaims := c } ∧ r = .ok () ∧
      db.executionLeases.get lease.resource = some l ∧ lease.Owns l ∧
      st ≠ LeaseState.active ∧
      db.executionLeases.Puts lease.resource
        { l with state := st, heartbeat_at := ts now, expires_at := ts now } t ∧
      ∀ x : ClaimRow, x.state = .active →
        (x ∈ c.rows ↔ x ∈ db.workspaceClaims.rows ∧ ¬ lease.Holds x)) := by
  rcases Tx.commit_cases h with hok | ⟨hdb, e, _, hr⟩
  · simp only [Tx.bind_ok, Tx.orElse_ok, Tx.update_ok, Tx.require_ok, Tx.pure_ok] at hok
    obtain ⟨f, _, ⟨hf, rfl⟩, n, _, ⟨haff, rfl⟩, _, _, ⟨hn, rfl⟩, _, s', hend, hr, rfl⟩ := hok
    obtain ⟨rfl, -⟩ := toI64_eq_some hf
    have hone := haff.trans (of_decide_eq_true hn)
    obtain ⟨l, hl, hp, hputs⟩ := Table.update_puts (fun r hp => (of_decide_eq_true hp).1) hone
    have hp := of_decide_eq_true hp
    obtain ⟨c, rfl, hc⟩ := endClaims_ok hend
    refine Or.inr ⟨l, _, _, c, rfl, hr.symm, hl, ⟨hp.2.1, hp.2.2.1, hp.2.2.2⟩, ?_, hputs, hc⟩
    cases disposition <;> simp
  · exact Or.inl ⟨hdb, e, hr⟩

theorem insertClaims_ok {lease : Lease} {newId : Nat → Uuid}
    (candidates : List (String × List String)) :
    ∀ (i : Nat) {s s' : Db} {u : Unit},
      insertClaims lease newId i candidates s = .ok (u, s') →
      ∃ new t, s' = { s with workspaceClaims := t } ∧
        t.rows = s.workspaceClaims.rows ++ new ∧
        ∀ c ∈ new, lease.Holds c ∧ c.state = .active ∧
          (c.canonical_path, c.path_components) ∈ candidates := by
  induction candidates with
  | nil =>
    intro i s s' u h
    obtain ⟨-, rfl⟩ := Tx.pure_ok.1 h
    exact ⟨[], s.workspaceClaims, rfl, by simp, by simp⟩
  | cons candidate rest ih =>
    intro i s s' u h
    obtain ⟨path, components⟩ := candidate
    simp only [insertClaims, Tx.bind_ok, Tx.orElse_ok, Tx.require_ok, Tx.insert_ok] at h
    obtain ⟨f, _, ⟨hf, rfl⟩, _, _, ⟨-, rfl⟩, _, _, ⟨t, hins, rfl⟩, hrest⟩ := h
    obtain ⟨rfl, -⟩ := toI64_eq_some hf
    obtain ⟨new, t', rfl, hrows, hnew⟩ := ih (i + 1) hrest
    have hins' := ((Table.insert_eq_some_iff _ _ _).mp hins).2
    refine ⟨newClaim lease (newId i) lease.fence path components :: new, t', rfl, ?_, ?_⟩
    · rw [hrows, hins', List.append_assoc, List.singleton_append]
    · intro c hc
      rcases List.mem_cons.mp hc with rfl | hc
      · exact ⟨⟨rfl, rfl, rfl⟩, rfl, List.mem_cons_self⟩
      · obtain ⟨hh, ha, hm⟩ := hnew c hc
        exact ⟨hh, ha, List.mem_cons_of_mem _ hm⟩

omit [Externals] in
/-- A path resolves, or the call ends with `Workspace`. -/
theorem pathComponents_error {fs : FileSystem} {path : PathBuf} {e : RuntimeError}
    (h : pathComponents fs path = .error e) : e = .workspace := by
  have hlist : ∀ (cs : List (Option String)) (e : RuntimeError), (cs.mapM fun component =>
      match component with
      | some text => Except.ok text
      | none => Except.error RuntimeError.workspace) = .error e → e = .workspace := by
    intro cs
    induction cs with
    | nil => intro e h; cases h
    | cons c cs ih =>
      intro e h
      cases c with
      | none =>
        simp only [List.mapM_cons] at h
        cases h
        rfl
      | some text =>
        cases hrest : (cs.mapM fun component =>
            match component with
            | some text => Except.ok text
            | none => Except.error RuntimeError.workspace) with
        | ok ts =>
          simp only [List.mapM_cons, hrest] at h
          cases h
        | error e' =>
          simp only [List.mapM_cons, hrest] at h
          cases h
          exact ih e hrest
  unfold pathComponents at h
  split at h
  · cases h
    rfl
  · split at h
    · exact hlist _ _ h
    · cases h
      rfl

omit [Externals] in
theorem claimCandidates_cons (fs : FileSystem) (path : PathBuf) (paths : List PathBuf) :
    claimCandidates fs (path :: paths) =
      (pathComponents fs path).bind fun cs =>
        (claimCandidates fs paths).map fun rest => (fs.toStringLossy path, cs) :: rest := by
  unfold claimCandidates
  rw [List.mapM_cons]
  cases pathComponents fs path with
  | error e => rfl
  | ok cs =>
    cases paths.mapM fun path =>
      (pathComponents fs path).map fun cs => (fs.toStringLossy path, cs) <;> rfl

omit [Externals] in
/-- A candidate is a path of the list with its canonical components. -/
theorem mem_claimCandidates {fs : FileSystem} {paths : List PathBuf}
    {candidates : List (String × List String)} (h : claimCandidates fs paths = .ok candidates)
    {text : String} {components : List String} (hmem : (text, components) ∈ candidates) :
    ∃ path ∈ paths, fs.toStringLossy path = text ∧ pathComponents fs path = .ok components := by
  induction paths generalizing candidates with
  | nil =>
    cases h
    cases hmem
  | cons path paths ih =>
    rw [claimCandidates_cons] at h
    cases hp : pathComponents fs path with
    | error e =>
      rw [hp] at h
      cases h
    | ok cs =>
      cases hrest : claimCandidates fs paths with
      | error e =>
        rw [hp, hrest] at h
        cases h
      | ok rest =>
        rw [hp, hrest] at h
        cases h
        rcases List.mem_cons.mp hmem with heq | hmem
        · cases heq
          exact ⟨path, List.mem_cons_self, rfl, hp⟩
        · obtain ⟨p, hp, hrest⟩ := ih hrest hmem
          exact ⟨p, List.mem_cons_of_mem _ hp, hrest⟩

/-- `claim_workspaces` fails without a trace, or adds claims that overlap no active one. -/
theorem claimWorkspaces_cases {fs : FileSystem} {lease : Lease} {paths : List PathBuf}
    {newId : Nat → Uuid} {db db' : Db} {r : Except RuntimeError Unit}
    (h : claimWorkspaces fs lease paths newId db = (r, db')) :
    (db' = db ∧ ∃ e, r = .error e) ∨
    (∃ candidates new t, db' = { db with workspaceClaims := t } ∧ r = .ok () ∧
      claimCandidates fs paths = .ok candidates ∧
      t.rows = db.workspaceClaims.rows ++ new ∧
      (∀ c ∈ new, lease.Holds c ∧ c.state = .active ∧
        (c.canonical_path, c.path_components) ∈ candidates) ∧
      ∀ c ∈ new, ∀ x ∈ db.workspaceClaims.rows, x.state = .active →
        overlaps c.path_components x.path_components = false) := by
  rcases Tx.commit_cases h with hok | ⟨hdb, e, _, hr⟩
  · simp only [Tx.bind_ok, Tx.ofExcept_ok, Tx.read_ok, Tx.require_ok, Tx.pure_ok] at hok
    obtain ⟨candidates, _, ⟨hcand, rfl⟩, rows, _, ⟨hrows, rfl⟩, _, _, ⟨hfree, rfl⟩, _, s',
      hins, hr, rfl⟩ := hok
    obtain ⟨new, t, rfl, happ, hnew⟩ := insertClaims_ok candidates 0 hins
    refine Or.inr ⟨candidates, new, t, rfl, hr.symm, hcand, happ, hnew, ?_⟩
    intro c hc x hx hact
    have hfree' : ∀ p ∈ candidates, ∀ y ∈ rows, overlaps p.2 y.path_components = false := by
      simpa using hfree
    have hxr : x ∈ rows := by
      rw [← hrows]
      exact List.mem_filter.mpr ⟨hx, decide_eq_true hact⟩
    exact hfree' _ (hnew c hc).2.2 x hxr
  · exact Or.inl ⟨hdb, e, hr⟩

end

end GuiguBridge
