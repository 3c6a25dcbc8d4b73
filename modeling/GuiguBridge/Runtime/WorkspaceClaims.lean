import GuiguBridge.Reference
import GuiguBridge.Runtime.LeaseFencing

/-!
# Workspace claims

A task that writes into a workspace claims it under its lease, and two tasks must not write
into overlapping directories.

* `Exclusive` — the claims in force are canonical, and those of different leases do not
  overlap; `run_exclusive`: **every run keeps it**;
* `claimWorkspaces_busy`, `claimWorkspaces_workspace` — what a refused call answers;
* `workspace_exclusion` — the result over whole runs.
-/

namespace GuiguBridge

open Relational

/-! ### Overlapping paths -/

theorem overlaps_iff (left right : List String) :
    overlaps left right = true ↔ left <+: right ∨ right <+: left := by
  simp only [overlaps, Bool.or_eq_true, List.isPrefixOf_iff_prefix]
  exact Or.comm

theorem overlaps_comm (left right : List String) : overlaps left right = overlaps right left :=
  Bool.or_comm _ _

/-- Two claims of which one's path lies in the other's. -/
def ClaimRow.Overlaps (c c' : ClaimRow) : Prop :=
  c.path_components <+: c'.path_components ∨ c'.path_components <+: c.path_components

theorem ClaimRow.not_overlaps {c c' : ClaimRow}
    (h : overlaps c.path_components c'.path_components = false) : ¬ c.Overlaps c' := by
  intro hover
  rw [(overlaps_iff _ _).mpr hover] at h
  cases h

/-- The lease a claim was taken under, as the claim names it. -/
def ClaimRow.lease (c : ClaimRow) : Uuid × TaskId × Nat :=
  (c.runtime_owner, c.task_id, c.owner_fence)

theorem Lease.Holds.lease_eq {lease : Lease} {c : ClaimRow} (h : lease.Holds c) :
    c.lease = (lease.owner, lease.task_id, lease.fence) := by
  obtain ⟨howner, htask, hfence⟩ := h
  simp [ClaimRow.lease, howner, htask, hfence]

/-- The claims in force. -/
def Db.activeClaims (db : Db) : List ClaimRow :=
  db.workspaceClaims.rows.filter (·.state = .active)

theorem Db.mem_activeClaims {db : Db} {c : ClaimRow} :
    c ∈ db.activeClaims ↔ c ∈ db.workspaceClaims.rows ∧ c.state = .active := by
  simp [Db.activeClaims]

/-! ### Exclusion -/

/-- Claims in force are canonical, and those of different leases do not overlap. -/
structure Exclusive (fs : FileSystem) (db : Db) : Prop where
  resolved : ∀ c ∈ db.activeClaims, c.Resolved fs
  disjoint : ∀ c ∈ db.activeClaims, ∀ c' ∈ db.activeClaims, c.lease ≠ c'.lease →
    ¬ c.Overlaps c'

theorem Exclusive.of_subset {fs : FileSystem} {db db' : Db} (h : Exclusive fs db)
    (hsub : ∀ c ∈ db'.activeClaims, c ∈ db.activeClaims) : Exclusive fs db' where
  resolved := fun c hc => h.resolved c (hsub c hc)
  disjoint := fun c hc c' hc' => h.disjoint c (hsub c hc) c' (hsub c' hc')

theorem Exclusive.of_claims_eq {fs : FileSystem} {db db' : Db} (h : Exclusive fs db)
    (heq : db'.workspaceClaims = db.workspaceClaims) : Exclusive fs db' := by
  refine h.of_subset ?_
  intro c hc
  simpa [Db.activeClaims, heq] using hc

/-- New claims that meet no claim in force keep the exclusion: among themselves they stand
under one lease. -/
theorem Exclusive.claimed {fs : FileSystem} {db db' : Db} (h : Exclusive fs db) {lease : Lease}
    {new : List ClaimRow}
    (hnew : ∀ c ∈ new, lease.Holds c ∧ c.state = .active ∧ c.Resolved fs)
    (hfree : ∀ c ∈ new, ∀ x ∈ db.workspaceClaims.rows, x.state = .active →
      overlaps c.path_components x.path_components = false)
    (hclaims : db'.workspaceClaims.rows = db.workspaceClaims.rows ++ new) :
    Exclusive fs db' := by
  have hsplit : ∀ c ∈ db'.activeClaims, c ∈ db.activeClaims ∨ c ∈ new := by
    intro c hc
    obtain ⟨hmem, hact⟩ := Db.mem_activeClaims.1 hc
    rw [hclaims, List.mem_append] at hmem
    rcases hmem with hmem | hmem
    · exact Or.inl (Db.mem_activeClaims.2 ⟨hmem, hact⟩)
    · exact Or.inr hmem
  have hapart : ∀ c ∈ new, ∀ x ∈ db.activeClaims,
      overlaps c.path_components x.path_components = false := by
    intro c hc x hx
    obtain ⟨hmem, hact⟩ := Db.mem_activeClaims.1 hx
    exact hfree c hc x hmem hact
  refine ⟨?_, ?_⟩
  · intro c hc
    rcases hsplit c hc with hold | hnew'
    · exact h.resolved c hold
    · exact (hnew c hnew').2.2
  · intro c hc c' hc' hne
    rcases hsplit c hc with hold | hn
    · rcases hsplit c' hc' with hold' | hn'
      · exact h.disjoint c hold c' hold' hne
      · apply ClaimRow.not_overlaps
        rw [overlaps_comm]
        exact hapart c' hn' c hold
    · rcases hsplit c' hc' with hold' | hn'
      · exact ClaimRow.not_overlaps (hapart c hn c' hold')
      · have hsame : c.lease = c'.lease := by
          rw [(hnew c hn).1.lease_eq, (hnew c' hn').1.lease_eq]
        exact absurd hsame hne

theorem ClaimsEnded.subset {lease : Lease} {db db' : Db} (h : ClaimsEnded lease db db') :
    ∀ c ∈ db'.activeClaims, c ∈ db.activeClaims := by
  intro c hc
  obtain ⟨hmem, hact⟩ := Db.mem_activeClaims.1 hc
  exact Db.mem_activeClaims.2 ⟨((h c hact).mp hmem).1, hact⟩

/-- Every lease step keeps the exclusion. -/
theorem Exclusive.step {fs : FileSystem} {db db' : Db} (h : Exclusive fs db)
    (hstep : LeaseStep fs db db') : Exclusive fs db' := by
  cases hstep with
  | same hleases hclaims => exact h.of_claims_eq hclaims
  | granted resource l hfree hfence hactive hputs hclaims => exact h.of_claims_eq hclaims
  | renewed resource l l' hl hputs hcell hclaims => exact h.of_claims_eq hclaims
  | ended resource l l' hl hactive hputs hsame hclaims => exact h.of_claims_eq hclaims
  | released lease l l' hl howns hputs hsame hclaims => exact h.of_subset hclaims.subset
  | claimed lease new hleases hnew hfree hclaims => exact h.claimed hnew hfree hclaims

section

variable [Externals] {fs : FileSystem}

theorem run_exclusive (fs : FileSystem) (calls : List Call) : Exclusive fs (run fs calls) := by
  refine runFrom_invariant (Exclusive fs) ?_ calls ?_
  · intro db call h
    exact h.step (step_leaseStep db call)
  · refine ⟨?_, ?_⟩
    · intro c hc
      cases hc
    · intro c hc
      cases hc

/-! ### What a refused call answers -/

omit [Externals] in
/-- One path that does not resolve ends the list. -/
theorem claimCandidates_unresolved {paths : List PathBuf} {path : PathBuf} {e : RuntimeError}
    (hmem : path ∈ paths) (he : pathComponents fs path = .error e) :
    claimCandidates fs paths = .error .workspace := by
  induction paths with
  | nil => cases hmem
  | cons head rest ih =>
    rw [claimCandidates_cons]
    cases hh : pathComponents fs head with
    | error e' =>
      rw [pathComponents_error hh]
      rfl
    | ok cs =>
      have htail : path ∈ rest := by
        rcases List.mem_cons.mp hmem with rfl | htail
        · rw [he] at hh
          cases hh
        · exact htail
      rw [ih htail]
      rfl

omit [Externals] in
/-- Paths that all resolve become candidates, each with its canonical components. -/
theorem claimCandidates_resolved {paths : List PathBuf}
    (h : ∀ path ∈ paths, ∃ cs, pathComponents fs path = .ok cs) :
    ∃ candidates, claimCandidates fs paths = .ok candidates ∧
      ∀ path ∈ paths, ∀ cs, pathComponents fs path = .ok cs →
        (fs.toStringLossy path, cs) ∈ candidates := by
  induction paths with
  | nil => exact ⟨[], rfl, by simp⟩
  | cons head rest ih =>
    obtain ⟨cs, hcs⟩ := h head List.mem_cons_self
    obtain ⟨candidates, hrest, hmem⟩ :=
      ih fun path hp => h path (List.mem_cons_of_mem _ hp)
    refine ⟨(fs.toStringLossy head, cs) :: candidates, ?_, ?_⟩
    · rw [claimCandidates_cons, hcs, hrest]
      rfl
    · intro path hp cs' hcs'
      rcases List.mem_cons.mp hp with rfl | hp
      · rw [hcs] at hcs'
        cases hcs'
        exact List.mem_cons_self
      · exact List.mem_cons_of_mem _ (hmem path hp cs' hcs')

/-- A path that does not resolve: `Workspace`, and nothing changes. -/
theorem claimWorkspaces_workspace {paths : List PathBuf} {path : PathBuf} {e : RuntimeError}
    (hmem : path ∈ paths) (he : pathComponents fs path = .error e) (lease : Lease)
    (newId : Nat → Uuid) (db : Db) :
    claimWorkspaces fs lease paths newId db = (.error .workspace, db) := by
  apply Tx.commit_of_error
  rw [claimCandidates_unresolved hmem he]
  rfl

/-- A resolved list with a path that meets a claim in force: `Busy`, and nothing changes. -/
theorem claimWorkspaces_busy {paths : List PathBuf} {path : PathBuf} {cs : List String}
    {db : Db} {c : ClaimRow} (hall : ∀ path ∈ paths, ∃ cs, pathComponents fs path = .ok cs)
    (hmem : path ∈ paths) (hcs : pathComponents fs path = .ok cs) (hc : c ∈ db.activeClaims)
    (hover : overlaps cs c.path_components = true) (lease : Lease) (newId : Nat → Uuid) :
    claimWorkspaces fs lease paths newId db = (.error .busy, db) := by
  obtain ⟨candidates, hcand, hcontains⟩ := claimCandidates_resolved hall
  have hfound : (candidates.any fun p => db.activeClaims.any fun r =>
      overlaps p.2 r.path_components) = true :=
    List.any_eq_true.mpr ⟨_, hcontains path hmem cs hcs, List.any_eq_true.mpr ⟨c, hc, hover⟩⟩
  apply Tx.commit_of_error
  show _ = Except.error RuntimeError.busy
  simp only [Tx.bind_apply, hcand, Tx.ofExcept_apply, Except.map, Tx.read_apply]
  rw [show db.workspaceClaims.rows.filter (·.state = .active) = db.activeClaims from rfl,
    hfound]
  rfl

/-- **Workspace exclusion (proved).**  In every state of every run the claims in force under
different leases do not overlap, and each names the canonical components of its path.  A list
of paths of which one does not resolve is refused as `Workspace`; a list that resolves and
meets a claim in force is refused as `Busy`; both leave the store as it was. -/
theorem workspace_exclusion (fs : FileSystem) (calls : List Call) :
    (∀ c ∈ (run fs calls).activeClaims, ∀ c' ∈ (run fs calls).activeClaims,
      c.lease ≠ c'.lease → ¬ c.Overlaps c') ∧
    (∀ c ∈ (run fs calls).activeClaims, c.Resolved fs) ∧
    (∀ lease paths newId path cs, ∀ c ∈ (run fs calls).activeClaims,
      (∀ path ∈ paths, ∃ cs, pathComponents fs path = .ok cs) →
      path ∈ paths → pathComponents fs path = .ok cs →
      (cs <+: c.path_components ∨ c.path_components <+: cs) →
      claimWorkspaces fs lease paths newId (run fs calls) = (.error .busy, run fs calls)) ∧
    (∀ lease paths newId path, path ∈ paths → (¬ ∃ cs, pathComponents fs path = .ok cs) →
      claimWorkspaces fs lease paths newId (run fs calls) =
        (.error .workspace, run fs calls)) := by
  refine ⟨(run_exclusive fs calls).disjoint, (run_exclusive fs calls).resolved, ?_, ?_⟩
  · intro lease paths newId path cs c hc hall hmem hcs hover
    exact claimWorkspaces_busy hall hmem hcs hc ((overlaps_iff _ _).mpr hover) lease newId
  · intro lease paths newId path hmem hnone
    cases hpath : pathComponents fs path with
    | ok cs => exact absurd ⟨cs, hpath⟩ hnone
    | error e => exact claimWorkspaces_workspace hmem hpath lease newId _

end

/-! ### A run that claims a workspace -/

/-- A file system with the one directory `/w`. -/
def oneDirectory : FileSystem where
  canonicalize path := if path.bytes = [47, 119] then some ⟨true, [some "/", some "w"]⟩ else none
  toStringLossy path := String.ofList (path.bytes.map fun b => Char.ofNat b.toNat)

/-- The lease of the run below. -/
def workspaceLease : Lease := ⟨⟨1⟩, ⟨2⟩, 3, 1, DateTime.ofSecs 60⟩

/-- A task takes a lease of a minute and claims `/w` under it. -/
def workspaceRun : List Call :=
  [.acquire ⟨1⟩ ⟨2⟩ 3 (DateTime.ofSecs 0) 60000000000,
    .claimWorkspaces workspaceLease [⟨[47, 119]⟩] (fun i => BitVec.ofNat 128 (100 + i))]

/-- A list that names the claimed directory after a path that does not resolve is refused,
but not as `Busy`. -/
theorem claimWorkspaces_unresolved_not_busy :
    ¬ ∀ (fs : FileSystem) (calls : List Call) (lease : Lease) (paths : List PathBuf)
      (newId : Nat → Uuid) (path : PathBuf) (cs : List String),
      ∀ c ∈ (run fs calls).activeClaims, path ∈ paths → pathComponents fs path = .ok cs →
      (cs <+: c.path_components ∨ c.path_components <+: cs) →
      claimWorkspaces fs lease paths newId (run fs calls) =
        (.error .busy, run fs calls) := by
  intro h
  have hmissing : pathComponents oneDirectory ⟨[120]⟩ = .error .workspace := by decide
  have hclaim : newClaim workspaceLease 100 1 "/w" ["/", "w"] ∈
      (run oneDirectory workspaceRun).activeClaims := by decide
  have hbusy := h oneDirectory workspaceRun ⟨⟨9⟩, ⟨8⟩, 7, 1, DateTime.ofSecs 60⟩
    [⟨[120]⟩, ⟨[47, 119]⟩] (fun i => BitVec.ofNat 128 (200 + i)) ⟨[47, 119]⟩ ["/", "w"] _ hclaim
    (by decide) (by decide) (Or.inl List.prefix_rfl)
  rw [claimWorkspaces_workspace (List.mem_cons_self) hmissing] at hbusy
  cases hbusy

end GuiguBridge
