import GuiguBridge.Runtime.WorkspaceClaims

/-!
# Claims and the leases they stand under

A workspace claim in force should stand under a lease in force: when a lease ends, by
whatever route, its claims end with it, or they block other tasks for ever.

`release` and `finalize_terminal` end both.  Expiry and `finish` end the lease and forget the
claims, and `claim_workspaces` asks for no lease at all.

* `Honest` — runs in which every caller presents a lease that the store handed out;
* `Honest.certified` — such a lease names the task its row names, as long as its fence is
  current;
* `KeepsCoherent` — the calls that do not take a forgetful branch with claims in force;
* `lease_claims_coherent` — **runs of such calls keep claims and leases together**, and
  `expired_lease_leaves_claim` is an honest run that does not.
-/

namespace GuiguBridge

open Relational

/-- The lease row is the active one that the claim names. -/
def LeaseRow.Backs (l : LeaseRow) (c : ClaimRow) : Prop :=
  l.state = .active ∧ l.owner_token = c.runtime_owner ∧ l.task_id = c.task_id ∧
    l.fence = c.owner_fence

/-- Every claim in force stands under a lease in force. -/
def Coherent (db : Db) : Prop :=
  ∀ c ∈ db.activeClaims, ∃ l ∈ db.executionLeases.rows, l.Backs c

/-! ### Honest runs -/

/-- The lease a call presents. -/
def Call.lease? : Call → Option Lease
  | .renew lease _ _ => some lease
  | .claimWorkspaces lease _ _ => some lease
  | .release lease _ _ => some lease
  | .beginContinuation lease _ _ _ => some lease
  | .claimTurn _ lease _ _ => some lease
  | .claimTurnWithGeneration _ lease _ _ _ => some lease
  | .recordContinue _ lease _ _ _ _ => some lease
  | .recordContinueWithReceipt _ lease _ _ _ _ _ _ _ => some lease
  | .recordActivity lease _ _ _ _ => some lease
  | .finish _ lease _ _ _ _ _ => some lease
  | .finalizeTerminal _ lease _ _ _ _ _ _ => some lease
  | _ => none

section

variable [Externals] {fs : FileSystem}

/-- The leases a call hands to its caller. -/
def issuedBy (db : Db) : Call → List Lease
  | .acquire resource task_id owner now ttl =>
    match (acquire resource task_id owner now ttl db).1 with
    | .ok (.acquired lease) => [lease]
    | _ => []
  | .renew lease now ttl =>
    match (renew lease now ttl db).1 with
    | .ok lease => [lease]
    | _ => []
  | _ => []

/-- A run whose callers present leases they were handed, and whose calls all meet `ok`; the
second list holds the leases handed out. -/
inductive Honest (fs : FileSystem) (ok : Db → Call → Prop) : List Call → List Lease → Prop
  | nil : Honest fs ok [] []
  | snoc {calls : List Call} {issued : List Lease} {call : Call} (h : Honest fs ok calls issued)
      (hlease : ∀ lease, call.lease? = some lease → lease ∈ issued)
      (hok : ok (run fs calls) call) :
      Honest fs ok (calls ++ [call]) (issued ++ issuedBy (run fs calls) call)

theorem run_snoc (fs : FileSystem) (calls : List Call) (call : Call) :
    run fs (calls ++ [call]) = step fs (run fs calls) call := by
  show runFrom fs Db.empty (calls ++ [call]) = _
  rw [runFrom_append]
  rfl

/-- The lease was granted: while its fence is current, its row names its task and owner. -/
def Lease.Granted (lease : Lease) (db : Db) : Prop :=
  Fencing.Certified (lease.task_id, lease.owner) lease.fence (db.cell lease.resource)

theorem issuedBy_granted {db : Db} {call : Call}
    (hold : ∀ lease, call.lease? = some lease → lease.Granted db) :
    ∀ lease ∈ issuedBy db call, lease.Granted (step fs db call) := by
  intro lease hmem
  cases call with
  | acquire resource task_id owner now ttl =>
    simp only [issuedBy] at hmem
    split at hmem
    · rename_i lease' hres
      obtain rfl := List.mem_singleton.mp hmem
      obtain ⟨hr, ht, ho, hf, hcell⟩ := acquire_acquired
        (show acquire resource task_id owner now ttl db = (.ok (.acquired lease), _) from
          Prod.ext hres rfl)
      show Fencing.Certified _ _ (Db.cell (acquire resource task_id owner now ttl db).2 _)
      rw [hr, hcell, ht, ho]
      exact .grant (db.cell resource) _ _ hf
    · cases hmem
  | renew lease₀ now ttl =>
    simp only [issuedBy] at hmem
    split at hmem
    · rename_i lease' hres
      obtain rfl := List.mem_singleton.mp hmem
      have hstep : LeaseStep fs db (step fs db (.renew lease₀ now ttl)) := step_leaseStep db _
      have hmove := hstep.move lease₀.resource
      have hgranted := Fencing.Certified.move (hold lease₀ rfl) hmove
      rcases renew_cases (show renew lease₀ now ttl db = (.ok lease, _) from
        Prod.ext hres rfl) with ⟨-, e, he⟩ | ⟨l, e, t, -, hr, -⟩
      · cases he
      · cases hr
        exact hgranted
    · cases hmem
  | _ => cases hmem

/-- **Every lease handed out in an honest run was granted to its task.** -/
theorem Honest.certified {ok : Db → Call → Prop} {calls : List Call} {issued : List Lease}
    (h : Honest fs ok calls issued) : ∀ lease ∈ issued, lease.Granted (run fs calls) := by
  induction h with
  | nil =>
    intro lease hmem
    cases hmem
  | @snoc calls issued call h hlease hok ih =>
    intro lease hmem
    rw [run_snoc]
    rcases List.mem_append.mp hmem with hmem | hmem
    · exact Fencing.Certified.move (ih lease hmem) ((step_leaseStep _ call).move lease.resource)
    · exact issuedBy_granted (fun l hl => ih l (hlease l hl)) lease hmem

omit [Externals] in
theorem Lease.Granted.task_eq {lease : Lease} {db : Db} {l : LeaseRow} (h : lease.Granted db)
    (hl : db.executionLeases.get lease.resource = some l) (howns : lease.Owns l) :
    l.task_id = lease.task_id := by
  have howner := h.2 l.cell (cell_of_get hl) howns.2.1
  exact congrArg Prod.fst howner

/-! ### What each call does to the pairing -/

omit [Externals] in
theorem coherent_of_eq {db db' : Db} (h : Coherent db)
    (hleases : db'.executionLeases = db.executionLeases)
    (hclaims : db'.workspaceClaims = db.workspaceClaims) : Coherent db' := by
  intro c hc
  rw [hleases]
  refine h c ?_
  simpa [Db.activeClaims, hclaims] using hc

omit [Externals] in
/-- One lease row changes, and whatever claim it carried it still carries. -/
theorem coherent_of_puts {db db' : Db} {resource : ResourceKey} {l' : LeaseRow}
    (h : Coherent db) (hclaims : ∀ c ∈ db'.activeClaims, c ∈ db.activeClaims)
    (hputs : db.executionLeases.Puts resource l' db'.executionLeases)
    (hkeep : ∀ l, db.executionLeases.get resource = some l →
      ∀ c ∈ db'.activeClaims, l.Backs c → l'.Backs c) : Coherent db' := by
  intro c hc
  obtain ⟨l, hl, hbacks⟩ := h c (hclaims c hc)
  have hget := Table.get_of_mem hl
  by_cases hk : l.resource_key = resource
  · rw [hk] at hget
    refine ⟨l', Table.mem_of_get (k := resource) ?_, hkeep l hget c hc hbacks⟩
    rw [hputs resource, if_pos rfl]
  · refine ⟨l, Table.mem_of_get (k := l.resource_key) ?_, hbacks⟩
    rw [hputs l.resource_key, if_neg hk, hget]

omit [Externals] in
theorem LeaseRow.not_backs {l : LeaseRow} (h : l.state ≠ .active) (c : ClaimRow) : ¬ l.Backs c :=
  fun hbacks => h hbacks.1

omit [Externals] in
/-- A lease that ends with its claims leaves the others paired. -/
theorem coherent_of_release {db db' : Db} {lease : Lease} {l l' : LeaseRow} (h : Coherent db)
    (hgranted : lease.Granted db) (hl : db.executionLeases.get lease.resource = some l)
    (howns : lease.Owns l) (hputs : db.executionLeases.Puts lease.resource l' db'.executionLeases)
    (hclaims : ClaimsEnded lease db db') : Coherent db' := by
  refine coherent_of_puts h hclaims.subset hputs ?_
  intro l₀ hl₀ c hc hbacks
  have hsame : l₀ = l := Option.some.inj (hl₀.symm.trans hl)
  subst hsame
  obtain ⟨hmem, hact⟩ := Db.mem_activeClaims.1 hc
  have htask := hgranted.task_eq hl howns
  have hholds : lease.Holds c :=
    ⟨hbacks.2.1.symm.trans howns.1, hbacks.2.2.1.symm.trans htask,
      hbacks.2.2.2.symm.trans howns.2.1⟩
  exact absurd hholds ((hclaims c hact).mp hmem).2

/-- The call does not take a branch that separates a claim from its lease: it does not expire
a lease with claims in force, does not finish one, and claims only under a live lease. -/
def KeepsCoherent (db : Db) : Call → Prop
  | .acquire resource _ _ now _ => ∀ l, db.executionLeases.get resource = some l →
      l.state = .active → l.Expired now → ∀ c ∈ db.activeClaims, ¬ l.Backs c
  | .finish _ lease _ _ _ _ _ => lease.Live db → ∀ c ∈ db.activeClaims, ¬ lease.Holds c
  | .claimWorkspaces lease paths _ => paths ≠ [] → lease.Live db
  | _ => True

theorem acquire_coherent {resource : ResourceKey} {task_id : TaskId} {owner : Uuid}
    {now : DateTime} {ttl : Duration} {db db' : Db} {r : Except RuntimeError AcquireOutcome}
    (h : acquire resource task_id owner now ttl db = (r, db')) (hcoh : Coherent db)
    (hkeeps : KeepsCoherent db (.acquire resource task_id owner now ttl)) : Coherent db' := by
  rcases acquire_cases h with ⟨rfl, -⟩ | ⟨e, t, rfl, -, hnone, hputs⟩ |
    ⟨l, t, rfl, -, hl, hact, hexp, hputs⟩ | ⟨l, e, t, rfl, -, hl, hrel, hputs⟩
  · exact hcoh
  · refine coherent_of_puts hcoh (fun c hc => hc) hputs ?_
    intro l hl
    rw [hnone] at hl
    cases hl
  · refine coherent_of_puts hcoh (fun c hc => hc) hputs ?_
    intro l₀ hl₀ c hc hbacks
    obtain rfl : l₀ = l := Option.some.inj (hl₀.symm.trans hl)
    exact absurd hbacks (hkeeps l₀ hl hact hexp c hc)
  · refine coherent_of_puts hcoh (fun c hc => hc) hputs ?_
    intro l₀ hl₀ c hc hbacks
    obtain rfl : l₀ = l := Option.some.inj (hl₀.symm.trans hl)
    exact absurd hbacks (LeaseRow.not_backs (by rw [hrel]; decide) c)

theorem renew_coherent {lease : Lease} {now : DateTime} {ttl : Duration} {db db' : Db}
    {r : Except RuntimeError Lease} (h : renew lease now ttl db = (r, db'))
    (hcoh : Coherent db) : Coherent db' := by
  rcases renew_cases h with ⟨rfl, -⟩ | ⟨l, e, t, rfl, -, hl, -, hputs⟩
  · exact hcoh
  · refine coherent_of_puts hcoh (fun c hc => hc) hputs ?_
    intro l₀ hl₀ c hc hbacks
    obtain rfl : l₀ = l := Option.some.inj (hl₀.symm.trans hl)
    exact hbacks

theorem release_coherent {lease : Lease} {disposition : ReleaseDisposition} {now : DateTime}
    {db db' : Db} {r : Except RuntimeError Unit}
    (h : release lease disposition now db = (r, db')) (hcoh : Coherent db)
    (hgranted : lease.Granted db) : Coherent db' := by
  rcases release_cases h with ⟨rfl, -⟩ | ⟨l, st, t, c, rfl, -, hl, howns, -, hputs, hclaims⟩
  · exact hcoh
  · exact coherent_of_release hcoh hgranted hl howns hputs hclaims

theorem finalizeTerminal_coherent {seen : Db} {lease : Lease} {revision : Nat}
    {generation : String} {state : ContinuationState} {observed_bytes : Nat}
    {event : TaskEvent} {now : DateTime} {db db' : Db} {r : Except RuntimeError FinalizeResult}
    (h : finalizeTerminal seen lease revision generation state observed_bytes event now db =
      (r, db')) (hcoh : Coherent db) (hgranted : lease.Granted db) : Coherent db' := by
  rcases finalizeTerminal_cases h with ⟨rfl, -⟩ | ⟨-, hfin⟩
  · exact hcoh
  · obtain ⟨l, hl, -, howns, hputs⟩ := hfin.lease_ended
    exact coherent_of_release hcoh hgranted hl howns hputs hfin.claims_ended

theorem finish_coherent {seen : Db} {lease : Lease} {revision : Nat} {generation : String}
    {state : ContinuationState} {observed_bytes : Nat} {now : DateTime} {db db' : Db}
    {r : Except RuntimeError Unit}
    (h : finishWithGeneration seen lease revision generation state observed_bytes now db =
      (r, db')) (hcoh : Coherent db)
    (hkeeps : lease.Live db → ∀ c ∈ db.activeClaims, ¬ lease.Holds c) : Coherent db' := by
  rcases finishWithGeneration_cases h with
    ⟨rfl, -⟩ | ⟨l, st, t, c, d, rfl, -, hl, htask, howns, -, hputs⟩
  · exact hcoh
  · refine coherent_of_puts hcoh (fun c hc => hc) hputs ?_
    intro l₀ hl₀ c hc hbacks
    obtain rfl : l₀ = l := Option.some.inj (hl₀.symm.trans hl)
    have hholds : lease.Holds c :=
      ⟨hbacks.2.1.symm.trans howns.1, hbacks.2.2.1.symm.trans htask,
        hbacks.2.2.2.symm.trans howns.2.1⟩
    exact absurd hholds (hkeeps ⟨l₀, hl, htask, howns⟩ c hc)

theorem claimWorkspaces_coherent {lease : Lease} {paths : List PathBuf} {newId : Nat → Uuid}
    {db db' : Db} {r : Except RuntimeError Unit}
    (h : claimWorkspaces fs lease paths newId db = (r, db')) (hcoh : Coherent db)
    (hkeeps : paths ≠ [] → lease.Live db) : Coherent db' := by
  rcases claimWorkspaces_cases h with
    ⟨rfl, -⟩ | ⟨candidates, new, t, rfl, -, hcand, hrows, hnew, -⟩
  · exact hcoh
  · intro c hc
    obtain ⟨hmem, hact⟩ := Db.mem_activeClaims.1 hc
    have hmem' : c ∈ t.rows := hmem
    rw [hrows, List.mem_append] at hmem'
    rcases hmem' with hold | hn
    · exact hcoh c (Db.mem_activeClaims.2 ⟨hold, hact⟩)
    · -- a new claim stands under the lease that was presented, so the list was not empty
      obtain ⟨hholds, -, hin⟩ := hnew c hn
      obtain ⟨path, hpath, -⟩ := mem_claimCandidates hcand hin
      obtain ⟨l, hl, htask, howns⟩ := hkeeps (List.ne_nil_of_mem hpath)
      exact ⟨l, Table.mem_of_get hl, howns.2.2, howns.1.trans hholds.1.symm,
        htask.trans hholds.2.1.symm, howns.2.1.trans hholds.2.2.symm⟩

theorem step_coherent {db : Db} {call : Call} (hcoh : Coherent db)
    (hgranted : ∀ lease, call.lease? = some lease → lease.Granted db)
    (hkeeps : KeepsCoherent db call) : Coherent (step fs db call) := by
  have hsame (hl : call.writes.contains .executionLeases = false)
      (hc : call.writes.contains .workspaceClaims = false) : Coherent (step fs db call) :=
    coherent_of_eq hcoh (step_frame fs db call .executionLeases hl)
      (step_frame fs db call .workspaceClaims hc)
  cases call with
  | acquire resource task_id owner now ttl => exact acquire_coherent rfl hcoh hkeeps
  | renew lease now ttl => exact renew_coherent rfl hcoh
  | claimWorkspaces lease paths newId => exact claimWorkspaces_coherent rfl hcoh hkeeps
  | release lease disposition now => exact release_coherent rfl hcoh (hgranted lease rfl)
  | finish seen lease revision generation state observed_bytes now =>
    exact finish_coherent rfl hcoh hkeeps
  | finalizeTerminal seen lease revision generation state observed_bytes event now =>
    exact finalizeTerminal_coherent rfl hcoh (hgranted lease rfl)
  | _ => exact hsame rfl rfl

/-- **Claims stand under their leases (proved).**  In an honest run none of whose calls
expires or finishes a lease with claims in force, or claims without a live lease, every
workspace claim in force stands under an active lease with its owner, task and fence. -/
theorem lease_claims_coherent (fs : FileSystem) (calls : List Call) (issued : List Lease)
    (h : Honest fs KeepsCoherent calls issued) :
    ∀ c ∈ (run fs calls).activeClaims, ∃ l ∈ (run fs calls).executionLeases.rows,
      l.state = .active ∧ l.owner_token = c.runtime_owner ∧ l.task_id = c.task_id ∧
        l.fence = c.owner_fence := by
  show Coherent (run fs calls)
  induction h with
  | nil =>
    intro c hc
    cases hc
  | @snoc calls issued call h hlease hok ih =>
    rw [run_snoc]
    exact step_coherent ih (fun lease hl => h.certified lease (hlease lease hl)) hok

end

/-! ### Runs with a claim in force -/

theorem workspaceRun_honest {ok : Db → Call → Prop}
    (hacquire : ok Db.empty (.acquire ⟨1⟩ ⟨2⟩ 3 (DateTime.ofSecs 0) 60000000000))
    (hclaim : ok (run oneDirectory [.acquire ⟨1⟩ ⟨2⟩ 3 (DateTime.ofSecs 0) 60000000000])
      (.claimWorkspaces workspaceLease [⟨[47, 119]⟩] (fun i => BitVec.ofNat 128 (100 + i)))) :
    Honest oneDirectory ok workspaceRun [workspaceLease] := by
  refine .snoc (.snoc .nil ?_ hacquire) ?_ hclaim
  · intro lease hlease
    cases hlease
  · intro lease hlease
    obtain rfl : workspaceLease = lease := Option.some.inj hlease
    decide

/-- A lease and its claim, kept together by a run that meets the conditions. -/
theorem workspaceRun_coherent :
    Honest oneDirectory KeepsCoherent workspaceRun [workspaceLease] ∧
    (run oneDirectory workspaceRun).activeClaims = [newClaim workspaceLease 100 1 "/w" ["/", "w"]] ∧
    ∀ c ∈ (run oneDirectory workspaceRun).activeClaims,
      ∃ l ∈ (run oneDirectory workspaceRun).executionLeases.rows,
        l.state = .active ∧ l.owner_token = c.runtime_owner ∧ l.task_id = c.task_id ∧
          l.fence = c.owner_fence := by
  have hhonest : Honest oneDirectory KeepsCoherent workspaceRun [workspaceLease] := by
    refine workspaceRun_honest ?_ ?_
    · intro l hl
      cases hl
    · intro _
      exact ⟨⟨⟨1⟩, ⟨2⟩, 3, 1, .active, "1970-01-01T00:00:00.000000000Z",
        "1970-01-01T00:00:00.000000000Z", "1970-01-01T00:01:00.000000000Z"⟩,
        by decide, rfl, rfl, rfl, rfl⟩
  exact ⟨hhonest, by decide, lease_claims_coherent _ _ _ hhonest⟩

/-- **The lease runs out and its claim stays in force.**  The next `acquire` of the resource
sends the lease to recovery; the claim on `/w` is active still, and no lease is. -/
theorem expired_lease_leaves_claim :
    ¬ ∀ (fs : FileSystem) (calls : List Call) (issued : List Lease),
      Honest fs (fun _ _ => True) calls issued →
      ∀ c ∈ (run fs calls).activeClaims, ∃ l ∈ (run fs calls).executionLeases.rows,
        l.state = .active ∧ l.owner_token = c.runtime_owner ∧ l.task_id = c.task_id ∧
          l.fence = c.owner_fence := by
  intro h
  have hhonest : Honest oneDirectory (fun _ _ => True)
      (workspaceRun ++ [.acquire ⟨1⟩ ⟨4⟩ 5 (DateTime.ofSecs 100) 60000000000]) _ :=
    .snoc (workspaceRun_honest trivial trivial) (fun lease hlease => by cases hlease) trivial
  obtain ⟨l, hl, hactive, -⟩ := h _ _ _ hhonest
    (newClaim workspaceLease 100 1 "/w" ["/", "w"]) (by decide)
  have hnone : ∀ l ∈ (run oneDirectory (workspaceRun ++
      [.acquire ⟨1⟩ ⟨4⟩ 5 (DateTime.ofSecs 100) 60000000000])).executionLeases.rows,
      l.state ≠ .active := by decide
  exact hnone l hl hactive

end GuiguBridge
