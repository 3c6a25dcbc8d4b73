import GuiguBridge.Runtime.Lifecycle

/-!
# The runtime store as a system

Any number of owners, workers and admitters call the store in any order.  SQLite serialises
their transactions, so an interleaving is a list of calls, each with whatever arguments its
caller holds: leases and revisions read long ago, clocks that disagree, events built from
stale counters.

* `Call` — one call of one caller.  `refused` is a call that SQLite refused, which left the
  store as it was.  `elsewhere` is whatever other components do to the tables that no call
  here guards: it may replace them wholesale;
* `step`, `run` — the store after a call, and after a list of calls from the empty store.
-/

namespace GuiguBridge

open Relational

/-- One call of the runtime store, the lifecycle or the admission store. -/
inductive Call where
  | admitTask (task : NewTask) (event : TaskEvent) (runtime_instance : String)
      (context : Option AdmissionContext)
  | claimAdmission (task_id : TaskId) (revision : Nat) (runtime_instance : Option String)
      (now : String)
  | reclaimStoppedAdmission (task_id : TaskId) (revision : Nat) (runtime_instance : String)
      (now : String)
  | releaseAdmission (task_id : TaskId) (revision : Nat) (now : String)
  | transition (event : TaskEvent)
  | acquire (resource : ResourceKey) (task_id : TaskId) (owner : Uuid) (now : DateTime)
      (ttl : Duration)
  | renew (lease : Lease) (now : DateTime) (ttl : Duration)
  | claimWorkspaces (lease : Lease) (paths : List PathBuf) (newId : Nat → Uuid)
  | release (lease : Lease) (disposition : ReleaseDisposition) (now : DateTime)
  | beginContinuation (lease : Lease) (delivery_id : DeliveryId) (prompt : String)
      (now : DateTime)
  | claimTurn (seen : Db) (lease : Lease) (revision : Nat) (now : DateTime)
  | claimTurnWithGeneration (seen : Db) (lease : Lease) (revision : Nat) (generation : String)
      (now : DateTime)
  | recordContinue (seen : Db) (lease : Lease) (revision : Nat) (next_prompt : String)
      (observed_bytes : Nat) (now : DateTime)
  | recordContinueWithReceipt (seen : Db) (lease : Lease) (revision : Nat)
      (generation next_prompt : String) (observed_bytes : Nat) (outcome : ReceiptOutcomeKind)
      (response : String) (now : DateTime)
  | recordActivity (lease : Lease) (revision : Nat) (generation : String)
      (observed_bytes : Nat) (now : DateTime)
  | finish (seen : Db) (lease : Lease) (revision : Nat) (generation : String)
      (state : ContinuationState) (observed_bytes : Nat) (now : DateTime)
  | finalizeTerminal (seen : Db) (lease : Lease) (revision : Nat) (generation : String)
      (state : ContinuationState) (observed_bytes : Nat) (event : TaskEvent) (now : DateTime)
  | refused
  | elsewhere (other : Db)

section

variable [Externals]

/-- The store after one call. -/
def step (fs : FileSystem) (db : Db) : Call → Db
  | .admitTask task event runtime_instance context =>
    (admitTask task.toAgentTask event runtime_instance context db).2
  | .claimAdmission task_id revision runtime_instance now =>
    (claimAdmission task_id revision runtime_instance now db).2
  | .reclaimStoppedAdmission task_id revision runtime_instance now =>
    (reclaimStoppedAdmission task_id revision runtime_instance now db).2
  | .releaseAdmission task_id revision now => (releaseAdmission task_id revision now db).2
  | .transition event => (transition event db).2
  | .acquire resource task_id owner now ttl => (acquire resource task_id owner now ttl db).2
  | .renew lease now ttl => (renew lease now ttl db).2
  | .claimWorkspaces lease paths newId => (claimWorkspaces fs lease paths newId db).2
  | .release lease disposition now => (release lease disposition now db).2
  | .beginContinuation lease delivery_id prompt now =>
    (beginContinuation lease delivery_id prompt now db).2
  | .claimTurn seen lease revision now => (claimTurn seen lease revision now db).2
  | .claimTurnWithGeneration seen lease revision generation now =>
    (claimTurnWithGeneration seen lease revision generation now db).2
  | .recordContinue seen lease revision next_prompt observed_bytes now =>
    (recordContinue seen lease revision next_prompt observed_bytes now db).2
  | .recordContinueWithReceipt seen lease revision generation next_prompt observed_bytes
      outcome response now =>
    (recordContinueWithReceipt seen lease revision generation next_prompt observed_bytes
      outcome response now db).2
  | .recordActivity lease revision generation observed_bytes now =>
    (recordActivityWithGeneration lease revision generation observed_bytes now db).2
  | .finish seen lease revision generation state observed_bytes now =>
    (finishWithGeneration seen lease revision generation state observed_bytes now db).2
  | .finalizeTerminal seen lease revision generation state observed_bytes event now =>
    (finalizeTerminal seen lease revision generation state observed_bytes event now db).2
  | .refused => db
  | .elsewhere other =>
    { other with
      tasks := db.tasks, taskEvents := db.taskEvents, taskAdmissions := db.taskAdmissions,
      executionLeases := db.executionLeases, taskContinuations := db.taskContinuations,
      workspaceClaims := db.workspaceClaims }

/-- The store after a list of calls from `db`. -/
def runFrom (fs : FileSystem) (db : Db) (calls : List Call) : Db := calls.foldl (step fs) db

/-- The store after a list of calls from the empty one. -/
def run (fs : FileSystem) (calls : List Call) : Db := runFrom fs Db.empty calls

theorem runFrom_append (fs : FileSystem) (db : Db) (xs ys : List Call) :
    runFrom fs db (xs ++ ys) = runFrom fs (runFrom fs db xs) ys := by
  simp [runFrom, List.foldl_append]

/-- What one call keeps, every run keeps. -/
theorem runFrom_invariant {fs : FileSystem} (P : Db → Prop)
    (hstep : ∀ db call, P db → P (step fs db call)) (calls : List Call) {db : Db} (h : P db) :
    P (runFrom fs db calls) :=
  foldl_invariant P hstep calls h

end

end GuiguBridge
