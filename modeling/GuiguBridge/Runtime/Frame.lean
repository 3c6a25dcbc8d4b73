import GuiguBridge.Runtime.System

/-!
# The tables that a call writes

A call is a change of a few tables.  What a result needs of all other calls is that they leave
its tables alone, so this is said once, for every call and every table.

* `DbTable`, `Db.Frame` — the tables of the store, and two stores that agree outside some of them;
* `Call.writes` — the tables that a call may write;
* `step_frame` — **a call leaves every other table as it was**.
-/

namespace GuiguBridge

open Relational

/-! ### Tables -/

inductive DbTable where
  | tasks | taskEvents | deliveries | executionLeases | taskContinuations
  | continuationResponseReceipts | workspaceClaims | transportReceipts | runtimeInstances
  | taskAdmissions | deliveryDispositions | projectionOutbox | acpOutputSets | acpOutputSegments
  | acpOutputDeliverySegments | acpOutputQuota | workflowEnvelopes | agentQueueCounters
  | agentWorkQueue | gatewayEnvelopes | gatewayDeliveries | gatewayArtifacts
  deriving DecidableEq

/-- What a table holds. -/
def DbTable.Rows : DbTable → Type
  | .tasks => Table TaskRow.task_id
  | .taskEvents => Table EventRow.event_id
  | .deliveries => Table DeliveryRow.delivery_id
  | .executionLeases => Table LeaseRow.resource_key
  | .taskContinuations => Table ContinuationRow.task_id
  | .continuationResponseReceipts => Table ResponseReceiptRow.idempotency_key
  | .workspaceClaims => Table ClaimRow.claim_id
  | .transportReceipts => Table TransportReceiptRow.key
  | .runtimeInstances => Table RuntimeInstanceRow.instance_token
  | .taskAdmissions => Table AdmissionRow.task_id
  | .deliveryDispositions => Table DispositionRow.delivery_id
  | .projectionOutbox => Table OutboxRow.key
  | .acpOutputSets => Table OutputSetRow.set_id
  | .acpOutputSegments => Table SegmentRow.key
  | .acpOutputDeliverySegments => Table DeliverySegmentRow.key
  | .acpOutputQuota => QuotaRow
  | .workflowEnvelopes => Table WorkflowEnvelopeRow.key
  | .agentQueueCounters => Table QueueCounterRow.target_endpoint_id
  | .agentWorkQueue => Table WorkQueueRow.queue_id
  | .gatewayEnvelopes => Table GatewayEnvelopeRow.envelope_id
  | .gatewayDeliveries => Table GatewayDeliveryRow.key
  | .gatewayArtifacts => Table GatewayArtifactRow.artifact_id

def DbTable.read : (t : DbTable) → Db → t.Rows
  | .tasks, db => db.tasks
  | .taskEvents, db => db.taskEvents
  | .deliveries, db => db.deliveries
  | .executionLeases, db => db.executionLeases
  | .taskContinuations, db => db.taskContinuations
  | .continuationResponseReceipts, db => db.continuationResponseReceipts
  | .workspaceClaims, db => db.workspaceClaims
  | .transportReceipts, db => db.transportReceipts
  | .runtimeInstances, db => db.runtimeInstances
  | .taskAdmissions, db => db.taskAdmissions
  | .deliveryDispositions, db => db.deliveryDispositions
  | .projectionOutbox, db => db.projectionOutbox
  | .acpOutputSets, db => db.acpOutputSets
  | .acpOutputSegments, db => db.acpOutputSegments
  | .acpOutputDeliverySegments, db => db.acpOutputDeliverySegments
  | .acpOutputQuota, db => db.acpOutputQuota
  | .workflowEnvelopes, db => db.workflowEnvelopes
  | .agentQueueCounters, db => db.agentQueueCounters
  | .agentWorkQueue, db => db.agentWorkQueue
  | .gatewayEnvelopes, db => db.gatewayEnvelopes
  | .gatewayDeliveries, db => db.gatewayDeliveries
  | .gatewayArtifacts, db => db.gatewayArtifacts

/-- Two stores that agree in every table but those that were written. -/
def Db.Frame (writes : List DbTable) (db db' : Db) : Prop :=
  ∀ t, writes.contains t = false → t.read db' = t.read db

section

variable {writes : List DbTable} {db db' : Db}

theorem Db.Frame.of_eq (h : db' = db) : Db.Frame writes db db' := fun _ _ => h ▸ rfl

end

/-! ### What a call may write -/

def Call.writes : Call → List DbTable
  | .admitTask .. => [.tasks, .taskEvents, .taskAdmissions, .transportReceipts]
  | .claimAdmission .. | .reclaimStoppedAdmission .. | .releaseAdmission .. => [.taskAdmissions]
  | .transition .. => [.tasks, .taskEvents, .taskAdmissions]
  | .acquire .. | .renew .. => [.executionLeases]
  | .claimWorkspaces .. => [.workspaceClaims]
  | .release .. => [.executionLeases, .workspaceClaims]
  | .beginContinuation .. | .claimTurn .. | .claimTurnWithGeneration .. | .recordContinue ..
  | .recordContinueWithReceipt .. | .recordActivity .. =>
    [.taskContinuations, .continuationResponseReceipts]
  | .finish .. => [.executionLeases, .taskContinuations, .deliveryDispositions]
  | .finalizeTerminal .. =>
    [.tasks, .taskEvents, .taskAdmissions, .executionLeases, .deliveries, .deliveryDispositions,
      .taskContinuations, .continuationResponseReceipts, .workspaceClaims, .projectionOutbox,
      .acpOutputSets]
  | .refused => []
  | .elsewhere _ =>
    [.deliveries, .continuationResponseReceipts, .transportReceipts, .runtimeInstances,
      .deliveryDispositions, .projectionOutbox, .acpOutputSets, .acpOutputSegments,
      .acpOutputDeliverySegments, .acpOutputQuota, .workflowEnvelopes, .agentQueueCounters,
      .agentWorkQueue, .gatewayEnvelopes, .gatewayDeliveries, .gatewayArtifacts]

/-! ### The frames -/

/-- The store after a call, from what is known of its answer and its store. -/
theorem Db.Frame.intro {ρ : Type} {writes : List DbTable} {db : Db} {p : ρ × Db}
    (h : ∀ r db', p = (r, db') → Db.Frame writes db db') : Db.Frame writes db p.2 := h _ _ rfl

section

variable [Externals]

omit [Externals] in
theorem TurnStep.frame {α : Type} {lease : Lease} {db db' : Db} {r : Except RuntimeError α}
    (h : TurnStep lease db db' r) :
    Db.Frame [.taskContinuations, .continuationResponseReceipts] db db' := by
  rcases h with ⟨hdb, -⟩ | ⟨-, -, t, u, rfl⟩
  · exact .of_eq hdb
  · exact fun table ht => by cases table <;> first | rfl | cases ht

/-- **A call leaves the tables that it does not write as they were.** -/
theorem step_frame (fs : FileSystem) (db : Db) (call : Call) :
    Db.Frame call.writes db (step fs db call) := by
  cases call with
  | admitTask task event runtime_instance context =>
    refine .intro fun r db' h => ?_
    rcases admitTask_cases h with rfl | ⟨-, t, ev, ad, rc, rfl, -⟩ <;>
      exact fun table ht => by cases table <;> first | rfl | cases ht
  | transition event =>
    refine .intro fun r db' h => ?_
    rcases transition_cases h with ⟨hdb, -⟩ | ⟨-, h⟩
    · exact .of_eq hdb
    · rw [h.frame]
      exact fun table ht => by cases table <;> first | rfl | cases ht
  | acquire resource task_id owner now ttl =>
    refine .intro fun r db' h => ?_
    rcases acquire_cases h with ⟨rfl, -⟩ | ⟨e, t, rfl, -⟩ | ⟨l, t, rfl, -⟩ | ⟨l, e, t, rfl, -⟩ <;>
      exact fun table ht => by cases table <;> first | rfl | cases ht
  | renew lease now ttl =>
    refine .intro fun r db' h => ?_
    rcases renew_cases h with ⟨rfl, -⟩ | ⟨l, e, t, rfl, -⟩ <;>
      exact fun table ht => by cases table <;> first | rfl | cases ht
  | claimWorkspaces lease paths newId =>
    refine .intro fun r db' h => ?_
    rcases claimWorkspaces_cases h with ⟨rfl, -⟩ | ⟨cs, new, t, rfl, -⟩ <;>
      exact fun table ht => by cases table <;> first | rfl | cases ht
  | release lease disposition now =>
    refine .intro fun r db' h => ?_
    rcases release_cases h with ⟨rfl, -⟩ | ⟨l, st, t, c, rfl, -⟩ <;>
      exact fun table ht => by cases table <;> first | rfl | cases ht
  | beginContinuation lease delivery_id prompt now => exact (beginContinuation_cases rfl).frame
  | claimTurn seen lease revision now => exact (claimTurnWhere_cases rfl).frame
  | claimTurnWithGeneration seen lease revision generation now =>
    exact (claimTurnWhere_cases rfl).frame
  | recordContinue seen lease revision next_prompt observed_bytes now =>
    exact (recordContinue_cases rfl).frame
  | recordContinueWithReceipt seen lease revision generation next_prompt observed_bytes outcome
      response now => exact (recordContinueWithReceipt_cases rfl).frame
  | recordActivity lease revision generation observed_bytes now =>
    exact (recordActivityWithGeneration_cases rfl).frame
  | finish seen lease revision generation state observed_bytes now =>
    refine .intro fun r db' h => ?_
    rcases finishWithGeneration_cases h with ⟨rfl, -⟩ | ⟨l, st, t, c, d, rfl, -⟩ <;>
      exact fun table ht => by cases table <;> first | rfl | cases ht
  | finalizeTerminal seen lease revision generation state observed_bytes event now =>
    refine .intro fun r db' h => ?_
    rcases finalizeTerminal_finalized h with ⟨hdb, -⟩ | ⟨-, hfinalized⟩
    · exact .of_eq hdb
    · rw [hfinalized.frame]
      exact fun table ht => by cases table <;> first | rfl | cases ht
  | _ => exact fun table ht => by cases table <;> first | rfl | cases ht

end

end GuiguBridge
