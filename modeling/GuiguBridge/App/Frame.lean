import GuiguBridge.App.System
import GuiguBridge.Runtime.Frame

/-!
# The tables that a call of the bridge writes

* `BridgeCall.writes` — the tables that a call may write;
* `bridgeStep_frame` — **a call leaves every other table as it was**.
-/

namespace GuiguBridge

open Relational

/-! ### What a call may write -/

def QueueCall.writes : QueueCall → List DbTable
  | .admitQueuedWorkflow .. =>
    [.tasks, .taskEvents, .taskAdmissions, .workflowEnvelopes, .deliveries,
      .deliveryDispositions, .agentQueueCounters, .agentWorkQueue]
  | .claimQueue .. => [.executionLeases, .agentWorkQueue]
  | .renewQueueLease .. => [.executionLeases]
  | _ => [.agentQueueCounters, .agentWorkQueue]

def GatewayCall.writes : GatewayCall → List DbTable
  | .admitTaskReady .. =>
    [.tasks, .taskEvents, .taskAdmissions, .gatewayEnvelopes, .gatewayDeliveries]
  | .refused | .elsewhere _ => []
  | _ => [.gatewayEnvelopes, .gatewayDeliveries, .gatewayArtifacts]

def BridgeCall.writes : BridgeCall → List DbTable
  | .runtime (.elsewhere _) => []
  | .runtime call => call.writes
  | .queue call => call.writes
  | .gateway call => call.writes
  | .admitRetry .. => [.tasks, .taskEvents, .taskAdmissions, .transportReceipts, .projectionOutbox]
  | .admitWorkflow .. =>
    [.tasks, .taskEvents, .taskAdmissions, .workflowEnvelopes, .deliveries,
      .deliveryDispositions]
  | .reserveReceipt .. | .updateReceipt .. => [.transportReceipts]
  | .closure .. =>
    [.tasks, .taskEvents, .taskAdmissions, .executionLeases, .deliveries, .deliveryDispositions]
  | .enqueueReady .. | .restoreReady .. => [.taskAdmissions]
  | .beginRuntime .. | .stoppingRuntime .. | .stopRuntime .. | .heartbeatRuntime .. =>
    [.runtimeInstances]
  | .elsewhere _ =>
    [.continuationResponseReceipts, .deliveries, .deliveryDispositions, .projectionOutbox,
      .acpOutputSets, .acpOutputSegments, .acpOutputDeliverySegments, .acpOutputQuota]

/-! ### The frames -/

section

variable {writes : List DbTable} {t : DbTable}

theorem DbTable.apart_queue (h : writes.contains t = false)
    (hwrites : writes.contains .agentWorkQueue = true) : Db.agentWorkQueueL.Apart t.read := by
  intro x db
  cases t <;> first | rfl | exact absurd (h.symm.trans hwrites) Bool.false_ne_true

theorem DbTable.apart_counters (h : writes.contains t = false)
    (hwrites : writes.contains .agentQueueCounters = true) :
    Db.agentQueueCountersL.Apart t.read := by
  intro x db
  cases t <;> first | rfl | exact absurd (h.symm.trans hwrites) Bool.false_ne_true

theorem DbTable.apart_leases (h : writes.contains t = false)
    (hwrites : writes.contains .executionLeases = true) : Db.executionLeasesL.Apart t.read := by
  intro x db
  cases t <;> first | rfl | exact absurd (h.symm.trans hwrites) Bool.false_ne_true

end

section

variable [Externals]

theorem queue_frame (db : Db) (call : QueueCall) :
    Db.Frame call.writes db (queueStep db call) := by
  intro t ht
  cases call with
  | reserveQueue queue_id task_id delivery_id target room_id thread_root sender idempotency_key
      body_hash capacity now =>
    exact reserveQueue_keeps (DbTable.apart_queue ht rfl)
      (DbTable.apart_counters ht rfl) _ _ _ _ _ _ _ _ _ _ _ db
  | admitQueuedWorkflow input event_id queue_id room_id thread_root capacity =>
    obtain ⟨_, _, _, _, _, _, _, _, h⟩ := admitQueuedWorkflow_frame input event_id queue_id room_id
      thread_root capacity db
    rw [queueStep, h]
    cases t <;> first | rfl | cases ht
  | claimNext target resource owner fence now =>
    exact claimNext_keeps (DbTable.apart_queue ht rfl) _ _ _ _ _ db
  | claimQueue task_id picked now expires =>
    exact claimQueue_keeps (DbTable.apart_queue ht rfl) (DbTable.apart_leases ht rfl) _ _ _ _ db
  | markSendStarted claim resource owner now =>
    exact markSendStarted_keeps (DbTable.apart_queue ht rfl) _ _ _ _ db
  | markQueueSendStarted task_id lease now =>
    exact markQueueSendStarted_keeps (DbTable.apart_queue ht rfl) _ _ _ db
  | renewQueueLease task_id lease now expires =>
    exact renewQueueLease_keeps (DbTable.apart_leases ht rfl) _ _ _ _ db
  | pauseQueue queue_id revision owner fence now =>
    exact pauseQueue_keeps (DbTable.apart_queue ht rfl) _ _ _ _ _ db
  | pauseTaskQueued task_id now => exact DbTable.apart_queue ht rfl _ db
  | pauseTaskAfterReap task_id resource owner fence now =>
    exact pauseTaskAfterReap_keeps (DbTable.apart_queue ht rfl) _ _ _ _ _ db
  | markPauseRecoveryNeeded task_id now => exact DbTable.apart_queue ht rfl _ db
  | resumeTask task_id now => exact resumeTask_keeps (DbTable.apart_queue ht rfl) (DbTable.apart_counters ht rfl) _ _ db
  | resumeQueue queue_id revision owner fence now =>
    exact resumeQueue_keeps (DbTable.apart_queue ht rfl) (DbTable.apart_counters ht rfl) _ _ _ _ _ db
  | recoverQueue queue_id revision now => exact recoverQueue_keeps (DbTable.apart_queue ht rfl) _ _ _ db

omit [Externals] in
theorem updateDelivery_frame (p : GatewayDeliveryRow → Bool)
    (f : GatewayDeliveryRow → GatewayDeliveryRow) (check : GatewayDeliveryRow → Bool)
    (hf : ∀ d, (f d).key = d.key) (db : Db) :
    Db.Frame [.gatewayEnvelopes, .gatewayDeliveries, .gatewayArtifacts] db
      (updateDelivery p f check hf db).2 := by
  refine .intro fun r db' h => ?_
  rcases updateDelivery_cases h with ⟨-, rfl, -⟩ | ⟨-, rfl, -⟩ <;>
    exact fun table ht => by cases table <;> first | rfl | cases ht

theorem gateway_frame (fs : FileSystem) (db : Db) (call : GatewayCall) :
    Db.Frame call.writes db (bridgeStep fs db (.gateway call)) := by
  cases call with
  | admitTaskReady envelope conversation_id now runtime_instance sender_user event_id room_id
      thread_root generation =>
    refine .intro fun r db' h => ?_
    rcases admitTaskReady_cases h with ⟨hdb, -⟩ | ⟨-, h⟩
    · exact .of_eq hdb
    · rw [h.frame]
      exact fun table ht => by cases table <;> first | rfl | cases ht
  | reserveOutbound envelope room_id thread_root txn_id generation owner =>
    refine .intro fun r db' h => ?_
    rcases reserveOutbound_cases h with ⟨hdb, -⟩ | ⟨-, -, -, -, -, h⟩
    · exact .of_eq hdb
    · rw [h]
      exact fun table ht => by cases table <;> first | rfl | cases ht
  | transitionDelivery envelope_id phase owner revision => exact updateDelivery_frame _ _ _ _ _
  | beginOutboundAttempt envelope_id owner revision expected_phase =>
    exact updateDelivery_frame _ _ _ _ _
  | finishOutbound envelope_id owner revision phase event_id => exact updateDelivery_frame _ _ _ _ _
  | deleteCleanup envelope_id owner revision now =>
    show Db.Frame _ db (deleteCleanup envelope_id owner revision now db).2
    unfold deleteCleanup
    cases db.gatewayEnvelopes.get envelope_id with
    | none => exact .of_eq rfl
    | some r =>
      dsimp only
      split
      · exact fun table ht => by cases table <;> first | rfl | cases ht
      · exact .of_eq rfl
  | _ => exact fun table ht => by cases table <;> first | rfl | cases ht

/-- **A call leaves the tables that it does not write as they were.** -/
theorem bridgeStep_frame (fs : FileSystem) (db : Db) (call : BridgeCall) :
    Db.Frame call.writes db (bridgeStep fs db call) := by
  cases call with
  | runtime call =>
    have hstep := step_frame fs db call
    cases call with
    | elsewhere other => exact .of_eq rfl
    | _ => exact hstep
  | queue call => exact queue_frame db call
  | gateway call => exact gateway_frame fs db call
  | admitRetry input =>
    obtain ⟨_, _, _, _, _, h⟩ := admitRetry_frame input db
    rw [bridgeStep, h]
    exact fun table ht => by cases table <;> first | rfl | cases ht
  | admitWorkflow input event_id =>
    obtain ⟨_, _, _, _, _, _, h⟩ := admitWorkflow_frame input event_id db
    rw [bridgeStep, h]
    exact fun table ht => by cases table <;> first | rfl | cases ht
  | reserveReceipt transport external_event_id room_id receipt_kind route_kind now =>
    obtain ⟨_, h⟩ := reserveTransportReceipt_frame transport external_event_id room_id
      receipt_kind route_kind now db
    rw [bridgeStep, h]
    exact fun table ht => by cases table <;> first | rfl | cases ht
  | updateReceipt transport external_event_id state result_code task_id now =>
    obtain ⟨_, h⟩ := updateReceipt_frame transport external_event_id state result_code task_id
      now db
    rw [bridgeStep, h]
    exact fun table ht => by cases table <;> first | rfl | cases ht
  | closure context lease_mode =>
    rcases closure_cases fs context lease_mode db with h | h
    · exact .of_eq h
    · rw [h.frame]
      exact fun table ht => by cases table <;> first | rfl | cases ht
  | beginRuntime token fingerprint now =>
    obtain ⟨_, h⟩ := beginRuntime_frame token fingerprint now db
    rw [bridgeStep, h]
    exact fun table ht => by cases table <;> first | rfl | cases ht
  | _ => exact fun table ht => by cases table <;> first | rfl | cases ht

end

end GuiguBridge
