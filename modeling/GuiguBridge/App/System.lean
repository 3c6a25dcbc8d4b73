import GuiguBridge.Gateway.System
import GuiguBridge.Runtime.LeaseFencing
import GuiguBridge.Runtime.DurableLog
import GuiguBridge.Storage.Receipts
import GuiguBridge.Storage.WorkQueue

/-!
# The bridge as a system

All components share one store.  The runtime, the work queue, the gateway, the transports and
the administrators call it in any order, and processes stop and start between any two calls.

* `BridgeCall`, `bridgeStep`, `bridgeRun` — a call of any component, and the store after a list
  of them.  `elsewhere` is what the components that are not modelled do to the tables no
  modelled call guards; a crash is a call that never comes;
* `bridgeAt_invariant` — the rule for what every state of every run has;
* `closure_cases` — a closure as a call: nothing, or all of it.
-/

namespace GuiguBridge

open Relational

/-- One call of any component. -/
inductive BridgeCall where
  | runtime (call : Call)
  | queue (call : QueueCall)
  | gateway (call : GatewayCall)
  | admitRetry (input : RetryTaskInput)
  | admitWorkflow (input : WorkflowAdmission) (event_id : EventId)
  | reserveReceipt (transport external_event_id room_id receipt_kind route_kind now : String)
  | updateReceipt (transport external_event_id state result_code : String)
      (task_id : Option TaskId) (now : String)
  | closure (context : ClosureContext) (lease_mode : LeaseMode)
  | enqueueReady (task_id : TaskId) (runtime : String) (revision : Nat) (now : String)
  | restoreReady (task_id : TaskId) (runtime : String) (revision : Nat) (now : String)
  | beginRuntime (token fingerprint now : String)
  | stoppingRuntime (token now : String)
  | stopRuntime (token now : String)
  | heartbeatRuntime (token now : String)
  | elsewhere (other : Db)

section

variable [Externals]

/-- The store after one call.  What other components do is a call of its own here, not one
inside the runtime or the gateway. -/
def bridgeStep (fs : FileSystem) (db : Db) : BridgeCall → Db
  | .runtime (.elsewhere _) => db
  | .runtime call => step fs db call
  | .queue call => queueStep db call
  | .gateway (.elsewhere _) => db
  | .gateway call => gatewayStep db call
  | .admitRetry input => (admitRetry input db).2
  | .admitWorkflow input event_id => (admitWorkflow input event_id db).2
  | .reserveReceipt transport external_event_id room_id receipt_kind route_kind now =>
    (reserveTransportReceipt transport external_event_id room_id receipt_kind route_kind now
      db).2
  | .updateReceipt transport external_event_id state result_code task_id now =>
    (updateReceipt transport external_event_id state result_code task_id now db).2
  | .closure context lease_mode =>
    (Tx.commit id (do
      applyClosure context lease_mode fun e => (.error e : Except ClosureError Unit)
      pure (.ok ())) db).2
  | .enqueueReady task_id runtime revision now => (enqueueReady task_id runtime revision now db).2
  | .restoreReady task_id runtime revision now => (restoreReady task_id runtime revision now db).2
  | .beginRuntime token fingerprint now => (beginRuntime token fingerprint now db).2
  | .stoppingRuntime token now => (stoppingRuntime token now db).2
  | .stopRuntime token now => (stopRuntime token now db).2
  | .heartbeatRuntime token now => (heartbeatRuntime token now db).2
  | .elsewhere other =>
    { db with
      continuationResponseReceipts := other.continuationResponseReceipts
      deliveries := other.deliveries
      deliveryDispositions := other.deliveryDispositions
      projectionOutbox := other.projectionOutbox
      acpOutputSets := other.acpOutputSets
      acpOutputSegments := other.acpOutputSegments
      acpOutputDeliverySegments := other.acpOutputDeliverySegments
      acpOutputQuota := other.acpOutputQuota }

/-- The store after a list of calls from `db`. -/
def bridgeRunFrom (fs : FileSystem) (db : Db) (calls : List BridgeCall) : Db :=
  calls.foldl (bridgeStep fs) db

/-- The store after a list of calls from the empty one. -/
def bridgeRun (fs : FileSystem) (calls : List BridgeCall) : Db :=
  bridgeRunFrom fs Db.empty calls

/-- The store before the call at a position. -/
def bridgeAt (fs : FileSystem) (calls : List BridgeCall) (n : Nat) : Db :=
  bridgeRun fs (calls.take n)

theorem bridgeRun_snoc (fs : FileSystem) (calls : List BridgeCall) (call : BridgeCall) :
    bridgeRun fs (calls ++ [call]) = bridgeStep fs (bridgeRun fs calls) call := by
  simp [bridgeRun, bridgeRunFrom, List.foldl_append]

theorem bridgeRunFrom_append (fs : FileSystem) (db : Db) (xs ys : List BridgeCall) :
    bridgeRunFrom fs db (xs ++ ys) = bridgeRunFrom fs (bridgeRunFrom fs db xs) ys := by
  simp [bridgeRunFrom, List.foldl_append]

theorem bridgeAt_succ {fs : FileSystem} {calls : List BridgeCall} {n : Nat} {call : BridgeCall}
    (h : calls[n]? = some call) :
    bridgeAt fs calls (n + 1) = bridgeStep fs (bridgeAt fs calls n) call := by
  unfold bridgeAt
  rw [List.take_add_one, h]
  exact bridgeRun_snoc fs (calls.take n) call

/-- Past its end a run stands still. -/
theorem bridgeAt_end {fs : FileSystem} {calls : List BridgeCall} {n : Nat}
    (h : calls[n]? = none) : bridgeAt fs calls (n + 1) = bridgeAt fs calls n := by
  unfold bridgeAt
  rw [List.take_add_one, h]
  simp

/-- **The invariant rule.**  What the empty store has and every call keeps, every state of every
run has. -/
theorem bridgeAt_invariant {fs : FileSystem} {calls : List BridgeCall} (P : Db → Prop)
    (hempty : P Db.empty)
    (hstep : ∀ n call, calls[n]? = some call → P (bridgeAt fs calls n) →
      P (bridgeStep fs (bridgeAt fs calls n) call)) (n : Nat) : P (bridgeAt fs calls n) := by
  induction n with
  | zero => exact hempty
  | succ n ih =>
    cases hcall : calls[n]? with
    | none =>
      rw [bridgeAt_end hcall]
      exact ih
    | some call =>
      rw [bridgeAt_succ hcall]
      exact hstep n call hcall ih

end

section

variable [Externals] (fs : FileSystem) (db : Db)

theorem bridgeStep_gateway (call : GatewayCall) :
    bridgeStep fs db (.gateway call) = db ∨
      ((∀ other, call ≠ .elsewhere other) ∧
        bridgeStep fs db (.gateway call) = gatewayStep db call) := by
  cases call with
  | elsewhere other => exact Or.inl rfl
  | _ => exact Or.inr ⟨nofun, rfl⟩

end

section

variable [Externals]

/-! ### The closure as a call -/

theorem closure_cases (fs : FileSystem) (context : ClosureContext) (lease_mode : LeaseMode)
    (db : Db) :
    bridgeStep fs db (.closure context lease_mode) = db ∨
      ClosureStep context db (bridgeStep fs db (.closure context lease_mode)) := by
  obtain ⟨r, db', hcall⟩ : ∃ r db', (Tx.commit id (do
      applyClosure context lease_mode fun e => (.error e : Except ClosureError Unit)
      pure (.ok ())) db) = (r, db') := ⟨_, _, rfl⟩
  have hstep : bridgeStep fs db (.closure context lease_mode) = db' := congrArg Prod.snd hcall
  rw [hstep]
  rcases Tx.commit_cases hcall with hok | ⟨rfl, -⟩
  · simp only [Tx.bind_ok, Tx.pure_ok] at hok
    obtain ⟨_, s₁, happly, -, rfl⟩ := hok
    exact Or.inr (applyClosure_ok happly)
  · exact Or.inl rfl

end

end GuiguBridge
