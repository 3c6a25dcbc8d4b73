import GuiguBridge.App.QueueHistory
import GuiguBridge.App.TaskLog
import GuiguBridge.Gateway.Acceptance

/-!
# An envelope that comes again

A request of a peer is admitted once, and its transport may deliver it any number of times.
`admit_task_ready` recognises it by the identity of the peer and answers with the task it
became, after it has counted the rows that stand beside the envelope.

* `GatewayKept` — what a call does to the gateway's tables: no envelope that was received ever
  leaves, since nothing writes the state that the retention asks for;
* `Request` — the rows of an admitted request that stay for good, and `Request.step`;
* `Db.waitsUnder` — **the fourth row does not stay**: the admission is counted only while the
  task waits under the runtime that presents the envelope;
* `gateway_replay_iff` — in every later state of every run, the envelope is a replay exactly
  then; a different one under its identity is a collision, and a failing call leaves nothing.
-/

namespace GuiguBridge

open Relational

section

variable [Externals]

/-! ### The tables of the gateway in the bridge -/

/-- The tables of the gateway are as they were. -/
structure GatewayApart (db db' : Db) : Prop where
  envelopes : db'.gatewayEnvelopes = db.gatewayEnvelopes
  deliveries : db'.gatewayDeliveries = db.gatewayDeliveries
  artifacts : db'.gatewayArtifacts = db.gatewayArtifacts

/-- A call of the bridge is one of the gateway, or leaves its tables alone. -/
theorem bridge_gateway (fs : FileSystem) (db : Db) (call : BridgeCall) :
    (∃ gcall, (∀ other, gcall ≠ .elsewhere other) ∧ call = .gateway gcall ∧
      bridgeStep fs db call = gatewayStep db gcall) ∨
      GatewayApart db (bridgeStep fs db call) := by
  have hapart (he : call.writes.contains .gatewayEnvelopes = false)
      (hd : call.writes.contains .gatewayDeliveries = false)
      (ha : call.writes.contains .gatewayArtifacts = false) :
      GatewayApart db (bridgeStep fs db call) :=
    ⟨bridgeStep_frame fs db call .gatewayEnvelopes he,
      bridgeStep_frame fs db call .gatewayDeliveries hd,
      bridgeStep_frame fs db call .gatewayArtifacts ha⟩
  cases call with
  | runtime call => cases call <;> exact Or.inr (hapart rfl rfl rfl)
  | queue call => cases call <;> exact Or.inr (hapart rfl rfl rfl)
  | gateway call =>
    rcases bridgeStep_gateway fs db call with h | ⟨hcall, h⟩
    · rw [h]
      exact Or.inr ⟨rfl, rfl, rfl⟩
    · exact Or.inl ⟨call, hcall, rfl, h⟩
  | _ => exact Or.inr (hapart rfl rfl rfl)

theorem bridgeAt_gatewayInv (fs : FileSystem) (calls : List BridgeCall) (n : Nat) :
    GatewayInv (bridgeAt fs calls n) := by
  refine bridgeAt_invariant GatewayInv GatewayInv.empty ?_ n
  intro k call _ h
  rcases bridge_gateway fs (bridgeAt fs calls k) call with ⟨gcall, -, -, hstep⟩ | ⟨he, hd, ha⟩
  · rw [hstep]
    exact h.step (gatewayStep_cases _ gcall)
  · exact h.congr he hd ha

/-! ### Envelopes stay -/

/-- Every envelope is as it was received: no statement of the store writes its state. -/
def Received (db : Db) : Prop := ∀ e ∈ db.gatewayEnvelopes.rows, e.state = .received

/-- Every delivery is still there, under its key. -/
def DeliveriesKept (db db' : Db) : Prop :=
  ∀ d ∈ db.gatewayDeliveries.rows, ∃ d' ∈ db'.gatewayDeliveries.rows, d'.key = d.key

omit [Externals] in
theorem DeliveriesKept.of_eq {db db' : Db} (h : db'.gatewayDeliveries = db.gatewayDeliveries) :
    DeliveriesKept db db' := by
  intro d hd
  exact ⟨d, h ▸ hd, rfl⟩

omit [Externals] in
theorem DeliveriesKept.of_insert {db db' : Db} {d : GatewayDeliveryRow}
    (h : db.gatewayDeliveries.insert d = some db'.gatewayDeliveries) : DeliveriesKept db db' := by
  intro x hx
  exact ⟨x, (Table.mem_insert h).mpr (Or.inl hx), rfl⟩

/-- What a call does to the tables of the gateway where every envelope is as received. -/
inductive GatewayKept (db db' : Db) : Prop where
  | same (henvelopes : db'.gatewayEnvelopes = db.gatewayEnvelopes)
      (hdeliveries : DeliveriesKept db db')
  | inserted (e : GatewayEnvelopeRow) (hstate : e.state = .received)
      (henvelope : db.gatewayEnvelopes.insert e = some db'.gatewayEnvelopes)
      (hdeliveries : DeliveriesKept db db')

omit [Externals] in
theorem updateDelivery_kept {p : GatewayDeliveryRow → Bool}
    {f : GatewayDeliveryRow → GatewayDeliveryRow} {check : GatewayDeliveryRow → Bool}
    {hf : ∀ d, (f d).key = d.key} {db : Db} :
    GatewayKept db (updateDelivery p f check hf db).2 := by
  rcases updateDelivery_cases (Prod.mk.eta (p := updateDelivery p f check hf db)).symm with
    ⟨-, h, -⟩ | ⟨-, h, -⟩
  · rw [h]
    exact .same rfl (.of_eq rfl)
  · rw [h]
    refine .same rfl ?_
    intro d hd
    exact Table.exists_updateWhere hf hd

/-- The retention asks for an envelope that has ended. -/
theorem retentionOver_received {r : GatewayEnvelopeRow} (h : r.state = .received)
    (now : String) : r.retentionOver now = false := by
  simp [GatewayEnvelopeRow.retentionOver, h]

theorem claimCleanup_received {db : Db} (h : Received db) (owner now : String)
    (picked : Uuid → Bool) : (claimCleanup owner now picked db).2 = db := by
  have hzero : db.gatewayEnvelopes.affected (fun r : GatewayEnvelopeRow =>
      r.retentionOver now && r.cleanupFree owner now db && picked r.envelope_id) = 0 := by
    rw [Table.affected_eq_zero_iff]
    intro r hr
    rw [retentionOver_received (h r hr) now]
    rfl
  have hkey : ∀ r, (GatewayEnvelopeRow.claimedBy owner now r).envelope_id = r.envelope_id :=
    fun _ => rfl
  have hsame := Table.updateWhere_of_affected_zero hkey hzero
  show { db with gatewayEnvelopes := _ } = db
  rw [hsame]

theorem deleteCleanup_received {db : Db} (h : Received db) (envelope_id : Uuid)
    (owner : String) (revision : Nat) (now : String) :
    (deleteCleanup envelope_id owner revision now db).2 = db := by
  unfold deleteCleanup
  cases hget : db.gatewayEnvelopes.get envelope_id with
  | none => rfl
  | some r =>
    have hno : r.deletable owner revision now db = false := by
      simp [GatewayEnvelopeRow.deletable,
        retentionOver_received (h r (Table.mem_of_get hget)) now]
    simp [hno]

theorem gatewayStep_kept {db : Db} (h : Received db) (call : GatewayCall)
    (hcall : ∀ other, call ≠ .elsewhere other) : GatewayKept db (gatewayStep db call) := by
  cases call with
  | admitTaskReady envelope conversation_id now runtime_instance sender_user event_id room_id
      thread_root generation =>
    obtain ⟨r, db', hdone⟩ : ∃ r db', admitTaskReady envelope conversation_id now
      runtime_instance sender_user event_id room_id thread_root generation db = (r, db') :=
        ⟨_, _, rfl⟩
    have hstep : gatewayStep db (.admitTaskReady envelope conversation_id now runtime_instance
        sender_user event_id room_id thread_root generation) = db' := congrArg Prod.snd hdone
    rw [hstep]
    rcases admitTaskReady_cases hdone with ⟨rfl, -⟩ | ⟨-, hrequest⟩
    · exact .same rfl (.of_eq rfl)
    · exact .inserted _ rfl hrequest.stored (.of_insert hrequest.delivery)
  | reserveOutbound envelope room_id thread_root txn_id generation owner =>
    obtain ⟨r, db', hreserve⟩ : ∃ r db', reserveOutbound envelope room_id thread_root txn_id
      generation owner db = (r, db') := ⟨_, _, rfl⟩
    have hstep : gatewayStep db (.reserveOutbound envelope room_id thread_root txn_id generation
        owner) = db' := congrArg Prod.snd hreserve
    rw [hstep]
    rcases reserveOutbound_cases hreserve with ⟨rfl, -⟩ | ⟨-, -, -, henvelope, hdelivery, -⟩
    · exact .same rfl (.of_eq rfl)
    · exact .inserted _ rfl henvelope (.of_insert hdelivery)
  | transitionDelivery envelope_id phase owner revision => exact updateDelivery_kept
  | beginOutboundAttempt envelope_id owner revision expected_phase => exact updateDelivery_kept
  | finishOutbound envelope_id owner revision phase event_id => exact updateDelivery_kept
  | claimCleanup owner now picked =>
    rw [show gatewayStep db (.claimCleanup owner now picked) = db from
      claimCleanup_received h owner now picked]
    exact .same rfl (.of_eq rfl)
  | deleteCleanup envelope_id owner revision now =>
    rw [show gatewayStep db (.deleteCleanup envelope_id owner revision now) = db from
      deleteCleanup_received h envelope_id owner revision now]
    exact .same rfl (.of_eq rfl)
  | refused => exact .same rfl (.of_eq rfl)
  | elsewhere other => exact absurd rfl (hcall other)

/-- **Every call keeps the envelopes.** -/
theorem bridge_kept (fs : FileSystem) {db : Db} (h : Received db) (call : BridgeCall) :
    GatewayKept db (bridgeStep fs db call) := by
  rcases bridge_gateway fs db call with ⟨gcall, hgcall, -, hstep⟩ | happart
  · rw [hstep]
    exact gatewayStep_kept h gcall hgcall
  · exact .same happart.envelopes (.of_eq happart.deliveries)

omit [Externals] in
theorem Received.step {db db' : Db} (h : Received db) (hkept : GatewayKept db db') :
    Received db' := by
  intro e he
  cases hkept with
  | same henvelopes hdeliveries => exact h e (henvelopes ▸ he)
  | inserted x hstate henvelope hdeliveries =>
    rcases (Table.mem_insert henvelope).mp he with hold | rfl
    · exact h e hold
    · exact hstate

theorem bridgeAt_received (fs : FileSystem) (calls : List BridgeCall) (n : Nat) :
    Received (bridgeAt fs calls n) := by
  refine bridgeAt_invariant Received ?_ (fun _ call _ h => h.step (bridge_kept fs h call)) n
  intro e he
  cases he

/-! ### The rows that stay -/

/-- The rows of an admitted request that stay. -/
structure Request (envelope : GatewayEnvelope) (sender_user : String) (db : Db) : Prop where
  winner : ∃ e, db.inboundWinner envelope.peer_id sender_user envelope.idempotency_key = some e ∧
    e.internal_task_id = some envelope.taskId ∧ e.payload_sha256 = envelope.payload_sha256
  delivery : ∃ d ∈ db.gatewayDeliveries.rows,
    d.key = (envelope.envelope_id, .inbound, "matrix")
  task : ∃ row ∈ db.tasks.rows, row.task_id = envelope.taskId ∧
    row.root_task_id = envelope.taskId
  event : ∃ e ∈ db.taskEvents.rows, e.task_id = envelope.taskId ∧ e.seq = 1 ∧
    e.status = .queued ∧ e.event_id = envelope.eventId

omit [Externals] in
/-- The identity of an envelope is answered by the first row that has it. -/
theorem inboundWinner_insert {db db' : Db} {e x : GatewayEnvelopeRow}
    {peer_id sender_user idempotency_key : String}
    (h : db.gatewayEnvelopes.insert x = some db'.gatewayEnvelopes)
    (he : db.inboundWinner peer_id sender_user idempotency_key = some e) :
    db'.inboundWinner peer_id sender_user idempotency_key = some e := by
  have hrows := ((Table.insert_eq_some_iff _ _ _).mp h).2
  unfold Db.inboundWinner at he ⊢
  rw [hrows, List.find?_append, he]
  rfl

/-- **One call keeps the rows of a request.** -/
theorem Request.step {envelope : GatewayEnvelope} {sender_user : String} {db db' : Db}
    {call : BridgeCall} (h : Request envelope sender_user db) (hkept : GatewayKept db db')
    (hlog : BridgeLog db call db') : Request envelope sender_user db' := by
  obtain ⟨d, hd, hkey⟩ := h.delivery
  obtain ⟨row, hrow, htask, hroot⟩ := h.task
  obtain ⟨e, he, hevent⟩ := h.event
  refine ⟨?_, ?_, ?_, ?_⟩
  · obtain ⟨w, hw, hrest⟩ := h.winner
    refine ⟨w, ?_, hrest⟩
    cases hkept with
    | same henvelopes hdeliveries =>
      unfold Db.inboundWinner
      rw [henvelopes]
      exact hw
    | inserted x hstate henvelope hdeliveries => exact inboundWinner_insert henvelope hw
  · have hdeliveries : DeliveriesKept db db' := by
      cases hkept with
      | same henvelopes hdeliveries => exact hdeliveries
      | inserted x hstate henvelope hdeliveries => exact hdeliveries
    obtain ⟨d', hd', hkey'⟩ := hdeliveries d hd
    exact ⟨d', hd', hkey'.trans hkey⟩
  · cases hlog with
    | same htasks hevents hadmissions => exact ⟨row, htasks ▸ hrow, htask, hroot⟩
    | moved t a a' htasks hevents ha hopen hopen' hrevision hputs =>
      exact ⟨row, htasks ▸ hrow, htask, hroot⟩
    | admitted row' e' a hcall hadmitted =>
      exact ⟨row, (Table.mem_insert hadmitted.task).mpr (Or.inl hrow), htask, hroot⟩
    | appended event a a' hcall htasks happended ha hopen hclose hrevision hputs =>
      obtain ⟨version, hkept⟩ := htasks.kept row hrow
      exact ⟨{ row with version := version }, hkept, htask, hroot⟩
  · refine ⟨e, ?_, hevent⟩
    cases hlog with
    | same htasks hevents hadmissions => exact hevents ▸ he
    | moved t a a' htasks hevents ha hopen hopen' hrevision hputs => exact hevents ▸ he
    | admitted row e' a hcall hadmitted => exact (Table.mem_insert hadmitted.event).mpr (Or.inl he)
    | appended event a a' hcall htasks happended ha hopen hclose hrevision hputs =>
      exact (Table.mem_insert happended).mpr (Or.inl he)

/-- The rows of a request as its admission leaves them. -/
theorem RequestStep.request {envelope : GatewayEnvelope} {conversation_id : ConversationId}
    {now runtime_instance sender_user event_id room_id : String} {thread_root : Option String}
    {generation : UInt64} {db db' : Db}
    (h : RequestStep envelope conversation_id now runtime_instance sender_user event_id room_id
      thread_root generation db db') : Request envelope sender_user db' where
  winner := by
    refine ⟨envelope.inboundRow sender_user now generation, ?_, rfl, rfl⟩
    have hrows := ((Table.insert_eq_some_iff _ _ _).mp h.stored).2
    have hunseen := h.unseen
    unfold Db.inboundWinner at hunseen ⊢
    rw [hrows, List.find?_append, hunseen, Option.none_or]
    refine List.find?_cons_of_pos ?_
    exact decide_eq_true rfl
  delivery := ⟨_, (Table.mem_insert h.delivery).mpr (Or.inr rfl), rfl⟩
  task := ⟨_, (Table.mem_insert h.admitted.task).mpr (Or.inr rfl), rfl, rfl⟩
  event := ⟨_, (Table.mem_insert h.admitted.event).mpr (Or.inr rfl), rfl, rfl, rfl, rfl⟩

theorem RequestStep.waiting {envelope : GatewayEnvelope} {conversation_id : ConversationId}
    {now runtime_instance sender_user event_id room_id : String} {thread_root : Option String}
    {generation : UInt64} {db db' : Db}
    (h : RequestStep envelope conversation_id now runtime_instance sender_user event_id room_id
      thread_root generation db db') :
    db'.taskAdmissions.get envelope.taskId =
      some (envelope.readyAdmission now runtime_instance) :=
  Table.get_of_mem ((Table.mem_insert h.admitted.admission).mpr (Or.inr rfl))

/-- **The rows of a request stay in every later state of the run.** -/
theorem bridgeAt_request {fs : FileSystem} {calls : List BridgeCall} {i n : Nat}
    {envelope : GatewayEnvelope} {sender_user : String}
    (h : Request envelope sender_user (bridgeAt fs calls i)) (hn : i ≤ n) :
    Request envelope sender_user (bridgeAt fs calls n) := by
  induction n, hn using Nat.le_induction with
  | base => exact h
  | succ n hn ih =>
    cases hcall : calls[n]? with
    | none =>
      rw [bridgeAt_end hcall]
      exact ih
    | some call =>
      rw [bridgeAt_succ hcall]
      exact ih.step (bridge_kept fs (bridgeAt_received fs calls n) call) (bridge_log fs _ call)

/-! ### The counts beside an envelope -/

/-- The runtime is active. -/
def Db.runtimeActive (db : Db) (runtime_instance : String) : Prop :=
  ∃ r, db.runtimeInstances.get runtime_instance = some r ∧ r.state = .active

/-- The task waits, and waits under this runtime. -/
def Db.waitsUnder (db : Db) (task_id : TaskId) (runtime_instance : String) : Prop :=
  ∃ a, db.taskAdmissions.get task_id = some a ∧ (a.state = .ready ∨ a.state = .enqueued) ∧
    a.runtime_instance = some runtime_instance

section

variable {envelope : GatewayEnvelope} {sender_user runtime_instance : String} {db : Db}

omit [Externals] in
theorem Request.deliveries (h : Request envelope sender_user db) (hinv : GatewayInv db) :
    (db.siblings envelope runtime_instance).1 = 1 := by
  obtain ⟨d, hd, hkey⟩ := h.delivery
  have hcongr : db.gatewayDeliveries.affected (fun d : GatewayDeliveryRow =>
      decide (d.envelope_id = envelope.envelope_id ∧ d.direction = .inbound ∧
        d.event_id.isSome)) =
      db.gatewayDeliveries.affected fun d : GatewayDeliveryRow =>
        decide (d.key = (envelope.envelope_id, .inbound, "matrix")) := by
    -- every delivery goes over Matrix, and an inbound one has its event
    refine Table.affected_congr ?_
    intro d hd
    have htransport := hinv.transport d hd
    have hcheck := hinv.checked d hd
    rw [decide_eq_decide]
    constructor
    · rintro ⟨hid, hdirection, -⟩
      simp [GatewayDeliveryRow.key, hid, hdirection, htransport]
    · intro hkey
      simp only [GatewayDeliveryRow.key, Prod.mk.injEq] at hkey
      refine ⟨hkey.1, hkey.2.1, ?_⟩
      simp only [GatewayDeliveryRow.check, hkey.2.1, Bool.and_eq_true] at hcheck
      exact hcheck.2.2
  show db.gatewayDeliveries.affected _ = 1
  rw [hcongr, Table.affected_eq_one_iff (fun d hd => of_decide_eq_true hd)]
  exact ⟨d, (Table.get_eq_some_iff _ _ _).mpr ⟨hd, hkey⟩, decide_eq_true hkey⟩

omit [Externals] in
theorem Request.tasks (h : Request envelope sender_user db) :
    (db.siblings envelope runtime_instance).2.1 = 1 := by
  obtain ⟨row, hrow, htask, hroot⟩ := h.task
  show db.tasks.affected _ = 1
  rw [Table.affected_eq_one_iff (fun d hd => (of_decide_eq_true hd).1)]
  exact ⟨row, (Table.get_eq_some_iff _ _ _).mpr ⟨hrow, htask⟩, decide_eq_true ⟨htask, hroot⟩⟩

omit [Externals] in
theorem Request.events (h : Request envelope sender_user db) :
    (db.siblings envelope runtime_instance).2.2.1 = 1 := by
  obtain ⟨e, he, hevent⟩ := h.event
  show db.taskEvents.affected _ = 1
  rw [Table.affected_eq_one_iff (fun d hd => (of_decide_eq_true hd).2.2.2)]
  exact ⟨e, (Table.get_eq_some_iff _ _ _).mpr ⟨he, hevent.2.2.2⟩, decide_eq_true hevent⟩

omit [Externals] in
theorem siblings_admissions :
    (db.siblings envelope runtime_instance).2.2.2 = 1 ↔
      db.waitsUnder envelope.taskId runtime_instance := by
  show db.taskAdmissions.affected _ = 1 ↔ _
  rw [Table.affected_eq_one_iff (fun d hd => (of_decide_eq_true hd).1)]
  constructor
  · rintro ⟨a, ha, hp⟩
    exact ⟨a, ha, (of_decide_eq_true hp).2⟩
  · rintro ⟨a, ha, hwait⟩
    exact ⟨a, ha, decide_eq_true ⟨Table.key_of_get ha, hwait⟩⟩

omit [Externals] in
/-- **Of the four counts, only that of the admission can fail.** -/
theorem Request.siblings_iff (h : Request envelope sender_user db) (hinv : GatewayInv db) :
    db.siblings envelope runtime_instance = (1, 1, 1, 1) ↔
      db.waitsUnder envelope.taskId runtime_instance := by
  rw [← siblings_admissions, Prod.ext_iff, Prod.ext_iff, Prod.ext_iff]
  simp only [h.deliveries hinv, h.tasks, h.events, true_and]

end

/-! ### The answers of `admit_task_ready` -/

omit [Externals] in
theorem fenceRuntime_active {runtime_instance : String} {db : Db}
    (h : db.runtimeActive runtime_instance) : fenceRuntime runtime_instance db = .ok ((), db) := by
  obtain ⟨r, hr, hactive⟩ := h
  have hone : db.runtimeInstances.affected (fun r : RuntimeInstanceRow =>
      decide (r.instance_token = runtime_instance ∧ r.state = .active)) = 1 := by
    rw [Table.affected_eq_one_iff (fun r hr => (of_decide_eq_true hr).1)]
    exact ⟨r, hr, decide_eq_true ⟨Table.key_of_get hr, hactive⟩⟩
  have hok : fenceRuntime runtime_instance db = .ok ((), { db with
      runtimeInstances := db.runtimeInstances.updateWhere (fun r : RuntimeInstanceRow =>
        decide (r.instance_token = runtime_instance ∧ r.state = .active)) (fun r => r)
        (fun _ => rfl) }) := by
    unfold fenceRuntime
    rw [Tx.bind_apply, Tx.update_apply]
    show Tx.require (decide (db.runtimeInstances.affected _ = 1)) _ _ = _
    rw [hone]
    rfl
  rw [hok, (fenceRuntime_ok hok).1]

omit [Externals] in
theorem fenceRuntime_stopped {runtime_instance : String} {db : Db}
    (h : ¬ db.runtimeActive runtime_instance) :
    fenceRuntime runtime_instance db =
      .error (.error (.protocol "gateway runtime is not active")) := by
  have hzero : ¬ db.runtimeInstances.affected (fun r : RuntimeInstanceRow =>
      decide (r.instance_token = runtime_instance ∧ r.state = .active)) = 1 := by
    rw [Table.affected_eq_one_iff (fun r hr => (of_decide_eq_true hr).1)]
    rintro ⟨r, hr, hp⟩
    exact h ⟨r, hr, (of_decide_eq_true hp).2⟩
  unfold fenceRuntime
  rw [Tx.bind_apply, Tx.update_apply]
  show Tx.require (decide (db.runtimeInstances.affected _ = 1)) _ _ = _
  rw [decide_eq_false hzero]
  rfl

section

variable {envelope : GatewayEnvelope} {conversation_id : ConversationId}
  {now runtime_instance sender_user event_id room_id : String} {thread_root : Option String}
  {generation : UInt64} {db : Db}

theorem admitTaskReady_stopped (h : ¬ db.runtimeActive runtime_instance) :
    admitTaskReady envelope conversation_id now runtime_instance sender_user event_id room_id
      thread_root generation db =
      (.error (.protocol "gateway runtime is not active"), db) :=
  Tx.commit_of_error (Tx.bind_of_error (fenceRuntime_stopped h))

theorem admitTaskReady_seen (h : db.runtimeActive runtime_instance)
    {existing : GatewayEnvelopeRow}
    (hwinner : db.inboundWinner envelope.peer_id sender_user envelope.idempotency_key =
      some existing) :
    admitTaskReady envelope conversation_id now runtime_instance sender_user event_id room_id
      thread_root generation db =
      Tx.commit id (replayEnvelope envelope runtime_instance existing) db := by
  unfold admitTaskReady
  simp only [Tx.commit, Tx.bind_of_ok (fenceRuntime_active h), Tx.bind_apply, Tx.read_apply,
    hwinner]

/-- A known envelope with its own task and payload is answered by the counts. -/
theorem admitTaskReady_same (h : db.runtimeActive runtime_instance)
    {existing : GatewayEnvelopeRow}
    (hwinner : db.inboundWinner envelope.peer_id sender_user envelope.idempotency_key =
      some existing)
    (htask : existing.internal_task_id = some envelope.taskId)
    (hpayload : existing.payload_sha256 = envelope.payload_sha256) :
    admitTaskReady envelope conversation_id now runtime_instance sender_user event_id room_id
      thread_root generation db =
      (if db.siblings envelope runtime_instance = (1, 1, 1, 1) then
        .ok (.replay envelope.taskId)
      else .error (.protocol "gateway sibling corruption"), db) := by
  rw [admitTaskReady_seen h hwinner]
  by_cases hcount : db.siblings envelope runtime_instance = (1, 1, 1, 1)
  · rw [if_pos hcount]
    apply Tx.commit_of_ok
    simp only [replayEnvelope, htask, hpayload, Tx.bind_apply, Tx.orElse_some, Tx.read_apply,
      hcount, and_self, decide_true, Tx.require_true, Tx.pure_apply]
  · rw [if_neg hcount]
    refine Tx.commit_of_error (β := Except GatewayError TaskWinner) ?_
    simp only [replayEnvelope, htask, hpayload, Tx.bind_apply, Tx.orElse_some, Tx.read_apply,
      hcount, and_self, decide_true, decide_false, Tx.require_true, Tx.require_false]

/-- Another task or payload under a known identity. -/
theorem admitTaskReady_other (h : db.runtimeActive runtime_instance)
    {existing : GatewayEnvelopeRow} {task_id : TaskId}
    (hwinner : db.inboundWinner envelope.peer_id sender_user envelope.idempotency_key =
      some existing)
    (htask : existing.internal_task_id = some task_id)
    (hother : task_id ≠ envelope.taskId ∨ existing.payload_sha256 ≠ envelope.payload_sha256) :
    admitTaskReady envelope conversation_id now runtime_instance sender_user event_id room_id
      thread_root generation db =
      (.error (.protocol "gateway idempotency collision"), db) := by
  rw [admitTaskReady_seen h hwinner]
  refine Tx.commit_of_error (β := Except GatewayError TaskWinner) ?_
  have hno : ¬ (task_id = envelope.taskId ∧
      existing.payload_sha256 = envelope.payload_sha256) := by
    rintro ⟨ht, hp⟩
    exact hother.elim (· ht) (· hp)
  simp only [replayEnvelope, htask, Tx.bind_apply, Tx.orElse_some, hno, decide_false,
    Tx.require_false]

/-- A call that reports an insertion wrote the rows of the request. -/
theorem admitTaskReady_inserted
    (h : (admitTaskReady envelope conversation_id now runtime_instance sender_user event_id
      room_id thread_root generation db).1 = .ok (.inserted envelope.taskId)) :
    RequestStep envelope conversation_id now runtime_instance sender_user event_id room_id
      thread_root generation db (admitTaskReady envelope conversation_id now runtime_instance
        sender_user event_id room_id thread_root generation db).2 := by
  obtain ⟨r, db', hdone⟩ : ∃ r db', admitTaskReady envelope conversation_id now
    runtime_instance sender_user event_id room_id thread_root generation db = (r, db') :=
      ⟨_, _, rfl⟩
  rw [hdone] at h ⊢
  rcases admitTaskReady_cases hdone with ⟨-, hno⟩ | ⟨-, hrequest⟩
  · exact absurd h (hno _)
  · exact hrequest

/-- A request whose rows are all free is admitted. -/
theorem admitTaskReady_new {t : Table TaskRow.task_id} {ev : Table EventRow.event_id}
    {ad : Table AdmissionRow.task_id} {en : Table GatewayEnvelopeRow.envelope_id}
    {de : Table GatewayDeliveryRow.key} (hactive : db.runtimeActive runtime_instance)
    (hwinner : db.inboundWinner envelope.peer_id sender_user envelope.idempotency_key = none)
    (ht : db.tasks.insert (envelope.taskRow conversation_id) = some t)
    (htaken : ∀ e ∈ db.taskEvents.rows, ¬ (e.task_id = envelope.taskId ∧ e.seq = 1))
    (hev : db.taskEvents.insert (envelope.queuedRow now) = some ev)
    (had : db.taskAdmissions.insert (envelope.readyAdmission now runtime_instance) = some ad)
    (hbudget : db.retainedBytes + envelope.encodedLen < retainedBytesHigh)
    (hfree : db.envelopeFree (envelope.inboundRow sender_user now generation) = true)
    (hcheck : (envelope.inboundRow sender_user now generation).check = true)
    (hen : db.gatewayEnvelopes.insert (envelope.inboundRow sender_user now generation) = some en)
    (hde : db.gatewayDeliveries.insert (envelope.inboundDelivery event_id room_id thread_root) =
      some de) :
    (admitTaskReady envelope conversation_id now runtime_instance sender_user event_id room_id
      thread_root generation db).1 = .ok (.inserted envelope.taskId) := by
  have hevent : insertEvent (ρ := Except GatewayError TaskWinner) (envelope.queuedRow now)
      (.error (.sql .constraint)) { db with tasks := t } =
      .ok ((), { db with tasks := t, taskEvents := ev }) :=
    insertEvent_free (Nat.le_refl 1) htaken hev rfl
  have henvelope : ∀ s : Db, s.gatewayEnvelopes = db.gatewayEnvelopes →
      insertEnvelope (ρ := Except GatewayError TaskWinner)
        (envelope.inboundRow sender_user now generation) (.error (.sql .constraint)) s =
      .ok ((), { s with gatewayEnvelopes := en }) := by
    intro s hs
    have hfree' : s.envelopeFree (envelope.inboundRow sender_user now generation) = true := by
      unfold Db.envelopeFree
      rw [hs]
      exact hfree
    rw [insertEnvelope, Tx.bind_of_ok Tx.read_apply, hfree', hcheck,
      Tx.bind_of_ok (show Tx.require (true && true) _ s = .ok ((), s) from rfl)]
    have hen' : s.gatewayEnvelopes.insert (envelope.inboundRow sender_user now generation) =
        some en := by
      rw [hs]
      exact hen
    exact Tx.insert_free (l := Db.gatewayEnvelopesL) hen'
  have hdelivery : ∀ s : Db, s.gatewayDeliveries = db.gatewayDeliveries →
      insertGatewayDelivery (ρ := Except GatewayError TaskWinner)
        (envelope.inboundDelivery event_id room_id thread_root) (.error (.sql .constraint)) s =
      .ok ((), { s with gatewayDeliveries := de }) := by
    intro s hs
    rw [insertGatewayDelivery, Tx.bind_of_ok (show Tx.require
      (envelope.inboundDelivery event_id room_id thread_root).check _ s = .ok ((), s) from rfl)]
    have hde' : s.gatewayDeliveries.insert
        (envelope.inboundDelivery event_id room_id thread_root) = some de := by
      rw [hs]
      exact hde
    exact Tx.insert_free (l := Db.gatewayDeliveriesL) hde'
  have hadmission : Tx.insert Db.taskAdmissionsL (envelope.readyAdmission now runtime_instance)
      (Except.error (GatewayError.sql .constraint) : Except GatewayError TaskWinner)
      { db with tasks := t, taskEvents := ev } =
      .ok ((), { db with tasks := t, taskEvents := ev, taskAdmissions := ad }) :=
    Tx.insert_free (l := Db.taskAdmissionsL) had
  have hroom : decide (Db.retainedBytes { db with tasks := t, taskEvents := ev,
                                                  taskAdmissions := ad } +
      envelope.encodedLen < retainedBytesHigh) = true := decide_eq_true hbudget
  refine Tx.commit_fst
    { db with tasks := t, taskEvents := ev, taskAdmissions := ad, gatewayEnvelopes := en,
              gatewayDeliveries := de } ?_
  rw [Tx.bind_of_ok (fenceRuntime_active hactive), Tx.bind_of_ok Tx.read_apply, hwinner]
  show insertRequest envelope conversation_id now runtime_instance sender_user event_id room_id
    thread_root generation db = _
  rw [insertRequest, Tx.bind_of_ok (Tx.insert_free (l := Db.tasksL) ht), Tx.bind_of_ok hevent,
    Tx.bind_of_ok hadmission, Tx.bind_of_ok Tx.read_apply]
  show (Tx.require (decide _) _ >>= _) _ = _
  rw [hroom, Tx.bind_of_ok Tx.require_true,
    Tx.bind_of_ok (henvelope { db with tasks := t, taskEvents := ev, taskAdmissions := ad } rfl),
    Tx.bind_of_ok (hdelivery { db with tasks := t, taskEvents := ev, taskAdmissions := ad,
                                       gatewayEnvelopes := en } rfl)]
  rfl

/-- The first request of a store. -/
theorem admitTaskReady_first (hactive : db.runtimeActive runtime_instance)
    (htasks : db.tasks.rows = []) (hevents : db.taskEvents.rows = [])
    (hadmissions : db.taskAdmissions.rows = []) (henvelopes : db.gatewayEnvelopes.rows = [])
    (hdeliveries : db.gatewayDeliveries.rows = [])
    (hcheck : (envelope.inboundRow sender_user now generation).check = true)
    (hbudget : db.retainedBytes + envelope.encodedLen < retainedBytesHigh) :
    (admitTaskReady envelope conversation_id now runtime_instance sender_user event_id room_id
      thread_root generation db).1 = .ok (.inserted envelope.taskId) := by
  obtain ⟨t, ht⟩ : ∃ t, db.tasks.insert (envelope.taskRow conversation_id) = some t :=
    Table.exists_insert (by simp [htasks])
  obtain ⟨ev, hev⟩ : ∃ t, db.taskEvents.insert (envelope.queuedRow now) = some t :=
    Table.exists_insert (by simp [hevents])
  obtain ⟨ad, had⟩ : ∃ t, db.taskAdmissions.insert
      (envelope.readyAdmission now runtime_instance) = some t :=
    Table.exists_insert (by simp [hadmissions])
  obtain ⟨en, hen⟩ : ∃ t, db.gatewayEnvelopes.insert
      (envelope.inboundRow sender_user now generation) = some t :=
    Table.exists_insert (by simp [henvelopes])
  obtain ⟨de, hde⟩ : ∃ t, db.gatewayDeliveries.insert
      (envelope.inboundDelivery event_id room_id thread_root) = some t :=
    Table.exists_insert (by simp [hdeliveries])
  have hwinner : db.inboundWinner envelope.peer_id sender_user envelope.idempotency_key =
      none := by
    simp [Db.inboundWinner, henvelopes]
  have hfree : db.envelopeFree (envelope.inboundRow sender_user now generation) = true := by
    simp [Db.envelopeFree, henvelopes]
  exact admitTaskReady_new hactive hwinner ht (by simp [hevents]) hev had hbudget hfree hcheck
    hen hde

/-- **A failing call leaves nothing behind.** -/
theorem admitTaskReady_error {error : GatewayError}
    (h : (admitTaskReady envelope conversation_id now runtime_instance sender_user event_id
      room_id thread_root generation db).1 = .error error) :
    (admitTaskReady envelope conversation_id now runtime_instance sender_user event_id room_id
      thread_root generation db).2 = db := by
  rcases admitTaskReady_cases (Prod.mk.eta (p := admitTaskReady envelope conversation_id now
    runtime_instance sender_user event_id room_id thread_root generation db)).symm with
    ⟨hsame, -⟩ | ⟨hok, -⟩
  · exact hsame
  · rw [hok] at h
    cases h

end

/-! ### The envelope comes again -/

/-- The call of a run that reports an insertion. -/
theorem bridgeAt_requestStep {fs : FileSystem} {calls : List BridgeCall} {i : Nat}
    {envelope : GatewayEnvelope} {conversation_id : ConversationId}
    {now runtime_instance sender_user event_id room_id : String} {thread_root : Option String}
    {generation : UInt64}
    (hcall : calls[i]? = some (.gateway (.admitTaskReady envelope conversation_id now
      runtime_instance sender_user event_id room_id thread_root generation)))
    (hresult : (admitTaskReady envelope conversation_id now runtime_instance sender_user event_id
      room_id thread_root generation (bridgeAt fs calls i)).1 =
      .ok (.inserted envelope.taskId)) :
    RequestStep envelope conversation_id now runtime_instance sender_user event_id room_id
      thread_root generation (bridgeAt fs calls i) (bridgeAt fs calls (i + 1)) := by
  rw [bridgeAt_succ hcall]
  exact admitTaskReady_inserted hresult

/-- **An envelope that comes again, in every later state of every run**: it is a replay exactly
while its task waits under the active runtime that presents it; another task or payload under
its identity is a collision for every active runtime; a failing call leaves the store as it
was. -/
theorem gateway_replay_iff (fs : FileSystem) (calls : List BridgeCall) (i n : Nat)
    (envelope : GatewayEnvelope) (conversation_id : ConversationId)
    (now runtime_instance sender_user event_id room_id : String) (thread_root : Option String)
    (generation : UInt64)
    (hcall : calls[i]? = some (.gateway (.admitTaskReady envelope conversation_id now
      runtime_instance sender_user event_id room_id thread_root generation)))
    (hresult : (admitTaskReady envelope conversation_id now runtime_instance sender_user event_id
      room_id thread_root generation (bridgeAt fs calls i)).1 = .ok (.inserted envelope.taskId))
    (hn : i < n) :
    (∀ (conversation : ConversationId) (later presenter event room : String)
        (thread : Option String) (route : UInt64),
      admitTaskReady envelope conversation later presenter sender_user event room thread route
          (bridgeAt fs calls n) = (.ok (.replay envelope.taskId), bridgeAt fs calls n) ↔
        (bridgeAt fs calls n).runtimeActive presenter ∧
          (bridgeAt fs calls n).waitsUnder envelope.taskId presenter) ∧
    (∀ (other : GatewayEnvelope) (conversation : ConversationId)
        (later presenter event room : String) (thread : Option String) (route : UInt64),
      other.peer_id = envelope.peer_id → other.idempotency_key = envelope.idempotency_key →
      (other.taskId ≠ envelope.taskId ∨ other.payload_sha256 ≠ envelope.payload_sha256) →
      (admitTaskReady other conversation later presenter sender_user event room thread route
          (bridgeAt fs calls n) =
          (.error (.protocol "gateway idempotency collision"), bridgeAt fs calls n) ↔
        (bridgeAt fs calls n).runtimeActive presenter)) ∧
    (∀ (any : GatewayEnvelope) (conversation : ConversationId)
        (later presenter sender event room : String) (thread : Option String) (route : UInt64)
        (error : GatewayError),
      (admitTaskReady any conversation later presenter sender event room thread route
          (bridgeAt fs calls n)).1 = .error error →
        (admitTaskReady any conversation later presenter sender event room thread route
          (bridgeAt fs calls n)).2 = bridgeAt fs calls n) := by
  have hstep := bridgeAt_requestStep hcall hresult
  have hrequest := bridgeAt_request hstep.request hn
  have hinv := bridgeAt_gatewayInv fs calls n
  obtain ⟨existing, hwinner, htask, hpayload⟩ := hrequest.winner
  refine ⟨?_, ?_, ?_⟩
  · intro conversation later presenter event room thread route
    constructor
    · intro hreplay
      by_cases hactive : (bridgeAt fs calls n).runtimeActive presenter
      · rw [admitTaskReady_same hactive hwinner htask hpayload] at hreplay
        refine ⟨hactive, (hrequest.siblings_iff hinv).mp ?_⟩
        by_contra hcount
        rw [if_neg hcount] at hreplay
        cases hreplay
      · rw [admitTaskReady_stopped hactive] at hreplay
        cases hreplay
    · rintro ⟨hactive, hwaits⟩
      rw [admitTaskReady_same hactive hwinner htask hpayload,
        if_pos ((hrequest.siblings_iff hinv).mpr hwaits)]
  · intro other conversation later presenter event room thread route hpeer hkey hother
    have hwinner' : (bridgeAt fs calls n).inboundWinner other.peer_id sender_user
        other.idempotency_key = some existing := by
      rw [hpeer, hkey]
      exact hwinner
    constructor
    · intro hcollision
      by_contra hactive
      rw [admitTaskReady_stopped hactive] at hcollision
      exact absurd hcollision (by simp)
    · intro hactive
      refine admitTaskReady_other hactive hwinner' htask ?_
      rw [hpayload]
      exact hother.imp Ne.symm Ne.symm
  · intro any conversation later presenter sender event room thread route error herror
    exact admitTaskReady_error herror

end

/-! ### A request before and after a restart -/

/-- A request of a peer, as it arrives. -/
def replayRequest : GatewayEnvelope := { someRequest with direction := .inbound }

def replayCall (runtime_instance event_id : String) : BridgeCall :=
  .gateway (.admitTaskReady replayRequest ⟨3⟩ "2026-01-01T00:00:00Z" runtime_instance
    "@peer:test" event_id "!room:test" none 1)

/-- A runtime admits the request and stops; a new runtime starts. -/
def restartRun : List BridgeCall :=
  [.beginRuntime "r" "f" "2026-01-01T00:00:00Z", replayCall "r" "$e",
    .stoppingRuntime "r" "2026-01-01T00:00:01Z", .stopRuntime "r" "2026-01-01T00:00:02Z",
    .beginRuntime "s" "f" "2026-01-01T00:00:03Z"]

theorem encodedLen_le (envelope : GatewayEnvelope) :
    envelope.encodedLen ≤ 4 * envelope.toJson.render.length :=
  (Reference.utf8ByteSize_bounds envelope.toJson.render).2

theorem inboundRow_check {envelope : GatewayEnvelope} {sender_user now : String}
    {generation : UInt64} (hgeneration : 0 ≤ asI64 generation)
    (hsize : envelope.encodedLen ≤ 524288) (hdigest : sqlLength envelope.payload_sha256 = 64) :
    (envelope.inboundRow sender_user now generation).check = true :=
  decide_eq_true ⟨hgeneration, hsize, hdigest⟩

theorem replayRequest_size : replayRequest.encodedLen ≤ 524288 := by
  have hlength : 4 * replayRequest.toJson.render.length ≤ 524288 := by decide +kernel
  exact Nat.le_trans (encodedLen_le replayRequest) hlength

theorem restartRun_inserted :
    (admitTaskReady replayRequest ⟨3⟩ "2026-01-01T00:00:00Z" "r" "@peer:test" "$e" "!room:test"
      none 1 (bridgeAt noFiles restartRun 1)).1 = .ok (.inserted replayRequest.taskId) := by
  have hcheck : (replayRequest.inboundRow "@peer:test" "2026-01-01T00:00:00Z" 1).check = true :=
    inboundRow_check (by decide) replayRequest_size (by decide)
  have hroom : (bridgeAt noFiles restartRun 1).retainedBytes + replayRequest.encodedLen <
      retainedBytesHigh := by
    have hnone : (bridgeAt noFiles restartRun 1).retainedBytes = 0 := by decide
    have hhigh : 524288 < retainedBytesHigh := by decide
    have hsize := replayRequest_size
    omega
  exact admitTaskReady_first ⟨_, rfl, rfl⟩ rfl rfl rfl rfl rfl hcheck hroom

/-- The store of the run after the request. -/
theorem restartRun_request :
    RequestStep replayRequest ⟨3⟩ "2026-01-01T00:00:00Z" "r" "@peer:test" "$e" "!room:test" none
      1 (bridgeAt noFiles restartRun 1) (bridgeAt noFiles restartRun 2) :=
  bridgeAt_requestStep rfl restartRun_inserted

/-- The restart writes the instances only. -/
theorem restartRun_tail (db : Db) :
    (bridgeRunFrom noFiles db (restartRun.drop 2)).taskAdmissions = db.taskAdmissions := by
  obtain ⟨t, ht⟩ := beginRuntime_frame "s" "f" "2026-01-01T00:00:03Z"
    (stopRuntime "r" "2026-01-01T00:00:02Z"
      (stoppingRuntime "r" "2026-01-01T00:00:01Z" db).2).2
  have hkept := congrArg Db.taskAdmissions ht
  exact hkept

theorem restartRun_admission :
    (bridgeAt noFiles restartRun 2).taskAdmissions.get replayRequest.taskId =
      some (replayRequest.readyAdmission "2026-01-01T00:00:00Z" "r") :=
  restartRun_request.waiting

theorem gateway_replay_restartRun :
    admitTaskReady replayRequest ⟨3⟩ "2026-01-01T00:00:01Z" "r" "@peer:test" "$again"
      "!room:test" none 1 (bridgeAt noFiles restartRun 2) =
      (.ok (.replay replayRequest.taskId), bridgeAt noFiles restartRun 2) := by
  have hiff := (gateway_replay_iff noFiles restartRun 1 2 replayRequest ⟨3⟩
    "2026-01-01T00:00:00Z" "r" "@peer:test" "$e" "!room:test" none 1 rfl restartRun_inserted
    (by decide)).1
  refine (hiff ⟨3⟩ "2026-01-01T00:00:01Z" "r" "$again" "!room:test" none 1).mpr ⟨?_, ?_⟩
  · obtain ⟨r, hr, hactive⟩ := restartRun_request.active
    refine ⟨r, ?_, hactive⟩
    rw [restartRun_request.frame]
    exact hr
  · exact ⟨_, restartRun_admission, Or.inl rfl, rfl⟩

/-- **After the restart the same envelope is reported as corruption.** -/
theorem restartRun_corruption :
    (admitTaskReady replayRequest ⟨3⟩ "2026-01-01T00:00:00Z" "r" "@peer:test" "$e" "!room:test"
      none 1 (bridgeAt noFiles restartRun 1)).1 = .ok (.inserted replayRequest.taskId) ∧
    (admitTaskReady replayRequest ⟨3⟩ "2026-01-01T00:00:04Z" "s" "@peer:test" "$again"
      "!room:test" none 1 (bridgeAt noFiles restartRun 5)).1 =
      .error (.protocol "gateway sibling corruption") := by
  refine ⟨restartRun_inserted, ?_⟩
  have hlater : bridgeAt noFiles restartRun 5 =
      bridgeRunFrom noFiles (bridgeAt noFiles restartRun 2) (restartRun.drop 2) :=
    bridgeRunFrom_append noFiles Db.empty (restartRun.take 2) (restartRun.drop 2)
  have hactive : (bridgeAt noFiles restartRun 5).runtimeActive "s" := by
    rw [hlater, restartRun_request.frame]
    exact ⟨_, rfl, rfl⟩
  have hadmission : (bridgeAt noFiles restartRun 5).taskAdmissions =
      (bridgeAt noFiles restartRun 2).taskAdmissions := by
    rw [hlater]
    exact restartRun_tail _
  have hrequest : Request replayRequest "@peer:test" (bridgeAt noFiles restartRun 5) :=
    bridgeAt_request restartRun_request.request (by decide)
  have hwaits : ¬ (bridgeAt noFiles restartRun 5).waitsUnder replayRequest.taskId "s" := by
    rintro ⟨a, ha, -, howner⟩
    rw [hadmission, restartRun_admission, Option.some.injEq] at ha
    subst ha
    exact absurd howner (by decide)
  obtain ⟨existing, hwinner, htask, hpayload⟩ := hrequest.winner
  rw [admitTaskReady_same hactive hwinner htask hpayload, if_neg ?_]
  rw [hrequest.siblings_iff (bridgeAt_gatewayInv noFiles restartRun 5)]
  exact hwaits

end GuiguBridge
