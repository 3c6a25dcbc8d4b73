import GuiguBridge.App.QueueHistory
import GuiguBridge.App.TaskLog

/-!
# The compare-and-set on an admission

An admission is moved by callers that hold a revision they once read, by the lifecycle, which
looks at the state only, and by the closure.

* `casTask` — the task whose admission a call reports to have moved, and
  `BridgeCall.held`, the revision that a caller names;
* `CasOutcome` — **what a call reports is what it did**: a success moves the admission from the
  revision that was held to the next one, and everything else leaves the admissions that exist
  as they are;
* `admission_cas` — one winner for every revision, in every run, and what a starting runtime
  finds.
-/

namespace GuiguBridge

open Relational

/-- The revision that a caller names. -/
def BridgeCall.held : BridgeCall → Option Nat
  | .runtime (.claimAdmission _ revision _ _) => some revision
  | .runtime (.reclaimStoppedAdmission _ revision _ _) => some revision
  | .runtime (.releaseAdmission _ revision _) => some revision
  | .enqueueReady _ _ revision _ => some revision
  | .restoreReady _ _ revision _ => some revision
  | .admitWorkflow input _ => input.authorization.map (·.expected_revision)
  | .queue (.admitQueuedWorkflow input _ _ _ _ _) =>
    input.authorization.map (·.expected_revision)
  | _ => none

/-- The task that a workflow message moved: a message with an authorization that was not a
replay. -/
def WorkflowAdmission.moved (input : WorkflowAdmission)
    (r : Except ReliabilityError ReceiptOutcome) : Option TaskId :=
  match input.authorization, r with
  | some _, .ok .inserted => some input.task_id
  | _, _ => none

section

variable [Externals]

/-- The task whose admission a call reports to have moved. -/
def casTask (db : Db) : BridgeCall → Option TaskId
  | .runtime (.claimAdmission task_id revision runtime_instance now) =>
    if (claimAdmission task_id revision runtime_instance now db).1 then some task_id else none
  | .runtime (.reclaimStoppedAdmission task_id revision runtime_instance now) =>
    if (reclaimStoppedAdmission task_id revision runtime_instance now db).1 then some task_id
    else none
  | .runtime (.releaseAdmission task_id revision now) =>
    if (releaseAdmission task_id revision now db).1 then some task_id else none
  | .runtime (.transition event) =>
    match (transition event db).1 with
    | .ok .committed => some event.task_id
    | _ => none
  | .runtime (.finalizeTerminal seen lease revision generation state observed_bytes event now) =>
    match (finalizeTerminal seen lease revision generation state observed_bytes event now db).1
    with
    | .ok .committed => some event.task_id
    | _ => none
  | .closure context lease_mode =>
    match (Tx.commit id (do
      applyClosure context lease_mode fun e => (.error e : Except ClosureError Unit)
      pure (.ok ())) db).1 with
    | .ok _ => some context.event.task_id
    | .error _ => none
  | .enqueueReady task_id runtime_instance revision now =>
    if (enqueueReady task_id runtime_instance revision now db).1 then some task_id else none
  | .restoreReady task_id runtime_instance revision now =>
    if (restoreReady task_id runtime_instance revision now db).1 then some task_id else none
  | .admitWorkflow input event_id => input.moved (admitWorkflow input event_id db).1
  | .queue (.admitQueuedWorkflow input event_id queue_id room_id thread_root capacity) =>
    match (admitQueuedWorkflow input event_id queue_id room_id thread_root capacity db).1 with
    | .ok _ => input.moved (admitWorkflow input event_id db).1
    | .error _ => none
  | _ => none

/-- A compare-and-set that took effect. -/
structure CasStep (call : BridgeCall) (task_id : TaskId) (a a' : AdmissionRow) (db db' : Db) :
    Prop where
  before : db.taskAdmissions.get task_id = some a
  live : a.state ≠ .terminal
  held : ∀ revision, call.held = some revision → a.revision = revision
  revision : a'.revision = a.revision + 1
  puts : db.taskAdmissions.Puts task_id a' db'.taskAdmissions

omit [Externals] in
/-- The admission after a success. -/
theorem CasStep.after {call : BridgeCall} {task_id : TaskId} {a a' : AdmissionRow} {db db' : Db}
    (h : CasStep call task_id a a' db db') : db'.taskAdmissions.get task_id = some a' := by
  rw [h.puts task_id, if_pos rfl]

/-- The admissions that exist stay as they are. -/
def AdmissionsKept (db db' : Db) : Prop :=
  ∀ task_id a, db.taskAdmissions.get task_id = some a → db'.taskAdmissions.get task_id = some a

omit [Externals] in
theorem AdmissionsKept.of_eq {db db' : Db} (h : db'.taskAdmissions = db.taskAdmissions) :
    AdmissionsKept db db' := by
  intro task_id a ha
  rw [h]
  exact ha

omit [Externals] in
/-- A new admission replaces none. -/
theorem Admitted.kept {row : TaskRow} {e : EventRow} {a : AdmissionRow} {db db' : Db}
    (h : Admitted row e a db db') : AdmissionsKept db db' := by
  intro task_id b hb
  obtain ⟨hnone, hputs⟩ := Table.insert_puts h.admission
  have hne : task_id ≠ a.task_id := by
    rintro rfl
    rw [hnone] at hb
    cases hb
  rw [hputs task_id, if_neg hne]
  exact hb

/-- What a call reports is what it did. -/
inductive CasOutcome (call : BridgeCall) (db db' : Db) : Prop where
  | won (task_id : TaskId) (a a' : AdmissionRow) (hreport : casTask db call = some task_id)
      (h : CasStep call task_id a a' db db')
  | kept (hreport : casTask db call = none) (h : AdmissionsKept db db')

/-! ### One writer at a time -/

section

variable {call : BridgeCall} {db db' : Db}

/-- The statements that name a revision. -/
theorem updateAdmission_outcome {p : AdmissionRow → Bool} {f : AdmissionRow → AdmissionRow}
    {hf : ∀ a, (f a).task_id = a.task_id} (task_id : TaskId) (revision : Nat)
    (hp : ∀ a, p a = true → a.task_id = task_id ∧ a.state ≠ .terminal ∧ a.revision = revision)
    (hrevision : ∀ a, (f a).revision = a.revision + 1) (hheld : call.held = some revision)
    (hreport : casTask db call =
      if (updateAdmission p f hf db).1 then some task_id else none) :
    CasOutcome call db (updateAdmission p f hf db).2 := by
  have hkey : ∀ a, p a = true → a.task_id = task_id := fun a h => (hp a h).1
  by_cases hone : db.taskAdmissions.affected p = 1
  · obtain ⟨a, ha, hpa⟩ := (Table.affected_eq_one_iff hkey).mp hone
    have hputs : db.taskAdmissions.Puts task_id (f a)
        (db.taskAdmissions.updateWhere p f hf) := Table.puts_updateWhere hkey ha hpa
    have hwon : casTask db call = some task_id := by
      rw [hreport]
      exact if_pos (decide_eq_true hone)
    refine .won task_id a (f a) hwon ⟨ha, (hp a hpa).2.1, ?_, hrevision a, hputs⟩
    intro revision' h
    rw [hheld] at h
    rw [← Option.some.inj h]
    exact (hp a hpa).2.2
  · have hle := Table.affected_le_one (t := db.taskAdmissions) hkey
    have hlost : casTask db call = none := by
      rw [hreport]
      exact if_neg (by simp [updateAdmission, hone])
    refine .kept hlost (.of_eq ?_)
    exact Table.updateWhere_of_affected_zero hf (by omega)

theorem claimAdmission_outcome (task_id : TaskId) (revision : Nat)
    (runtime_instance : Option String) (now : String) :
    CasOutcome (.runtime (.claimAdmission task_id revision runtime_instance now)) db
      (claimAdmission task_id revision runtime_instance now db).2 := by
  refine updateAdmission_outcome task_id revision ?_ (fun _ => rfl) rfl rfl
  intro a hp
  obtain ⟨htask, hstate, hrev⟩ := of_decide_eq_true hp
  exact ⟨htask, by rw [hstate]; nofun, hrev⟩

theorem reclaimStoppedAdmission_outcome (task_id : TaskId) (revision : Nat)
    (runtime_instance : String) (now : String) :
    CasOutcome (.runtime (.reclaimStoppedAdmission task_id revision runtime_instance now)) db
      (reclaimStoppedAdmission task_id revision runtime_instance now db).2 := by
  refine updateAdmission_outcome task_id revision ?_ (fun _ => rfl) rfl rfl
  intro a hp
  obtain ⟨htask, hstate, hrev⟩ := of_decide_eq_true (Bool.and_eq_true_iff.mp hp).1
  exact ⟨htask, by rw [hstate]; nofun, hrev⟩

theorem releaseAdmission_outcome (task_id : TaskId) (revision : Nat) (now : String) :
    CasOutcome (.runtime (.releaseAdmission task_id revision now)) db
      (releaseAdmission task_id revision now db).2 := by
  refine updateAdmission_outcome task_id revision ?_ (fun _ => rfl) rfl rfl
  intro a hp
  obtain ⟨htask, hstate, hrev⟩ := of_decide_eq_true hp
  exact ⟨htask, by rw [hstate]; nofun, hrev⟩

theorem enqueueReady_outcome (task_id : TaskId) (runtime : String) (revision : Nat)
    (now : String) :
    CasOutcome (.enqueueReady task_id runtime revision now) db
      (enqueueReady task_id runtime revision now db).2 := by
  refine updateAdmission_outcome task_id revision ?_ (fun _ => rfl) rfl rfl
  intro a hp
  obtain ⟨htask, hstate, -, hrev⟩ := of_decide_eq_true hp
  exact ⟨htask, by rw [hstate]; nofun, hrev⟩

theorem restoreReady_outcome (task_id : TaskId) (runtime : String) (revision : Nat)
    (now : String) :
    CasOutcome (.restoreReady task_id runtime revision now) db
      (restoreReady task_id runtime revision now db).2 := by
  refine updateAdmission_outcome task_id revision ?_ (fun _ => rfl) rfl rfl
  intro a hp
  obtain ⟨htask, hstate, -, hrev⟩ := of_decide_eq_true hp
  exact ⟨htask, by rw [hstate]; nofun, hrev⟩

/-- The lifecycle names no revision; its states exclude the terminal one. -/
theorem transition_outcome {event : TaskEvent} {r : Except DispatchError LifecycleResult}
    (h : transition event db = (r, db')) : CasOutcome (.runtime (.transition event)) db db' := by
  rcases transition_cases h with ⟨rfl, hr⟩ | ⟨rfl, hstep⟩
  · refine .kept ?_ (.of_eq rfl)
    simp only [casTask, h]
  · obtain ⟨from_, to_, a, hmove, ha, hmem, hputs⟩ := hstep.admission
    obtain ⟨-, hfrom, -⟩ := lifecycleTransition_terminal hmove
    have hwon : casTask db (.runtime (.transition event)) = some event.task_id := by
      simp only [casTask, h]
    refine .won event.task_id a _ hwon ⟨ha, ?_, nofun, rfl, hputs⟩
    intro hterm
    exact hfrom (hterm ▸ hmem)

theorem finalizeTerminal_outcome {seen : Db} {lease : Lease} {revision : Nat}
    {generation : String} {state : ContinuationState} {observed_bytes : Nat} {event : TaskEvent}
    {now : DateTime} {r : Except RuntimeError FinalizeResult}
    (h : finalizeTerminal seen lease revision generation state observed_bytes event now db =
      (r, db')) :
    CasOutcome (.runtime (.finalizeTerminal seen lease revision generation state
      observed_bytes event now)) db db' := by
  rcases finalizeTerminal_cases h with ⟨rfl, hr⟩ | ⟨rfl, hstep⟩
  · refine .kept ?_ (.of_eq rfl)
    simp only [casTask, h]
  · obtain ⟨a, ha, hcl, hputs⟩ := hstep.admission
    have hwon : casTask db (.runtime (.finalizeTerminal seen lease revision generation state
        observed_bytes event now)) = some event.task_id := by
      simp only [casTask, h]
    exact .won event.task_id a _ hwon ⟨ha, hcl.open, nofun, rfl, hputs⟩

theorem closure_outcome (fs : FileSystem) (context : ClosureContext) (lease_mode : LeaseMode)
    (db : Db) :
    CasOutcome (.closure context lease_mode) db
      (bridgeStep fs db (.closure context lease_mode)) := by
  obtain ⟨r, db', hcall⟩ : ∃ r db', (Tx.commit id (do
      applyClosure context lease_mode fun e => (.error e : Except ClosureError Unit)
      pure (.ok ())) db) = (r, db') := ⟨_, _, rfl⟩
  have hstep : bridgeStep fs db (.closure context lease_mode) = db' := congrArg Prod.snd hcall
  rw [hstep]
  rcases Tx.commit_cases hcall with hok | ⟨rfl, e, herr, hr⟩
  · simp only [Tx.bind_ok, Tx.pure_ok] at hok
    obtain ⟨_, s₁, happly, rfl, rfl⟩ := hok
    have h := applyClosure_ok happly
    obtain ⟨a, ha, hcl, hputs⟩ := h.admission
    rw [← h.same_task] at ha hputs
    have hwon : casTask db (.closure context lease_mode) = some context.event.task_id := by
      simp only [casTask, hcall]
    exact .won context.event.task_id a _ hwon ⟨ha, hcl.open, nofun, rfl, hputs⟩
  · refine .kept ?_ (.of_eq rfl)
    obtain ⟨e', he'⟩ : ∃ e', r = .error e' := by
      rw [hr]
      refine Tx.Aborts.of_error (P := fun r => ∃ e', r = .error e') herr ?_
      exact Tx.aborts_bind (applyClosure_aborts fun e => ⟨e, rfl⟩) fun _ => Tx.aborts_pure _
    simp only [casTask, hcall, he']

/-- A workflow message: what the queue does beside it does not matter. -/
theorem WorkflowWrite.outcome {input : WorkflowAdmission} {event_id : EventId}
    {outcome : ReceiptOutcome} (h : WorkflowWrite input event_id db db' outcome)
    (hheld : call.held = input.authorization.map (·.expected_revision))
    (hreport : casTask db call = input.moved (Except.ok outcome)) : CasOutcome call db db' := by
  cases h with
  | replayed task_id result_code htasks hevents hadmissions =>
    refine .kept ?_ (.of_eq hadmissions)
    rw [hreport]
    unfold WorkflowAdmission.moved
    split
    · rename_i heq
      cases heq
    · rfl
  | admitted hnew h =>
    refine .kept ?_ h.kept
    rw [hreport]
    simp only [WorkflowAdmission.moved, hnew]
  | revised auth a hauth htasks hevents ha hrevision hopen hputs =>
    have hwon : casTask db call = some input.task_id := by
      rw [hreport]
      simp only [WorkflowAdmission.moved, hauth]
    refine .won input.task_id a _ hwon ⟨ha, hopen, ?_, rfl, hputs⟩
    intro revision hrev
    rw [hheld, hauth] at hrev
    rw [hrevision]
    exact Option.some.inj hrev

theorem admitWorkflow_outcome {input : WorkflowAdmission} {event_id : EventId}
    {r : Except ReliabilityError ReceiptOutcome}
    (h : admitWorkflow input event_id db = (r, db')) :
    CasOutcome (.admitWorkflow input event_id) db db' := by
  rcases admitWorkflow_writes h with ⟨rfl, e, rfl⟩ | ⟨outcome, rfl, hwrite⟩
  · refine .kept ?_ (.of_eq rfl)
    simp only [casTask, h, WorkflowAdmission.moved]
    cases input.authorization with
    | none => rfl
    | some auth => rfl
  · refine hwrite.outcome rfl ?_
    simp only [casTask, h]

theorem admitQueuedWorkflow_outcome {input : WorkflowAdmission} {event_id : EventId}
    {queue_id : Uuid} {room_id : String} {thread_root : Option String} {capacity : Int}
    {r : Except ReliabilityError QueueReservation}
    (h : admitQueuedWorkflow input event_id queue_id room_id thread_root capacity db =
      (r, db')) :
    CasOutcome (.queue (.admitQueuedWorkflow input event_id queue_id room_id thread_root
      capacity)) db db' := by
  rcases admitQueuedWorkflow_writes h with ⟨rfl, e, rfl⟩ | ⟨reservation, outcome, rfl, halone, hwrite⟩
  · refine .kept ?_ (.of_eq rfl)
    simp only [casTask, h]
  · refine hwrite.outcome rfl ?_
    simp only [casTask, h, halone]

end

/-! ### Every call -/

theorem admitTask_outcome {task : NewTask} {event : TaskEvent} {runtime_instance : String}
    {context : Option AdmissionContext} {db db' : Db}
    {r : Except ReliabilityError ReceiptOutcome}
    (h : admitTask task.toAgentTask event runtime_instance context db = (r, db')) :
    CasOutcome (.runtime (.admitTask task event runtime_instance context)) db db' := by
  rcases admitTask_cases h with rfl | ⟨-, t, ev, ad, rc, rfl, ht, hev, had⟩
  · exact .kept rfl (.of_eq rfl)
  · exact .kept rfl (Admitted.kept ⟨ht, hev, had⟩)

theorem admitTaskReady_outcome {envelope : GatewayEnvelope} {conversation_id : ConversationId}
    {now runtime_instance sender_user event_id room_id : String} {thread_root : Option String}
    {generation : UInt64} {db db' : Db} {r : Except GatewayError TaskWinner}
    (h : admitTaskReady envelope conversation_id now runtime_instance sender_user event_id
      room_id thread_root generation db = (r, db')) :
    CasOutcome (.gateway (.admitTaskReady envelope conversation_id now runtime_instance
      sender_user event_id room_id thread_root generation)) db db' := by
  rcases admitTaskReady_cases h with ⟨hdb, -⟩ | ⟨-, h⟩
  · exact .kept rfl (.of_eq (congrArg Db.taskAdmissions hdb))
  · exact .kept rfl h.admitted.kept

/-- **What a call reports is what it did.** -/
theorem bridge_cas (fs : FileSystem) (db : Db) (call : BridgeCall) :
    CasOutcome call db (bridgeStep fs db call) := by
  cases call with
  | runtime call =>
    cases call with
    | admitTask task event runtime_instance context => exact admitTask_outcome rfl
    | claimAdmission task_id revision runtime_instance now =>
      exact claimAdmission_outcome task_id revision runtime_instance now
    | reclaimStoppedAdmission task_id revision runtime_instance now =>
      exact reclaimStoppedAdmission_outcome task_id revision runtime_instance now
    | releaseAdmission task_id revision now => exact releaseAdmission_outcome task_id revision now
    | transition event => exact transition_outcome rfl
    | finalizeTerminal seen lease revision generation state observed_bytes event now =>
      exact finalizeTerminal_outcome rfl
    | _ => exact .kept rfl (.of_eq (bridgeStep_frame fs db _ .taskAdmissions rfl))
  | queue call =>
    cases call with
    | admitQueuedWorkflow input event_id queue_id room_id thread_root capacity =>
      exact admitQueuedWorkflow_outcome rfl
    | _ => exact .kept rfl (.of_eq (bridgeStep_frame fs db _ .taskAdmissions rfl))
  | gateway call =>
    cases call with
    | admitTaskReady envelope conversation_id now runtime_instance sender_user event_id room_id
        thread_root generation => exact admitTaskReady_outcome rfl
    | _ => exact .kept rfl (.of_eq (bridgeStep_frame fs db _ .taskAdmissions rfl))
  | admitRetry input =>
    rcases admitRetry_cases (Prod.mk.eta (p := admitRetry input db)).symm with h | ⟨-, h, -⟩
    · exact .kept rfl (.of_eq (congrArg Db.taskAdmissions h))
    · exact .kept rfl h.kept
  | admitWorkflow input event_id => exact admitWorkflow_outcome rfl
  | closure context lease_mode => exact closure_outcome fs context lease_mode db
  | enqueueReady task_id runtime revision now =>
    exact enqueueReady_outcome task_id runtime revision now
  | restoreReady task_id runtime revision now =>
    exact restoreReady_outcome task_id runtime revision now
  | _ => exact .kept rfl (.of_eq (bridgeStep_frame fs db _ .taskAdmissions rfl))

/-! ### What a starting runtime finds -/

omit [Externals] in
/-- The loop of `classify_admissions`, in closed form. -/
theorem classifyRow_foldl (db : Db) (rows : List AdmissionRow) (acc : AdmissionRecovery) :
    rows.foldl (classifyRow db) acc =
      { eligible := acc.eligible ++
          (rows.filter db.eligible).map fun a => (a.task_id, a.revision)
        covered := acc.covered ++ rows.map (·.task_id)
        blocked := acc.blocked || rows.any fun a => !db.eligible a } := by
  induction rows generalizing acc with
  | nil => simp
  | cons a rows ih =>
    rw [List.foldl_cons, ih]
    by_cases he : db.eligible a = true
    · simp [classifyRow, he]
    · simp [classifyRow, he]

omit [Externals] in
theorem mem_openAdmissions {db : Db} {a : AdmissionRow} :
    a ∈ db.openAdmissions ↔
      a ∈ db.taskAdmissions.rows ∧ a.state ≠ .terminal ∧ a.state ≠ .recoveryNeeded := by
  simp [Db.openAdmissions, List.mem_mergeSort]

/-- The answer of `classify_admissions` over a store. -/
structure Classified (db : Db) (found : AdmissionRecovery) : Prop where
  once : found.covered.Nodup
  covered : ∀ task_id, task_id ∈ found.covered ↔
    ∃ a, db.taskAdmissions.get task_id = some a ∧ a.state ≠ .terminal ∧
      a.state ≠ .recoveryNeeded
  eligible : ∀ task_id revision, (task_id, revision) ∈ found.eligible ↔
    ∃ a, db.taskAdmissions.get task_id = some a ∧ a.revision = revision ∧
      (a.state = .ready ∨ a.state = .enqueued ∧ db.ownerState a = some .stopped)
  blocked : found.blocked = false ↔
    ∀ task_id ∈ found.covered, ∃ revision, (task_id, revision) ∈ found.eligible

omit [Externals] in
theorem eligible_iff {db : Db} {a : AdmissionRow} :
    db.eligible a = true ↔
      a.state = .ready ∨ a.state = .enqueued ∧ db.ownerState a = some .stopped := by
  simp [Db.eligible]

omit [Externals] in
/-- An eligible admission is open. -/
theorem eligible_open {db : Db} {a : AdmissionRow} (h : db.eligible a = true) :
    a.state ≠ .terminal ∧ a.state ≠ .recoveryNeeded := by
  rcases eligible_iff.1 h with h | ⟨h, -⟩ <;> rw [h] <;> exact ⟨nofun, nofun⟩

omit [Externals] in
theorem classifyAdmissions_classified (db : Db) : Classified db (classifyAdmissions db) := by
  have hform : classifyAdmissions db =
      { eligible := (db.openAdmissions.filter db.eligible).map fun a => (a.task_id, a.revision)
        covered := db.openAdmissions.map (·.task_id)
        blocked := db.openAdmissions.any fun a => !db.eligible a } := by
    rw [classifyAdmissions, classifyRow_foldl]
    simp
  have heligible : ∀ task_id revision,
      (task_id, revision) ∈ (classifyAdmissions db).eligible ↔
        ∃ a, db.taskAdmissions.get task_id = some a ∧ a.revision = revision ∧
          db.eligible a = true := by
    intro task_id revision
    simp only [hform, List.mem_map, List.mem_filter, mem_openAdmissions, Prod.mk.injEq]
    constructor
    · rintro ⟨a, ⟨⟨hmem, -⟩, he⟩, rfl, rfl⟩
      exact ⟨a, Table.get_of_mem hmem, rfl, he⟩
    · rintro ⟨a, ha, rfl, he⟩
      exact ⟨a, ⟨⟨Table.mem_of_get ha, eligible_open he⟩, he⟩, Table.key_of_get ha, rfl⟩
  refine ⟨?_, ?_, ?_, ?_⟩
  · have hperm : (db.openAdmissions.map (·.task_id)).Perm ((db.taskAdmissions.rows.filter fun a =>
        decide (a.state ≠ .terminal ∧ a.state ≠ .recoveryNeeded)).map (·.task_id)) :=
      (List.mergeSort_perm _ _).map _
    rw [hform]
    exact hperm.nodup_iff.mpr (db.taskAdmissions.nodup.sublist (List.filter_sublist.map _))
  · intro task_id
    simp only [hform, List.mem_map, mem_openAdmissions]
    constructor
    · rintro ⟨a, ⟨hmem, hopen⟩, rfl⟩
      exact ⟨a, Table.get_of_mem hmem, hopen⟩
    · rintro ⟨a, ha, hopen⟩
      exact ⟨a, ⟨Table.mem_of_get ha, hopen⟩, Table.key_of_get ha⟩
  · intro task_id revision
    rw [heligible]
    simp only [eligible_iff]
  · have hblocked : (classifyAdmissions db).blocked = false ↔
        ∀ a ∈ db.openAdmissions, db.eligible a = true := by
      rw [hform]
      simp
    rw [hblocked]
    constructor
    · intro hall task_id hmem
      rw [hform] at hmem
      obtain ⟨a, ha, rfl⟩ := List.mem_map.mp hmem
      have hrow := (mem_openAdmissions.1 ha).1
      exact ⟨a.revision, (heligible _ _).mpr ⟨a, Table.get_of_mem hrow, rfl, hall a ha⟩⟩
    · intro hall a ha
      have hcovered : a.task_id ∈ (classifyAdmissions db).covered := by
        rw [hform]
        exact List.mem_map_of_mem ha
      obtain ⟨revision, hmem⟩ := hall _ hcovered
      obtain ⟨b, hb, -, he⟩ := (heligible _ _).mp hmem
      rw [Table.get_of_mem (mem_openAdmissions.1 ha).1] at hb
      obtain rfl := Option.some.inj hb
      exact he

/-! ### Every run -/

section

variable {fs : FileSystem} {calls : List BridgeCall}

/-- One admission across one position of a run. -/
theorem admission_step {n : Nat} {task_id : TaskId} {a : AdmissionRow}
    (ha : (bridgeAt fs calls n).taskAdmissions.get task_id = some a) :
    (bridgeAt fs calls (n + 1)).taskAdmissions.get task_id = some a ∨
      ∃ call a', calls[n]? = some call ∧ casTask (bridgeAt fs calls n) call = some task_id ∧
        a.state ≠ .terminal ∧ a'.revision = a.revision + 1 ∧
        (bridgeAt fs calls (n + 1)).taskAdmissions.get task_id = some a' := by
  cases hcall : calls[n]? with
  | none =>
    rw [bridgeAt_end hcall]
    exact Or.inl ha
  | some call =>
    rw [bridgeAt_succ hcall]
    cases bridge_cas fs (bridgeAt fs calls n) call with
    | kept hreport h => exact Or.inl (h task_id a ha)
    | won task_id' b b' hreport h =>
      by_cases heq : task_id = task_id'
      · subst heq
        obtain rfl : b = a := Option.some.inj (h.before.symm.trans ha)
        exact Or.inr ⟨call, b', rfl, hreport, h.live, h.revision, h.after⟩
      · rw [h.puts task_id, if_neg heq]
        exact Or.inl ha

/-- **Revisions only grow**, and a terminal admission stays as it is. -/
theorem admission_mono {i : Nat} {task_id : TaskId} {a : AdmissionRow}
    (ha : (bridgeAt fs calls i).taskAdmissions.get task_id = some a) (k : Nat) :
    ∃ b, (bridgeAt fs calls (i + k)).taskAdmissions.get task_id = some b ∧
      a.revision ≤ b.revision ∧ (a.state = .terminal → b = a) := by
  induction k with
  | zero => exact ⟨a, ha, Nat.le_refl _, fun _ => rfl⟩
  | succ k ih =>
    obtain ⟨b, hb, hle, hterm⟩ := ih
    rcases admission_step hb with hsame | ⟨call, b', -, -, hlive, hrev, hb'⟩
    · exact ⟨b, hsame, hle, hterm⟩
    · refine ⟨b', hb', by omega, ?_⟩
      intro h
      rw [hterm h] at hlive
      exact absurd h hlive

/-- A success at a position of a run. -/
theorem admission_success {n : Nat} {call : BridgeCall} {task_id : TaskId}
    (hcall : calls[n]? = some call)
    (hwon : casTask (bridgeAt fs calls n) call = some task_id) :
    ∃ a a', CasStep call task_id a a' (bridgeAt fs calls n) (bridgeAt fs calls (n + 1)) := by
  rw [bridgeAt_succ hcall]
  cases bridge_cas fs (bridgeAt fs calls n) call with
  | kept hreport h =>
    rw [hreport] at hwon
    cases hwon
  | won task_id' a a' hreport h =>
    rw [hreport] at hwon
    obtain rfl := Option.some.inj hwon
    exact ⟨a, a', h⟩

/-- A later success on the same admission starts from a later revision. -/
theorem admission_success_lt {i j : Nat} {c : BridgeCall} {task_id : TaskId}
    {a b : AdmissionRow} (hij : i < j) (hi : calls[i]? = some c)
    (hwon : casTask (bridgeAt fs calls i) c = some task_id)
    (ha : (bridgeAt fs calls i).taskAdmissions.get task_id = some a)
    (hb : (bridgeAt fs calls j).taskAdmissions.get task_id = some b) :
    a.revision < b.revision := by
  obtain ⟨a₀, a', h⟩ := admission_success hi hwon
  obtain rfl : a₀ = a := Option.some.inj (h.before.symm.trans ha)
  obtain ⟨b₀, hb₀, hle, -⟩ := admission_mono h.after (j - (i + 1))
  rw [show i + 1 + (j - (i + 1)) = j by omega, hb] at hb₀
  obtain rfl := Option.some.inj hb₀
  have hrev := h.revision
  omega

end

/-- **One winner for every revision.**  In every run, whoever calls in whatever order with
whatever revision read before: an admission that changes is at its next revision, and a terminal
one never changes; a call that reports a success moved the admission from the revision it names,
and every change is a success somebody reports; two successes on one admission start from
different revisions; and `classify_admissions` covers every open admission once and is blocked
by those that are not eligible. -/
theorem admission_cas (fs : FileSystem) (calls : List BridgeCall) :
    (∀ n task_id a, (bridgeAt fs calls n).taskAdmissions.get task_id = some a →
      ∃ a', (bridgeAt fs calls (n + 1)).taskAdmissions.get task_id = some a' ∧
        (a' = a ∨ a'.revision = a.revision + 1) ∧ (a.state = .terminal → a' = a)) ∧
    (∀ n call task_id, calls[n]? = some call →
      casTask (bridgeAt fs calls n) call = some task_id →
      ∃ a a', (bridgeAt fs calls n).taskAdmissions.get task_id = some a ∧
        (∀ revision, call.held = some revision → a.revision = revision) ∧
        (bridgeAt fs calls (n + 1)).taskAdmissions.get task_id = some a' ∧
        a'.revision = a.revision + 1) ∧
    (∀ n task_id a a', (bridgeAt fs calls n).taskAdmissions.get task_id = some a →
      (bridgeAt fs calls (n + 1)).taskAdmissions.get task_id = some a' → a' ≠ a →
      ∃ call, calls[n]? = some call ∧ casTask (bridgeAt fs calls n) call = some task_id) ∧
    (∀ i j c c' task_id a b, i ≠ j → calls[i]? = some c → calls[j]? = some c' →
      casTask (bridgeAt fs calls i) c = some task_id →
      casTask (bridgeAt fs calls j) c' = some task_id →
      (bridgeAt fs calls i).taskAdmissions.get task_id = some a →
      (bridgeAt fs calls j).taskAdmissions.get task_id = some b → a.revision ≠ b.revision) ∧
    (∀ n, Classified (bridgeAt fs calls n) (classifyAdmissions (bridgeAt fs calls n))) := by
  refine ⟨?_, ?_, ?_, ?_, fun n => classifyAdmissions_classified _⟩
  · intro n task_id a ha
    rcases admission_step ha with hsame | ⟨call, a', -, -, hlive, hrev, ha'⟩
    · exact ⟨a, hsame, Or.inl rfl, fun _ => rfl⟩
    · exact ⟨a', ha', Or.inr hrev, fun h => absurd h hlive⟩
  · intro n call task_id hcall hwon
    obtain ⟨a, a', h⟩ := admission_success hcall hwon
    exact ⟨a, a', h.before, h.held, h.after, h.revision⟩
  · intro n task_id a a' ha ha' hne
    rcases admission_step ha with hsame | ⟨call, b, hcall, hwon, -⟩
    · rw [ha'] at hsame
      exact absurd (Option.some.inj hsame) hne
    · exact ⟨call, hcall, hwon⟩
  · intro i j c c' task_id a b hij hi hj hwon hwon' ha hb
    rcases Nat.lt_or_gt_of_ne hij with hlt | hgt
    · exact Nat.ne_of_lt (admission_success_lt hlt hi hwon ha hb)
    · exact Nat.ne_of_gt (admission_success_lt hgt hj hwon' hb ha)

end

/-- Two runtimes claim one admission at the revision both have read. -/
def claimRun : List BridgeCall :=
  [.admitWorkflow sendInput ⟨4⟩,
    .runtime (.releaseAdmission ⟨2⟩ 0 "1970-01-01T00:00:01+00:00"),
    .runtime (.claimAdmission ⟨2⟩ 1 (some "a") "1970-01-01T00:00:02+00:00"),
    .runtime (.claimAdmission ⟨2⟩ 1 (some "b") "1970-01-01T00:00:03+00:00")]

/-- The first one gets it. -/
theorem admission_cas_claimRun :
    casTask (bridgeAt noFiles claimRun 2) (.runtime (.claimAdmission ⟨2⟩ 1 (some "a")
      "1970-01-01T00:00:02+00:00")) = some ⟨2⟩ ∧
    casTask (bridgeAt noFiles claimRun 3) (.runtime (.claimAdmission ⟨2⟩ 1 (some "b")
      "1970-01-01T00:00:03+00:00")) = none ∧
    ∃ a a', (bridgeAt noFiles claimRun 2).taskAdmissions.get ⟨2⟩ = some a ∧ a.revision = 1 ∧
      (bridgeAt noFiles claimRun 3).taskAdmissions.get ⟨2⟩ = some a' ∧ a'.revision = 2 := by
  have hfirst : casTask (bridgeAt noFiles claimRun 2) (.runtime (.claimAdmission ⟨2⟩ 1 (some "a")
      "1970-01-01T00:00:02+00:00")) = some ⟨2⟩ := by decide
  refine ⟨hfirst, by decide, ?_⟩
  obtain ⟨a, a', ha, hheld, ha', hrev⟩ :=
    (admission_cas noFiles claimRun).2.1 2 _ _ rfl hfirst
  have hone : a.revision = 1 := hheld 1 rfl
  exact ⟨a, a', ha, hone, ha', by omega⟩

end GuiguBridge
