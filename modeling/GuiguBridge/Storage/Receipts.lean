import GuiguBridge.Storage.Retry

/-!
# Transport receipts

The two calls of `src/src/storage/reliability.rs` that write a receipt without a task
(`reserve_receipt`, `update_receipt`), and what each of the four writers of a receipt does to
the receipts as a whole.

* `reserveTransportReceipt` — a message is reserved once; the second call reads the winner;
* `updateReceipt` — **the only call that rewrites a receipt, and only a reserved one**;
* `ReceiptStep` — what one call may do to the receipts: nothing, one new row, or a rewrite of
  a reserved one;
* `admitTask_seen`, `admitRetry_seen` — a message that has a receipt changes nothing, and
  `admitTask_new`, `admitRetry_new` — a message without one gets it with the task, or an error.
-/

namespace GuiguBridge

open Relational

/-- The `CHECK` of the column `receipt_kind`. -/
def ReceiptKind.ofColumn (text : String) : Option ReceiptKind :=
  if text = "ordinary" then some .ordinary
  else if text = "admin" then some .admin
  else none

/-- The `CHECK` of the column `state`. -/
def ReceiptState.ofColumn (text : String) : Option ReceiptState :=
  if text = "reserved" then some .reserved
  else if text = "admitted" then some .admitted
  else if text = "rejected" then some .rejected
  else none

/-- The row that `reserve_receipt` inserts. -/
def bareReceipt (transport external_event_id room_id : String) (receipt_kind : ReceiptKind)
    (route_kind now : String) : TransportReceiptRow :=
  { transport := transport, external_event_id := external_event_id, room_id := room_id,
    thread_ref := none, reply_event_id := none, conversation_id := none,
    selected_endpoint_id := none, task_id := none, source_task_id := none,
    retry_task_id := none, receipt_kind := receipt_kind, route_kind := route_kind,
    state := .reserved, result_code := "reserved", admin_actor := none,
    command_reply_body := none, created_at := now, updated_at := now }

/-- `ReliabilityStore::reserve_receipt`.  The kind is checked before the key. -/
def reserveTransportReceipt (transport external_event_id room_id receipt_kind route_kind
    now : String) (db : Db) : Except ReliabilityError ReceiptOutcome × Db :=
  Tx.commit .error (do
    let kind ← Tx.orElse (ReceiptKind.ofColumn receipt_kind) (.sql .constraint)
    let inserted ← Tx.insertOrIgnore Db.transportReceiptsL
      (bareReceipt transport external_event_id room_id kind route_kind now)
    if inserted = 1 then pure (.ok .inserted)
    else do
      let row ← Tx.read fun db => db.transportReceipts.get (transport, external_event_id)
      let row ← Tx.orElse row (.sql .rowNotFound)
      pure (.ok (.replay row.task_id row.result_code))) db

/-- The rows that `update_receipt` writes. -/
def reservedAt (transport external_event_id : String) (r : TransportReceiptRow) : Bool :=
  decide (r.transport = transport ∧ r.external_event_id = external_event_id ∧
    r.state = .reserved)

/-- `ReliabilityStore::update_receipt`.  The state is checked only when a row is written. -/
def updateReceipt (transport external_event_id state result_code : String)
    (task_id : Option TaskId) (now : String) (db : Db) : Except ReliabilityError Bool × Db :=
  if db.transportReceipts.affected (reservedAt transport external_event_id) = 0 then
    (.ok false, db)
  else
    match ReceiptState.ofColumn state with
    | none => (.error (.sql .constraint), db)
    | some state =>
      (.ok (decide (db.transportReceipts.affected
          (reservedAt transport external_event_id) = 1)),
        { db with
          transportReceipts := db.transportReceipts.updateWhere
            (reservedAt transport external_event_id)
            (fun r => { r with state := state, result_code := result_code,
                               task_id := task_id, updated_at := now }) })

/-- The two calls write the receipts and nothing else. -/
theorem reserveTransportReceipt_frame (transport external_event_id room_id receipt_kind
    route_kind now : String) (db : Db) :
    ∃ t, (reserveTransportReceipt transport external_event_id room_id receipt_kind route_kind now
      db).2 = { db with transportReceipts := t } := by
  obtain ⟨r, db', hcall⟩ : ∃ r db', reserveTransportReceipt transport external_event_id room_id
    receipt_kind route_kind now db = (r, db') := ⟨_, _, rfl⟩
  rw [hcall]
  rcases Tx.commit_cases hcall with hok | ⟨rfl, -⟩
  · simp only [Tx.bind_ok, Tx.orElse_ok, Tx.insertOrIgnore_ok, Tx.ite_ok, Tx.pure_ok,
      Tx.read_ok] at hok
    obtain ⟨kind, _, ⟨-, rfl⟩, n, s₁, hins, ⟨-, -, rfl⟩ | ⟨-, _, _, ⟨-, rfl⟩, _, _, ⟨-, rfl⟩, -,
      rfl⟩⟩ := hok
    · rcases hins with ⟨-, t, -, rfl⟩ | ⟨-, -, rfl⟩
      · exact ⟨t, rfl⟩
      · exact ⟨_, rfl⟩
    · rcases hins with ⟨-, t, -, rfl⟩ | ⟨-, -, rfl⟩
      · exact ⟨t, rfl⟩
      · exact ⟨_, rfl⟩
  · exact ⟨_, rfl⟩

theorem updateReceipt_frame (transport external_event_id state result_code : String)
    (task_id : Option TaskId) (now : String) (db : Db) :
    ∃ t, (updateReceipt transport external_event_id state result_code task_id now db).2 =
      { db with transportReceipts := t } := by
  unfold updateReceipt
  split
  · exact ⟨_, rfl⟩
  · split
    · exact ⟨_, rfl⟩
    · exact ⟨_, rfl⟩

/-! ### What one call does to the receipts -/

/-- What one call may do to the receipts. -/
inductive ReceiptStep (db db' : Db) : Prop where
  | same (h : db'.transportReceipts = db.transportReceipts)
  | added (r : TransportReceiptRow) (hfree : db.transportReceipts.get r.key = none)
      (hputs : db.transportReceipts.Puts r.key r db'.transportReceipts)
  | rewritten (k : String × String) (r r' : TransportReceiptRow)
      (hr : db.transportReceipts.get k = some r) (hstate : r.state = .reserved)
      (hputs : db.transportReceipts.Puts k r' db'.transportReceipts)

/-- **A receipt stays, and is final once it has left the reserved state.** -/
theorem ReceiptStep.row {db db' : Db} (h : ReceiptStep db db') {k : String × String}
    {r : TransportReceiptRow} (hr : db.transportReceipts.get k = some r) :
    ∃ r', db'.transportReceipts.get k = some r' ∧ (r.state ≠ .reserved → r' = r) := by
  cases h with
  | same h => exact ⟨r, by rw [h]; exact hr, fun _ => rfl⟩
  | added x hfree hputs =>
    have hne : k ≠ x.key := by
      rintro rfl
      rw [hfree] at hr
      cases hr
    exact ⟨r, by rw [hputs k, if_neg hne]; exact hr, fun _ => rfl⟩
  | rewritten k' x x' hx hstate hputs =>
    by_cases hk : k = k'
    · subst hk
      obtain rfl := Option.some.inj (hx.symm.trans hr)
      exact ⟨x', by rw [hputs k, if_pos rfl], fun hne => absurd hstate hne⟩
    · exact ⟨r, by rw [hputs k, if_neg hk]; exact hr, fun _ => rfl⟩

theorem reserveTransportReceipt_step {transport external_event_id room_id receipt_kind route_kind
    now : String} {db db' : Db} {r : Except ReliabilityError ReceiptOutcome}
    (h : reserveTransportReceipt transport external_event_id room_id receipt_kind route_kind now
      db = (r, db')) : ReceiptStep db db' ∧ (∀ e, r = .error e → db' = db) := by
  rcases Tx.commit_cases h with hok | ⟨rfl, -⟩
  · simp only [Tx.bind_ok, Tx.orElse_ok, Tx.insertOrIgnore_ok, Tx.ite_ok, Tx.pure_ok,
      Tx.read_ok] at hok
    obtain ⟨kind, _, ⟨-, rfl⟩, n, s₁, hins, hrest⟩ := hok
    have hstep : ReceiptStep db s₁ := by
      rcases hins with ⟨-, t, ht, rfl⟩ | ⟨-, -, rfl⟩
      · obtain ⟨hfree, hputs⟩ := Table.insert_puts ht
        exact .added _ hfree hputs
      · exact .same rfl
    rcases hrest with ⟨-, hr, rfl⟩ | ⟨-, _, _, ⟨-, rfl⟩, _, _, ⟨-, rfl⟩, hr, rfl⟩
    · exact ⟨hstep, by rintro e rfl; cases hr⟩
    · exact ⟨hstep, by rintro e rfl; cases hr⟩
  · exact ⟨.same rfl, fun _ _ => rfl⟩

theorem updateReceipt_step {transport external_event_id state result_code : String}
    {task_id : Option TaskId} {now : String} {db db' : Db} {r : Except ReliabilityError Bool}
    (h : updateReceipt transport external_event_id state result_code task_id now db =
      (r, db')) : ReceiptStep db db' ∧ (∀ e, r = .error e → db' = db) := by
  unfold updateReceipt at h
  split at h
  · obtain ⟨-, rfl⟩ := Prod.mk.inj h
    exact ⟨.same rfl, fun _ _ => rfl⟩
  · rename_i hsome
    split at h
    · obtain ⟨-, rfl⟩ := Prod.mk.inj h
      exact ⟨.same rfl, fun _ _ => rfl⟩
    · rename_i state' _
      obtain ⟨rfl, rfl⟩ := Prod.mk.inj h
      refine ⟨?_, by rintro e ⟨⟩⟩
      have hkey : ∀ x : TransportReceiptRow, reservedAt transport external_event_id x = true →
          x.key = (transport, external_event_id) := by
        intro x hx
        obtain ⟨h₁, h₂, -⟩ := of_decide_eq_true hx
        exact Prod.ext h₁ h₂
      have hle := Table.affected_le_one (t := db.transportReceipts) hkey
      obtain ⟨x, hx, hpx⟩ := (Table.affected_eq_one_iff hkey).mp
        (show db.transportReceipts.affected (reservedAt transport external_event_id) = 1 by omega)
      have hputs : db.transportReceipts.Puts (transport, external_event_id)
          { x with state := state', result_code := result_code, task_id := task_id,
                   updated_at := now }
          (db.transportReceipts.updateWhere (reservedAt transport external_event_id)
            (fun r => { r with state := state', result_code := result_code,
                               task_id := task_id, updated_at := now }) (fun _ => rfl)) :=
        Table.puts_updateWhere hkey hx hpx
      exact .rewritten _ x _ hx (of_decide_eq_true hpx).2.2 hputs

/-! ### Admission under a receipt -/

section

variable [Externals]

/-- What `admit_task` answers to a message that has a receipt: it replays an ordinary one, and
**refuses the receipt of a command**. -/
def TransportReceiptRow.answer (r : TransportReceiptRow) : Except ReliabilityError ReceiptOutcome :=
  if r.receipt_kind = .ordinary then .ok (.replay r.task_id r.result_code)
  else .error .malformed

theorem admitTask_seen (task : AgentTask) (event : TaskEvent) (runtime_instance : String)
    {context : AdmissionContext} {db : Db} {r : TransportReceiptRow}
    (hr : db.transportReceipts.get (context.transport, context.external_event_id) = some r) :
    admitTask task event runtime_instance (some context) db = (TransportReceiptRow.answer r, db) := by
  have htaken : (Db.transportReceiptsL.get db).insert (reservedReceipt task event context) =
      none := Table.insert_eq_none hr
  have hreserve : reserveReceipt task event context db = .error (TransportReceiptRow.answer r) := by
    unfold reserveReceipt TransportReceiptRow.answer
    rw [Tx.bind_apply, Tx.insertOrIgnore_taken htaken]
    by_cases hkind : r.receipt_kind = .ordinary
    · simp [Tx.bind_apply, Tx.read_apply, hr, Tx.orElse_some, hkind, Tx.require_true, Tx.abort]
    · simp [Tx.bind_apply, Tx.read_apply, hr, Tx.orElse_some, hkind, Tx.require_false]
  exact Tx.commit_of_error (Tx.bind_of_error hreserve)

/-- The receipt of a message whose task was admitted. -/
def boundReceipt (task : AgentTask) (event : TaskEvent) (context : AdmissionContext) :
    TransportReceiptRow :=
  { reservedReceipt task event context with
    task_id := some task.task_id, state := .admitted, result_code := "admitted",
    updated_at := ts event.timestamp }

omit [Externals] in
/-- The reserved receipt of the message is bound to its task. -/
theorem bindReceipt_puts {task_id : TaskId} {at_ : String} {context : AdmissionContext}
    {s s' : Db} {u : Unit} {r : TransportReceiptRow}
    (h : bindReceipt task_id at_ context s = .ok (u, s'))
    (hr : s.transportReceipts.get (context.transport, context.external_event_id) = some r) :
    ∃ t, s' = { s with transportReceipts := t } ∧
      s.transportReceipts.Puts (context.transport, context.external_event_id)
        { r with task_id := some task_id, state := .admitted, result_code := "admitted",
                 updated_at := at_ } t := by
  simp only [bindReceipt, Tx.bind_ok, Tx.require_ok] at h
  obtain ⟨n, _, hupd, hone, rfl⟩ := h
  obtain ⟨haff, rfl⟩ := Tx.update_ok.1 hupd
  refine ⟨_, rfl, ?_⟩
  have hkey : ∀ x : TransportReceiptRow, decide (x.transport = context.transport ∧
      x.external_event_id = context.external_event_id ∧ x.state = .reserved ∧
      x.task_id = none) = true → x.key = (context.transport, context.external_event_id) := by
    intro x hx
    obtain ⟨h₁, h₂, -⟩ := of_decide_eq_true hx
    exact Prod.ext h₁ h₂
  obtain ⟨x, hx, hpx, hputs⟩ := Table.update_puts hkey (haff.trans (of_decide_eq_true hone))
  obtain rfl := Option.some.inj (hx.symm.trans hr)
  exact hputs

/-- A message without a receipt gets one with its task, or the call fails and leaves nothing
behind. -/
theorem admitTask_new {task : AgentTask} {event : TaskEvent} {runtime_instance : String}
    {context : AdmissionContext} {db db' : Db} {r : Except ReliabilityError ReceiptOutcome}
    (hfree : db.transportReceipts.get (context.transport, context.external_event_id) = none)
    (h : admitTask task event runtime_instance (some context) db = (r, db')) :
    (r = .ok .inserted ∧ db.transportReceipts.Puts (context.transport, context.external_event_id)
        (boundReceipt task event context) db'.transportReceipts ∧
        db.tasks.insert (taskToRow task) = some db'.tasks) ∨
      (db' = db ∧ ∃ e, r = .error e) := by
  obtain ⟨t, ht⟩ := Table.exists_insert (t := db.transportReceipts)
    (r := reservedReceipt task event context) ((Table.get_eq_none_iff _ _).mp hfree)
  have hreserve : reserveReceipt task event context db =
      .ok ((), { db with transportReceipts := t }) := by
    unfold reserveReceipt
    have hins : (Tx.insertOrIgnore Db.transportReceiptsL (reservedReceipt task event context) :
        Tx Db (Except ReliabilityError ReceiptOutcome) Nat) db =
        .ok (1, { db with transportReceipts := t }) :=
      Tx.insertOrIgnore_ok.2 (Or.inl ⟨rfl, t, ht, rfl⟩)
    rw [Tx.bind_of_ok hins]
    rfl
  have hstart : withContext (some context) (reserveReceipt task event) db =
      .ok ((), { db with transportReceipts := t }) := hreserve
  rcases Tx.commit_cases h with hok | ⟨hdb, e, herr, rfl⟩
  · rw [Tx.bind_of_ok hstart] at hok
    simp only [Tx.bind_ok, Tx.orElse_ok, Tx.insert_ok, Tx.pure_ok] at hok
    obtain ⟨v, _, ⟨hv, rfl⟩, _, _, ⟨tt, htt, rfl⟩, _, s₂, hev, _, _, ⟨ad, had, rfl⟩, _, s₃, hbind,
      hr, rfl⟩ := hok
    obtain ⟨rfl, -⟩ := toI64_eq_some hv
    obtain ⟨ev, rfl, hins⟩ := insertEvent_ok hev
    have hinserted := (Table.insert_puts ht).2
    obtain ⟨rc, rfl, hputs⟩ := bindReceipt_puts hbind ((hinserted _).trans (if_pos rfl))
    refine Or.inl ⟨hr.symm, ?_, htt⟩
    intro k
    rw [hputs k]
    by_cases hk : k = (context.transport, context.external_event_id)
    · rw [if_pos hk, if_pos hk]
      rfl
    · rw [if_neg hk, if_neg hk]
      exact (hinserted k).trans (if_neg hk)
  · refine Or.inr ⟨hdb, ?_⟩
    rw [Tx.bind_of_ok hstart] at herr
    refine Tx.Aborts.of_error (P := fun r => ∃ e, r = .error e) herr ?_
    refine Tx.aborts_bind (Tx.aborts_orElse ⟨_, rfl⟩) fun _ => ?_
    refine Tx.aborts_bind (Tx.aborts_insert ⟨_, rfl⟩) fun _ => ?_
    refine Tx.aborts_bind (insertEvent_aborts ⟨_, rfl⟩) fun _ => ?_
    refine Tx.aborts_bind (Tx.aborts_insert ⟨_, rfl⟩) fun _ => ?_
    refine Tx.aborts_bind ?_ fun _ => Tx.aborts_pure _
    exact Tx.aborts_bind (Tx.aborts_update _ _ _ _) fun _ => Tx.aborts_require ⟨_, rfl⟩

/-- A task without a message leaves the receipts alone. -/
theorem admitTask_none {task : AgentTask} {event : TaskEvent} {runtime_instance : String}
    {db db' : Db} {r : Except ReliabilityError ReceiptOutcome}
    (h : admitTask task event runtime_instance none db = (r, db')) :
    db'.transportReceipts = db.transportReceipts := by
  rcases Tx.commit_cases h with hok | ⟨rfl, -⟩
  · simp only [withContext, Tx.bind_ok, Tx.orElse_ok, Tx.insert_ok, Tx.pure_ok] at hok
    obtain ⟨_, _, ⟨-, rfl⟩, v, _, ⟨-, rfl⟩, _, _, ⟨t, -, rfl⟩, hmore⟩ := hok
    obtain ⟨_, s₂, hev, _, _, ⟨ad, -, rfl⟩, _, _, ⟨-, rfl⟩, -, rfl⟩ := hmore
    obtain ⟨ev, rfl, -⟩ := insertEvent_ok hev
    rfl
  · rfl

theorem admitTask_step {task : AgentTask} {event : TaskEvent} {runtime_instance : String}
    {context : Option AdmissionContext} {db db' : Db}
    {r : Except ReliabilityError ReceiptOutcome}
    (h : admitTask task event runtime_instance context db = (r, db')) : ReceiptStep db db' := by
  cases context with
  | none => exact .same (admitTask_none h)
  | some context =>
    cases hget : db.transportReceipts.get (context.transport, context.external_event_id) with
    | some row =>
      rw [admitTask_seen task event runtime_instance hget] at h
      obtain ⟨-, rfl⟩ := Prod.mk.inj h
      exact .same rfl
    | none =>
      rcases admitTask_new hget h with ⟨-, hputs, -⟩ | ⟨rfl, -⟩
      · exact .added (boundReceipt task event context) hget hputs
      · exact .same rfl

theorem admitRetry_seen {input : RetryTaskInput} {db : Db} {r : TransportReceiptRow}
    (hr : db.transportReceipts.get (input.transport, input.external_event_id) = some r) :
    admitRetry input db = (.ok (.replay r.task_id r.result_code), db) := by
  have hcheck : checkRetrySource input db = .error (.ok (.replay r.task_id r.result_code)) := by
    unfold checkRetrySource
    rw [Tx.bind_apply, Tx.read_apply]
    simp only [hr]
    rfl
  exact Tx.commit_of_error (Tx.bind_of_error hcheck)

omit [Externals] in
/-- Without a receipt, a source that does not do is an error. -/
theorem checkRetrySource_refuses {input : RetryTaskInput} {db : Db}
    {refusal : Except ReliabilityError ReceiptOutcome}
    (hfree : db.transportReceipts.get (input.transport, input.external_event_id) = none)
    (h : checkRetrySource input db = .error refusal) : ∃ e, refusal = .error e := by
  unfold checkRetrySource at h
  rw [Tx.bind_apply, Tx.read_apply] at h
  simp only [hfree] at h
  refine Tx.Aborts.of_error (P := fun r => ∃ e, r = .error e) h ?_
  refine Tx.aborts_bind (Tx.aborts_read _) fun _ => ?_
  refine Tx.aborts_bind (Tx.aborts_orElse ⟨_, rfl⟩) fun _ => ?_
  refine Tx.aborts_bind (Tx.aborts_read _) fun _ => ?_
  exact Tx.aborts_bind (Tx.aborts_require ⟨_, rfl⟩) fun _ => Tx.aborts_require ⟨_, rfl⟩

/-- The receipt of a command whose task was admitted. -/
def RetryTaskInput.boundReceipt (input : RetryTaskInput) : TransportReceiptRow :=
  { input.receipt with task_id := some input.task_id, retry_task_id := some input.task_id }

/-- A command without a receipt gets one with its task, or the call fails and leaves nothing
behind. -/
theorem admitRetry_new {input : RetryTaskInput} {db db' : Db}
    {r : Except ReliabilityError ReceiptOutcome}
    (hfree : db.transportReceipts.get (input.transport, input.external_event_id) = none)
    (h : admitRetry input db = (r, db')) :
    (r = .ok .inserted ∧ db.transportReceipts.Puts (input.transport, input.external_event_id)
        input.boundReceipt db'.transportReceipts ∧
        db.tasks.insert input.taskRow = some db'.tasks) ∨
      (db' = db ∧ ∃ e, r = .error e) := by
  rcases Tx.commit_cases h with hok | ⟨hdb, e, herr, rfl⟩
  · simp only [Tx.bind_ok, Tx.insert_ok, Tx.pure_ok] at hok
    obtain ⟨_, s₁, hsrc, _, _, ⟨rc, hrc, rfl⟩, _, _, ⟨t, ht, rfl⟩, hmore⟩ := hok
    obtain ⟨_, _, hupd, _, s₂, hev, _, _, ⟨ad, had, rfl⟩, hmore⟩ := hmore
    obtain ⟨_, s₃, hreply, hr, rfl⟩ := hmore
    obtain rfl := checkRetrySource_ok hsrc
    obtain ⟨-, rfl⟩ := Tx.update_ok.1 hupd
    obtain ⟨ev, rfl, hins⟩ := insertEvent_ok hev
    obtain ⟨ob, rfl, -⟩ := insertCommandReply_ok hreply
    have hinserted := (Table.insert_puts hrc).2
    have hkey : ∀ x : TransportReceiptRow, decide (x.transport = input.transport ∧
        x.external_event_id = input.external_event_id) = true →
        x.key = (input.transport, input.external_event_id) := by
      intro x hx
      obtain ⟨h₁, h₂⟩ := of_decide_eq_true hx
      exact Prod.ext h₁ h₂
    have hputs : rc.Puts (input.transport, input.external_event_id) input.boundReceipt
        (rc.updateWhere (fun r => decide (r.transport = input.transport ∧
          r.external_event_id = input.external_event_id))
          (fun r => { r with task_id := some input.task_id,
                             retry_task_id := some input.task_id }) (fun _ => rfl)) :=
      Table.puts_updateWhere hkey ((hinserted _).trans (if_pos rfl)) (by simp [RetryTaskInput.receipt])
    refine Or.inl ⟨hr.symm, ?_, ht⟩
    intro k
    refine (hputs k).trans ?_
    by_cases hk : k = (input.transport, input.external_event_id)
    · rw [if_pos hk, if_pos hk]
    · rw [if_neg hk, if_neg hk]
      exact (hinserted k).trans (if_neg hk)
  · refine Or.inr ⟨hdb, ?_⟩
    cases hcheck : checkRetrySource input db with
    | error refusal =>
      rw [Tx.bind_of_error hcheck] at herr
      cases herr
      exact checkRetrySource_refuses hfree hcheck
    | ok v =>
      rw [Tx.bind_of_ok hcheck] at herr
      refine Tx.Aborts.of_error (P := fun r => ∃ e, r = .error e) herr ?_
      refine Tx.aborts_bind (Tx.aborts_insert ⟨_, rfl⟩) fun _ => ?_
      refine Tx.aborts_bind (Tx.aborts_insert ⟨_, rfl⟩) fun _ => ?_
      refine Tx.aborts_bind (Tx.aborts_update _ _ _ _) fun _ => ?_
      refine Tx.aborts_bind (insertEvent_aborts ⟨_, rfl⟩) fun _ => ?_
      refine Tx.aborts_bind (Tx.aborts_insert ⟨_, rfl⟩) fun _ => ?_
      refine Tx.aborts_bind ?_ fun _ => Tx.aborts_pure _
      refine Tx.aborts_bind (Tx.aborts_require ⟨_, rfl⟩) fun _ => ?_
      refine Tx.aborts_bind (Tx.aborts_read _) fun _ => ?_
      exact Tx.aborts_bind (Tx.aborts_require ⟨_, rfl⟩) fun _ => Tx.aborts_insert ⟨_, rfl⟩

theorem admitRetry_step {input : RetryTaskInput} {db db' : Db}
    {r : Except ReliabilityError ReceiptOutcome} (h : admitRetry input db = (r, db')) :
    ReceiptStep db db' := by
  cases hget : db.transportReceipts.get (input.transport, input.external_event_id) with
  | some row =>
    rw [admitRetry_seen hget] at h
    obtain ⟨-, rfl⟩ := Prod.mk.inj h
    exact .same rfl
  | none =>
    rcases admitRetry_new hget h with ⟨-, hputs, -⟩ | ⟨rfl, -⟩
    · exact .added input.boundReceipt hget hputs
    · exact .same rfl

end

end GuiguBridge
