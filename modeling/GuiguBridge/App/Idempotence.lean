import GuiguBridge.App.QueueHistory

/-!
# One task for a message

A message is named by its transport and its event, and its receipt says which task it became.
Tasks are admitted under a receipt by `admit_task` and `admit_retry`; `reserve_receipt` and
`update_receipt` write receipts without a task.

* `bridge_receipts` — **every call of the bridge is a `ReceiptStep`**: it leaves the receipts
  alone, adds one, or rewrites one that is reserved;
* `BridgeCall.message` — the message that a call admits a task for;
* `idempotent_admission` — in every run, at most one task for a message, a binding that is final
  once the receipt is not reserved any more, and replays that change nothing.
-/

namespace GuiguBridge

open Relational

section

variable [Externals]

/-! ### The receipts of the bridge -/

/-- **Every call is a step of the receipts.** -/
theorem bridge_receipts (fs : FileSystem) (db : Db) (call : BridgeCall) :
    ReceiptStep db (bridgeStep fs db call) := by
  cases call with
  | runtime call =>
    cases call with
    | admitTask task event runtime_instance context => exact admitTask_step rfl
    | _ => exact .same (bridgeStep_frame fs db _ .transportReceipts rfl)
  | queue call =>
    cases call <;> exact .same (bridgeStep_frame fs db _ .transportReceipts rfl)
  | gateway call =>
    cases call <;> exact .same (bridgeStep_frame fs db _ .transportReceipts rfl)
  | admitRetry input => exact admitRetry_step rfl
  | reserveReceipt transport external_event_id room_id receipt_kind route_kind now =>
    exact (reserveTransportReceipt_step rfl).1
  | updateReceipt transport external_event_id state result_code task_id now =>
    exact (updateReceipt_step rfl).1
  | _ => exact .same (bridgeStep_frame fs db _ .transportReceipts rfl)

/-! ### Messages -/

omit [Externals] in
/-- The message that a call admits a task for, and the task. -/
def BridgeCall.message : BridgeCall → Option ((String × String) × TaskId)
  | .runtime (.admitTask task _ _ (some context)) =>
    some ((context.transport, context.external_event_id), task.task_id)
  | .admitRetry input => some ((input.transport, input.external_event_id), input.task_id)
  | _ => none

omit [Externals] in
/-- What a call answers to a message that has a receipt already. -/
def BridgeCall.answer (r : TransportReceiptRow) : BridgeCall →
    Except ReliabilityError ReceiptOutcome
  | .runtime _ => r.answer
  | _ => .ok (.replay r.task_id r.result_code)

/-- What the call that admits a task for a message returns. -/
def messageResult (db : Db) : BridgeCall → Option (Except ReliabilityError ReceiptOutcome)
  | .runtime (.admitTask task event runtime_instance (some context)) =>
    some (admitTask task.toAgentTask event runtime_instance (some context) db).1
  | .admitRetry input => some (admitRetry input db).1
  | _ => none

/-- One of the four calls that write receipts fails. -/
def receiptCallFails (db : Db) : BridgeCall → Prop
  | .runtime (.admitTask task event runtime_instance context) =>
    ∃ e, (admitTask task.toAgentTask event runtime_instance context db).1 = .error e
  | .admitRetry input => ∃ e, (admitRetry input db).1 = .error e
  | .reserveReceipt transport external_event_id room_id receipt_kind route_kind now =>
    ∃ e, (reserveTransportReceipt transport external_event_id room_id receipt_kind route_kind now
      db).1 = .error e
  | .updateReceipt transport external_event_id state result_code task_id now =>
    ∃ e, (updateReceipt transport external_event_id state result_code task_id now db).1 = .error e
  | _ => False

/-- A message that has a receipt. -/
theorem message_seen (fs : FileSystem) {db : Db} {call : BridgeCall} {k : String × String}
    {task_id : TaskId} {r : TransportReceiptRow} (hcall : call.message = some (k, task_id))
    (hr : db.transportReceipts.get k = some r) :
    bridgeStep fs db call = db ∧ messageResult db call = some (call.answer r) := by
  unfold BridgeCall.message at hcall
  split at hcall
  · obtain ⟨rfl, rfl⟩ := Prod.mk.inj (Option.some.inj hcall)
    rename_i task event runtime_instance context
    have h := admitTask_seen task.toAgentTask event runtime_instance hr
    exact ⟨congrArg Prod.snd h, congrArg some (congrArg Prod.fst h)⟩
  · obtain ⟨rfl, rfl⟩ := Prod.mk.inj (Option.some.inj hcall)
    have h := admitRetry_seen hr
    exact ⟨congrArg Prod.snd h, congrArg some (congrArg Prod.fst h)⟩
  · cases hcall

/-- A message without a receipt: its task and its receipt appear together, or nothing does. -/
theorem message_new (fs : FileSystem) {db : Db} {call : BridgeCall} {k : String × String}
    {task_id : TaskId} (hcall : call.message = some (k, task_id))
    (hfree : db.transportReceipts.get k = none) :
    (messageResult db call = some (.ok .inserted) ∧ db.tasks.get task_id = none ∧
      (bridgeStep fs db call).tasks.get task_id ≠ none ∧
      ∃ r, r.task_id = some task_id ∧ r.state = .admitted ∧
        db.transportReceipts.Puts k r (bridgeStep fs db call).transportReceipts) ∨
    (bridgeStep fs db call = db ∧ ∃ e, messageResult db call = some (.error e)) := by
  unfold BridgeCall.message at hcall
  split at hcall
  · obtain ⟨rfl, rfl⟩ := Prod.mk.inj (Option.some.inj hcall)
    rename_i task event runtime_instance context
    obtain ⟨r, db', h⟩ : ∃ r db', admitTask task.toAgentTask event runtime_instance (some context)
      db = (r, db') := ⟨_, _, rfl⟩
    have hstep : bridgeStep fs db (.runtime (.admitTask task event runtime_instance
        (some context))) = db' := congrArg Prod.snd h
    have hresult : messageResult db (.runtime (.admitTask task event runtime_instance
        (some context))) = some r := congrArg some (congrArg Prod.fst h)
    rw [hstep, hresult]
    rcases admitTask_new hfree h with ⟨rfl, hputs, htask⟩ | ⟨hdb, e, rfl⟩
    · obtain ⟨hnone, htputs⟩ := Table.insert_puts htask
      have hget : db'.tasks.get task.task_id = some (taskToRow task.toAgentTask) :=
        (htputs task.task_id).trans (if_pos rfl)
      exact Or.inl ⟨rfl, hnone, by rw [hget]; simp, _, rfl, rfl, hputs⟩
    · exact Or.inr ⟨hdb, e, rfl⟩
  · obtain ⟨rfl, rfl⟩ := Prod.mk.inj (Option.some.inj hcall)
    rename_i input
    obtain ⟨r, db', h⟩ : ∃ r db', admitRetry input db = (r, db') := ⟨_, _, rfl⟩
    have hstep : bridgeStep fs db (.admitRetry input) = db' := congrArg Prod.snd h
    have hresult : messageResult db (.admitRetry input) = some r :=
      congrArg some (congrArg Prod.fst h)
    rw [hstep, hresult]
    rcases admitRetry_new hfree h with ⟨rfl, hputs, htask⟩ | ⟨hdb, e, rfl⟩
    · obtain ⟨hnone, htputs⟩ := Table.insert_puts htask
      have hget : db'.tasks.get input.task_id = some input.taskRow :=
        (htputs input.task_id).trans (if_pos rfl)
      exact Or.inl ⟨rfl, hnone, by rw [hget]; simp, _, rfl, rfl, hputs⟩
    · exact Or.inr ⟨hdb, e, rfl⟩
  · cases hcall

/-- A call that fails leaves nothing behind. -/
theorem receiptCallFails_same (fs : FileSystem) {db : Db} {call : BridgeCall}
    (h : receiptCallFails db call) : bridgeStep fs db call = db := by
  unfold receiptCallFails at h
  split at h
  · rename_i task event runtime_instance context
    obtain ⟨e, he⟩ := h
    rcases admitTask_cases (r := (admitTask task.toAgentTask event runtime_instance context
      db).1) rfl with hdb | ⟨hok, -⟩
    · exact hdb
    · rw [he] at hok
      cases hok
  · rename_i input
    obtain ⟨e, he⟩ := h
    rcases admitRetry_cases (r := (admitRetry input db).1) rfl with hdb | ⟨hok, -⟩
    · exact hdb
    · rw [he] at hok
      cases hok
  · obtain ⟨e, he⟩ := h
    exact (reserveTransportReceipt_step rfl).2 e he
  · obtain ⟨e, he⟩ := h
    exact (updateReceipt_step rfl).2 e he
  · exact h.elim

/-! ### Every run -/

/-- A receipt stays, and is final once it has left the reserved state. -/
theorem receipt_final (fs : FileSystem) (calls : List BridgeCall) {n : Nat}
    {k : String × String} {r : TransportReceiptRow}
    (hr : (bridgeAt fs calls n).transportReceipts.get k = some r) (d : Nat) :
    ∃ r', (bridgeAt fs calls (n + d)).transportReceipts.get k = some r' ∧
      (r.state ≠ .reserved → r' = r) := by
  induction d with
  | zero => exact ⟨r, hr, fun _ => rfl⟩
  | succ d ih =>
    obtain ⟨r', hr', hfinal⟩ := ih
    cases hcall : calls[n + d]? with
    | none =>
      rw [show n + (d + 1) = n + d + 1 from rfl, bridgeAt_end hcall]
      exact ⟨r', hr', hfinal⟩
    | some call =>
      rw [show n + (d + 1) = n + d + 1 from rfl, bridgeAt_succ hcall]
      obtain ⟨r'', hr'', hfinal'⟩ := (bridge_receipts fs _ call).row hr'
      refine ⟨r'', hr'', ?_⟩
      intro hne
      obtain rfl := hfinal hne
      exact hfinal' hne

/-- A task that a message brought: its receipt names it from then on. -/
theorem message_bound (fs : FileSystem) (calls : List BridgeCall) {i : Nat} {call : BridgeCall}
    {k : String × String} {task_id : TaskId} (hcall : calls[i]? = some call)
    (hmessage : call.message = some (k, task_id))
    (hinserted : messageResult (bridgeAt fs calls i) call = some (.ok .inserted)) :
    (bridgeAt fs calls i).transportReceipts.get k = none ∧
    (bridgeAt fs calls i).tasks.get task_id = none ∧
    (bridgeAt fs calls (i + 1)).tasks.get task_id ≠ none ∧
    ∃ r, r.task_id = some task_id ∧ r.state = .admitted ∧
      ∀ n, i < n → (bridgeAt fs calls n).transportReceipts.get k = some r := by
  cases hget : (bridgeAt fs calls i).transportReceipts.get k with
  | some r =>
    obtain ⟨-, hanswer⟩ := message_seen fs hmessage hget
    rw [hinserted] at hanswer
    have hne : call.answer r ≠ .ok .inserted := by
      unfold BridgeCall.answer TransportReceiptRow.answer
      split
      · split <;> nofun
      · nofun
    exact absurd (Option.some.inj hanswer).symm hne
  | none =>
    rcases message_new fs hmessage hget with ⟨-, hnone, hsome, r, htask, hstate, hputs⟩ |
      ⟨-, e, herror⟩
    · rw [← bridgeAt_succ hcall] at hsome hputs
      refine ⟨rfl, hnone, hsome, r, htask, hstate, ?_⟩
      intro n hn
      have hr : (bridgeAt fs calls (i + 1)).transportReceipts.get k = some r :=
        (hputs k).trans (if_pos rfl)
      obtain ⟨r', hr', hfinal⟩ := receipt_final fs calls hr (n - (i + 1))
      rw [show i + 1 + (n - (i + 1)) = n by omega] at hr'
      rw [hr', hfinal (by rw [hstate]; nofun)]
    · rw [hinserted] at herror
      cases herror

/-- **One task for a message.**  In every run, whoever presents messages in whatever order:
at most one call creates a task for a message; its receipt is bound to that task, and no receipt
that has left the reserved state changes again; a message that has a receipt changes no table
and is answered from the receipt; and a call that fails leaves the store as it was. -/
theorem idempotent_admission (fs : FileSystem) (calls : List BridgeCall) :
    (∀ i j c c' k t t', calls[i]? = some c → calls[j]? = some c' →
      c.message = some (k, t) → c'.message = some (k, t') →
      messageResult (bridgeAt fs calls i) c = some (.ok .inserted) →
      messageResult (bridgeAt fs calls j) c' = some (.ok .inserted) → i = j) ∧
    (∀ i c k t, calls[i]? = some c → c.message = some (k, t) →
      messageResult (bridgeAt fs calls i) c = some (.ok .inserted) →
      (bridgeAt fs calls i).tasks.get t = none ∧ (bridgeAt fs calls (i + 1)).tasks.get t ≠ none ∧
      ∃ r, r.task_id = some t ∧ r.state = .admitted ∧
        ∀ n, i < n → (bridgeAt fs calls n).transportReceipts.get k = some r) ∧
    (∀ n m k r, n ≤ m → (bridgeAt fs calls n).transportReceipts.get k = some r →
      r.state ≠ .reserved → (bridgeAt fs calls m).transportReceipts.get k = some r) ∧
    (∀ n c k t r, c.message = some (k, t) →
      (bridgeAt fs calls n).transportReceipts.get k = some r →
      bridgeStep fs (bridgeAt fs calls n) c = bridgeAt fs calls n ∧
      messageResult (bridgeAt fs calls n) c = some (c.answer r)) ∧
    (∀ n c, receiptCallFails (bridgeAt fs calls n) c →
      bridgeStep fs (bridgeAt fs calls n) c = bridgeAt fs calls n) := by
  refine ⟨?_, ?_, ?_, ?_, fun n c h => receiptCallFails_same fs h⟩
  · -- the later one of two finds the receipt of the earlier one
    have hearlier : ∀ i j c c' k t t', i < j → calls[i]? = some c → calls[j]? = some c' →
        c.message = some (k, t) → c'.message = some (k, t') →
        messageResult (bridgeAt fs calls i) c = some (.ok .inserted) →
        messageResult (bridgeAt fs calls j) c' ≠ some (.ok .inserted) := by
      intro i j c c' k t t' hij hi hj hm hm' hins hins'
      obtain ⟨-, -, -, r, -, -, hr⟩ := message_bound fs calls hi hm hins
      obtain ⟨hfree, -⟩ := message_bound fs calls hj hm' hins'
      rw [hr j hij] at hfree
      cases hfree
    intro i j c c' k t t' hi hj hm hm' hins hins'
    rcases Nat.lt_trichotomy i j with hlt | heq | hgt
    · exact absurd hins' (hearlier i j c c' k t t' hlt hi hj hm hm' hins)
    · exact heq
    · exact absurd hins (hearlier j i c' c k t' t hgt hj hi hm' hm hins')
  · intro i c k t hi hm hins
    exact (message_bound fs calls hi hm hins).2
  · intro n m k r hnm hr hstate
    obtain ⟨r', hr', hfinal⟩ := receipt_final fs calls hr (m - n)
    rw [show n + (m - n) = m by omega] at hr'
    rw [hr', hfinal hstate]
  · intro n c k t r hm hr
    exact message_seen fs hm hr

end

/-! ### A command and a message under one name -/

/-- A retry of the task of `sendInput`. -/
def retryInput : RetryTaskInput :=
  { transport := "matrix", external_event_id := "$r", room_id := "!r", thread_root := none,
    reply_event_id := "$r", admin_actor := "@a", source_task_id := ⟨2⟩, task_id := ⟨30⟩,
    from_agent := ⟨6⟩, to_agent := ⟨5⟩, conversation_id := ⟨8⟩, text := "t", priority := 5,
    deadline := none, timestamp := "1970-01-01T00:00:02+00:00", event_id := ⟨31⟩, body := "b",
    stable_txn_id := "x" }

/-- The message under the same name. -/
def retryMessage : AdmissionContext :=
  { transport := "matrix", external_event_id := "$r", room_id := "!r", thread_root := none,
    reply_event_id := "$r", monitor_room := none, monitor_generation := 0 }

/-- A task ends and is retried. -/
def retryRun : List BridgeCall :=
  [.admitWorkflow sendInput ⟨4⟩,
    .runtime (.transition (sendEvent ⟨10⟩ 2 .cancelled (.cancelled "c"))),
    .admitRetry retryInput]

/-- The task and the event that the message brings. -/
def retryTask : NewTask :=
  { sendInput.task with task_id := ⟨32⟩, root_task_id := ⟨32⟩, version_zero := rfl }

def retryEvent : TaskEvent :=
  { id := ⟨33⟩, task_id := ⟨32⟩, seq := 1, status := .queued, timestamp := DateTime.ofSecs 3,
    payload := .queued }

theorem retryRun_lastStatus : (bridgeAt noFiles retryRun 2).lastStatus ⟨2⟩ = some .cancelled := by
  obtain ⟨e, e', hrows, he, he', hstatus⟩ : ∃ e e', ((bridgeAt noFiles retryRun 2).taskEvents.rows
      |>.filter (·.task_id = ⟨2⟩)) = [e, e'] ∧ e.seq = 1 ∧ e'.seq = 2 ∧
        e'.status = .cancelled := by
    refine ⟨sendInput.eventRow ⟨4⟩,
      eventToRow (sendEvent ⟨10⟩ 2 .cancelled (.cancelled "c")) 2 .cancelled, ?_⟩
    decide
  unfold Db.lastStatus
  rw [hrows]
  simp [List.mergeSort, List.MergeSort.Internal.splitInTwo, he, he', hstatus]

/-- The source of the retry is in order. -/
theorem retryRun_check : checkRetrySource retryInput (bridgeAt noFiles retryRun 2) =
    .ok ((), bridgeAt noFiles retryRun 2) := by
  have hfree : (bridgeAt noFiles retryRun 2).transportReceipts.get
      (retryInput.transport, retryInput.external_event_id) = none := by decide
  have hsource : (bridgeAt noFiles retryRun 2).tasks.get retryInput.source_task_id =
      some { taskToRow sendInput.task with version := 1 } := by decide
  have hstatus : (bridgeAt noFiles retryRun 2).lastStatus retryInput.source_task_id =
      some .cancelled := retryRun_lastStatus
  unfold checkRetrySource
  rw [Tx.bind_apply, Tx.read_apply]
  simp only [hfree]
  rw [Tx.bind_apply, Tx.read_apply]
  simp only [hsource]
  rw [Tx.bind_apply, Tx.orElse_some]
  dsimp only
  rw [Tx.bind_apply, Tx.read_apply]
  simp only [hstatus]
  rfl

theorem retryRun_inserted :
    (admitRetry retryInput (bridgeAt noFiles retryRun 2)).1 = .ok .inserted := by
  unfold admitRetry Tx.commit
  rw [Tx.bind_of_ok retryRun_check]
  decide

/-- The receipt of the command is bound to the retry, and **the message under its name is not a
replay but an error**. -/
theorem retryRun_refuses :
    messageResult (bridgeAt noFiles retryRun 2) (.admitRetry retryInput) = some (.ok .inserted) ∧
    ((bridgeAt noFiles retryRun 3).transportReceipts.get ("matrix", "$r")).map (·.task_id) =
      some (some ⟨30⟩) ∧
    messageResult (bridgeAt noFiles retryRun 3)
      (.runtime (.admitTask retryTask retryEvent "r" (some retryMessage))) =
        some (.error .malformed) := by
  have hfree : (bridgeAt noFiles retryRun 2).transportReceipts.get
      (retryInput.transport, retryInput.external_event_id) = none := by decide
  have hget : (bridgeAt noFiles retryRun 3).transportReceipts.get ("matrix", "$r") =
      some retryInput.boundReceipt := by
    rw [bridgeAt_succ (show retryRun[2]? = some (.admitRetry retryInput) from rfl)]
    rcases admitRetry_new hfree rfl with ⟨-, hputs, -⟩ | ⟨-, e, he⟩
    · exact (hputs _).trans (if_pos rfl)
    · have hcontra := retryRun_inserted.symm.trans he
      cases hcontra
  refine ⟨congrArg some retryRun_inserted, by rw [hget]; rfl, ?_⟩
  have hanswer : admitTask retryTask.toAgentTask retryEvent "r" (some retryMessage)
      (bridgeAt noFiles retryRun 3) =
        (retryInput.boundReceipt.answer, bridgeAt noFiles retryRun 3) :=
    admitTask_seen retryTask.toAgentTask retryEvent "r" hget
  exact congrArg some (congrArg Prod.fst hanswer)

/-- The same command again is a replay of its task. -/
theorem idempotent_admission_retryRun :
    ∃ r : TransportReceiptRow, r.task_id = some ⟨30⟩ ∧
      messageResult (bridgeAt noFiles retryRun 3) (.admitRetry retryInput) =
        some (.ok (.replay r.task_id r.result_code)) ∧
      bridgeStep noFiles (bridgeAt noFiles retryRun 3) (.admitRetry retryInput) =
        bridgeAt noFiles retryRun 3 := by
  have hins : messageResult (bridgeAt noFiles retryRun 2) (.admitRetry retryInput) =
      some (.ok .inserted) := congrArg some retryRun_inserted
  obtain ⟨-, hbound, -, hseen, -⟩ := idempotent_admission noFiles retryRun
  obtain ⟨-, -, r, htask, -, hr⟩ := hbound 2 _ _ _ rfl rfl hins
  obtain ⟨hsame, hanswer⟩ := hseen 3 (.admitRetry retryInput) _ _ r rfl (hr 3 (by decide))
  exact ⟨r, htask, hanswer, hsame⟩

end GuiguBridge
