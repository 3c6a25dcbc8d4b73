import GuiguBridge.App.WorkflowReplay

/-!
# Whose row a reservation names

A place in the queue is known by target and key, a message by sender and key, and two entry
points reserve places: `admit_queued_workflow`, with the message, and `reserve_queue`, without
(`src/src/storage/reliability.rs`).

* `QueueRequest`, `WorkQueueRow.Carries` — what a caller asks for, and a row with its data;
* `bridgeAt_carries` — a row carries the same data for good;
* `EnvelopesQueued`, `bridgeAt_queued` — **every envelope has its own place**, as long as every
  message is admitted with one;
* `admission_reservation` — over every run: the place that an admission reports carries its data,
  and **an admission that asks for a place with other data is refused**;
* `reservation_not_own` — a message that is resent reports its first delivery, and
  `reserve_queue` reports the place it finds.
-/

namespace GuiguBridge

open Relational

/-! ### Requests -/

/-- What a caller asks to have a place for. -/
structure QueueRequest where
  task_id : TaskId
  delivery_id : DeliveryId
  target : EndpointId
  sender : EndpointId
  idempotency_key : String
  body_hash : String
  deriving DecidableEq

def WorkflowAdmission.request (input : WorkflowAdmission) : QueueRequest :=
  ⟨input.task_id, input.delivery_id, input.target_endpoint_id, input.sender_endpoint_id,
    input.idempotency_key, input.body_hash⟩

/-- The row carries what was asked for; its delivery apart. -/
structure WorkQueueRow.Carries (q : WorkQueueRow) (request : QueueRequest) : Prop where
  place : q.At request.target request.idempotency_key
  task : q.task_id = request.task_id
  sender : q.sender_endpoint_id = request.sender
  body : q.body_hash = request.body_hash

instance (q : WorkQueueRow) (request : QueueRequest) : Decidable (q.Carries request) :=
  decidable_of_iff ((q.target_endpoint_id = request.target ∧
      q.idempotency_key = request.idempotency_key) ∧ q.task_id = request.task_id ∧
      q.sender_endpoint_id = request.sender ∧ q.body_hash = request.body_hash)
    ⟨fun h => ⟨h.1, h.2.1, h.2.2.1, h.2.2.2⟩, fun h => ⟨h.place, h.task, h.sender, h.body⟩⟩

/-- What a row reports of itself. -/
def WorkQueueRow.reservation (q : WorkQueueRow) : QueueReservation :=
  ⟨q.queue_id, q.sequence, q.state⟩

/-- The data of a row that a move leaves. -/
theorem QueueMove.carries {db : Db} {call : QueueCall} {q q' : WorkQueueRow}
    {request : QueueRequest} (h : QueueMove db call q q') (hq : q.Carries request) :
    q'.Carries request ∧ q'.delivery_id = q.delivery_id := by
  obtain ⟨hplace, htask, hsender, hbody⟩ := hq
  cases h <;> exact ⟨⟨hplace, htask, hsender, hbody⟩, rfl⟩

section

variable [Externals] {db : Db}

theorem bridge_carries (fs : FileSystem) (call : BridgeCall) {q : WorkQueueRow}
    {request : QueueRequest} (hq : q ∈ db.agentWorkQueue.rows) (hcarries : q.Carries request) :
    ∃ q' ∈ (bridgeStep fs db call).agentWorkQueue.rows, q'.queue_id = q.queue_id ∧
      q'.Carries request := by
  obtain ⟨q', hq', hid, hmove⟩ := (bridge_queue fs db call).row hq
  refine ⟨q', hq', hid, ?_⟩
  obtain rfl | ⟨qcall, -, hmove⟩ := hmove
  · exact hcarries
  · exact (hmove.carries hcarries).1

/-- **A row carries its data for good.** -/
theorem bridgeAt_carries {fs : FileSystem} {calls : List BridgeCall} {i n : Nat} (h : i ≤ n)
    {q : WorkQueueRow} {request : QueueRequest}
    (hq : q ∈ (bridgeAt fs calls i).agentWorkQueue.rows) (hcarries : q.Carries request) :
    ∃ q' ∈ (bridgeAt fs calls n).agentWorkQueue.rows, q'.queue_id = q.queue_id ∧
      q'.Carries request := by
  induction h with
  | refl => exact ⟨q, hq, rfl, hcarries⟩
  | @step n hn ih =>
    obtain ⟨p, hp, hid, hcarried⟩ := ih
    cases hcall : calls[n]? with
    | none =>
      rw [bridgeAt_end hcall]
      exact ⟨p, hp, hid, hcarried⟩
    | some call =>
      rw [bridgeAt_succ hcall]
      obtain ⟨p', hp', hid', hcarried'⟩ := bridge_carries fs call hp hcarried
      exact ⟨p', hp', hid'.trans hid, hcarried'⟩

/-! ### One call -/

omit [Externals] in
/-- The place that a replay finds or a new message takes. -/
theorem reserveWorkflowQueue_row {input : WorkflowAdmission} {queue_id : Uuid}
    {room_id : String} {thread_root : Option String} {capacity : Int} {outcome : ReceiptOutcome}
    {reservation : QueueReservation} {s s' : Db}
    (h : reserveWorkflowQueue input queue_id room_id thread_root capacity outcome s =
      .ok (reservation, s')) :
    (outcome ≠ .inserted ∧ s' = s ∧ ∃ q ∈ s.agentWorkQueue.rows,
        q.At input.target_endpoint_id input.idempotency_key ∧ reservation = q.reservation) ∨
      (outcome = .inserted ∧
        (∀ q ∈ s.agentWorkQueue.rows, ¬ q.At input.target_endpoint_id input.idempotency_key) ∧
        ∃ sequence, (input.queueRow queue_id room_id thread_root sequence) ∈
            s'.agentWorkQueue.rows ∧
          reservation = (input.queueRow queue_id room_id thread_root sequence).reservation) := by
  cases outcome with
  | replay task_id result_code =>
    simp only [reserveWorkflowQueue, Tx.bind_ok, Tx.read_ok, Tx.orElse_ok, Tx.pure_ok] at h
    obtain ⟨found, _, ⟨hfound, rfl⟩, row, _, ⟨hrow, rfl⟩, rfl, rfl⟩ := h
    rw [hrow] at hfound
    have hat : row.At input.target_endpoint_id input.idempotency_key := by
      show _ ∧ _
      simpa using List.find?_some hfound
    exact Or.inl ⟨by simp, rfl, row, List.mem_of_find?_eq_some hfound, hat, rfl⟩
  | inserted =>
    simp only [reserveWorkflowQueue, Tx.bind_ok, Tx.read_ok, Tx.require_ok, Tx.pure_ok] at h
    obtain ⟨_, _, ⟨-, rfl⟩, _, _, ⟨-, rfl⟩, n, s₁, hseq, _, s₂, hins, rfl, rfl⟩ := h
    obtain ⟨t, rfl⟩ := nextSequence_ok hseq
    obtain ⟨hfree, hrows⟩ := insertQueueRow_places hins
    exact Or.inr ⟨rfl, hfree, n, (hrows _).mpr (Or.inr rfl), rfl⟩

/-- Every envelope has a place in the queue that carries its data. -/
def EnvelopesQueued (db : Db) : Prop :=
  ∀ row ∈ db.workflowEnvelopes.rows, ∃ q ∈ db.agentWorkQueue.rows,
    q.At row.target_endpoint_id row.idempotency_key ∧ q.task_id = row.task_id ∧
      q.sender_endpoint_id = row.sender_endpoint_id ∧ q.body_hash = row.body_hash

variable {input : WorkflowAdmission} {event_id : EventId} {queue_id : Uuid} {room_id : String}
  {thread_root : Option String} {capacity : Int} {r : QueueReservation} {db' : Db}

omit [Externals] in
/-- An envelope that a message repeats says what the message asks for. -/
theorem EnvelopesQueued.carries (h : EnvelopesQueued db) {row : WorkflowEnvelopeRow}
    (hrow : row ∈ db.workflowEnvelopes.rows) (hnames : input.names row)
    (hrepeats : input.repeats row = true) :
    ∃ q ∈ db.agentWorkQueue.rows, q.Carries input.request := by
  obtain ⟨q, hq, hat, htask, hsender, hbody⟩ := h row hrow
  obtain ⟨-, -, htask', hbody', htarget', -⟩ := of_decide_eq_true hrepeats
  refine ⟨q, hq, ⟨hat.1.trans htarget', hat.2.trans hnames.2⟩, htask.trans htask', ?_,
    hbody.trans hbody'⟩
  exact hsender.trans hnames.1

/-- **What an admission reports carries its data**: with its own delivery, unless the message was
known. -/
theorem admitQueued_carries (hinv : MessageInv db) (hqueued : EnvelopesQueued db)
    (h : admitQueuedWorkflow input event_id queue_id room_id thread_root capacity db =
      (.ok r, db')) :
    ∃ q ∈ db'.agentWorkQueue.rows, r = q.reservation ∧ q.Carries input.request ∧
      (q.delivery_id = input.delivery_id ∨ ∃ row ∈ db.workflowEnvelopes.rows,
        input.names row ∧ input.repeats row = true) := by
  obtain hok | ⟨-, _, -, herror⟩ := Tx.commit_cases h
  · simp only [Tx.bind_ok, Tx.pure_ok] at hok
    obtain ⟨outcome, s₁, htx, reservation, s₂, hqueue, hr, rfl⟩ := hok
    cases hr
    obtain ⟨row, hrow, hnames, hrepeats, -, rfl, rfl⟩ | ⟨rfl, t, hreserved, ht, -⟩ :=
      admitWorkflowTx_envelopes htx
    · obtain ⟨-, rfl, q, hq, hat, hres⟩ | ⟨houtcome, -⟩ := reserveWorkflowQueue_row hqueue
      · -- the place found is that of the envelope
        obtain ⟨p, hp, hcarries⟩ := hqueued.carries hrow hnames hrepeats
        obtain rfl : q = p := hinv.places q hq p hp
          ⟨hat.1.trans hcarries.place.1.symm, hat.2.trans hcarries.place.2.symm⟩
        exact ⟨q, hq, hres, hcarries, Or.inr ⟨row, hrow, hnames, hrepeats⟩⟩
      · cases houtcome
    · obtain ⟨houtcome, -⟩ | ⟨-, -, n, hmem, hres⟩ := reserveWorkflowQueue_row hqueue
      · exact absurd rfl houtcome
      · exact ⟨_, hmem, hres, ⟨⟨rfl, rfl⟩, rfl, rfl, rfl⟩, Or.inl rfl⟩
  · cases herror

/-- **A place that carries other data is not given to an admission.** -/
theorem admitQueued_other (hinv : MessageInv db) (hqueued : EnvelopesQueued db)
    {q : WorkQueueRow} (hq : q ∈ db.agentWorkQueue.rows)
    (hat : q.At input.target_endpoint_id input.idempotency_key)
    (hother : ¬ q.Carries input.request) :
    ∃ e, admitQueuedWorkflow input event_id queue_id room_id thread_root capacity db =
      (.error e, db) := by
  obtain ⟨result, db', h⟩ : ∃ result db', admitQueuedWorkflow input event_id queue_id room_id
    thread_root capacity db = (result, db') := ⟨_, _, rfl⟩
  rw [h]
  obtain hok | ⟨rfl, e, -, rfl⟩ := Tx.commit_cases h
  · exfalso
    simp only [Tx.bind_ok, Tx.pure_ok] at hok
    obtain ⟨outcome, s₁, htx, reservation, s₂, hqueue, -, rfl⟩ := hok
    obtain ⟨row, hrow, hnames, hrepeats, -⟩ | ⟨rfl, t, -, -, hsame⟩ :=
      admitWorkflowTx_envelopes htx
    · obtain ⟨p, hp, hcarries⟩ := hqueued.carries hrow hnames hrepeats
      obtain rfl : q = p := hinv.places q hq p hp
        ⟨hat.1.trans hcarries.place.1.symm, hat.2.trans hcarries.place.2.symm⟩
      exact hother hcarries
    · obtain ⟨houtcome, -⟩ | ⟨-, hfree, -⟩ := reserveWorkflowQueue_row hqueue
      · exact houtcome rfl
      · rw [hsame] at hfree
        exact hfree q hq hat
  · exact ⟨e, rfl⟩

omit [Externals] in
/-- A reservation of a free place. -/
theorem reserveQueue_free {request : QueueRequest} {now : String}
    (hfree : ∀ q ∈ db.agentWorkQueue.rows, ¬ q.At request.target request.idempotency_key)
    (h : reserveQueue queue_id request.task_id request.delivery_id request.target room_id
      thread_root request.sender request.idempotency_key request.body_hash capacity now db =
      (.ok r, db')) :
    ∃ q ∈ db'.agentWorkQueue.rows, r = q.reservation ∧ q.Carries request ∧
      q.delivery_id = request.delivery_id := by
  obtain hok | ⟨-, _, -, herror⟩ := Tx.commit_cases h
  · simp only [Tx.bind_ok, Tx.read_ok] at hok
    obtain ⟨_, s₁, hupsert, existing, _, ⟨hexisting, rfl⟩, hok⟩ := hok
    have hsame := upsertCounter_queue hupsert
    cases existing with
    | some row =>
      rw [hsame] at hexisting
      have hat : row.At request.target request.idempotency_key := by
        show _ ∧ _
        simpa using List.find?_some hexisting
      exact absurd hat (hfree row (List.mem_of_find?_eq_some hexisting))
    | none =>
      simp only [Tx.bind_ok, Tx.read_ok, Tx.require_ok, Tx.pure_ok] at hok
      obtain ⟨_, _, ⟨-, rfl⟩, _, _, ⟨-, rfl⟩, n, s₂, hdraw, _, s₃, hins, hr, rfl⟩ := hok
      cases hr
      obtain ⟨-, hrows⟩ := insertQueueRow_places hins
      exact ⟨_, (hrows _).mpr (Or.inr rfl), rfl, ⟨⟨rfl, rfl⟩, rfl, rfl, rfl⟩, rfl⟩
  · cases herror

/-- A call that admits no message without a place keeps every envelope at its own. -/
theorem EnvelopesQueued.step (h : EnvelopesQueued db) (fs : FileSystem) {call : BridgeCall}
    (hcall : ∀ input event_id, call ≠ .admitWorkflow input event_id) :
    EnvelopesQueued (bridgeStep fs db call) := by
  -- the place of an envelope that was there
  have hold : ∀ row ∈ db.workflowEnvelopes.rows,
      ∃ q ∈ (bridgeStep fs db call).agentWorkQueue.rows,
        q.At row.target_endpoint_id row.idempotency_key ∧ q.task_id = row.task_id ∧
          q.sender_endpoint_id = row.sender_endpoint_id ∧ q.body_hash = row.body_hash := by
    intro row hrow
    obtain ⟨q, hq, hat, htask, hsender, hbody⟩ := h row hrow
    have hcarried : q.Carries ⟨row.task_id, q.delivery_id, row.target_endpoint_id,
        row.sender_endpoint_id, row.idempotency_key, row.body_hash⟩ :=
      ⟨hat, htask, hsender, hbody⟩
    obtain ⟨q', hq', -, hcarries⟩ := bridge_carries fs call hq hcarried
    exact ⟨q', hq', hcarries.place, hcarries.task, hcarries.sender, hcarries.body⟩
  cases hmessage : call.workflowMessage with
  | none =>
    intro row hrow
    rw [bridge_envelopes_quiet fs db call hmessage] at hrow
    exact hold row hrow
  | some input =>
    unfold BridgeCall.workflowMessage at hmessage
    split at hmessage
    · rename_i input event_id queue_id room_id thread_root capacity
      obtain ⟨result, db', hadmit⟩ : ∃ result db', admitQueuedWorkflow input event_id queue_id
        room_id thread_root capacity db = (result, db') := ⟨_, _, rfl⟩
      have hstep : bridgeStep fs db (.queue (.admitQueuedWorkflow input event_id queue_id room_id
        thread_root capacity)) = db' := congrArg Prod.snd hadmit
      rw [hstep] at hold ⊢
      obtain hok | ⟨rfl, -⟩ := Tx.commit_cases hadmit
      · simp only [Tx.bind_ok, Tx.pure_ok] at hok
        obtain ⟨outcome, s₁, htx, reservation, s₂, hqueue, -, rfl⟩ := hok
        have hsame := reserveWorkflowQueue_envelopes hqueue
        obtain ⟨row, -, -, -, -, -, rfl⟩ | ⟨rfl, t, hreserved, ht, -⟩ :=
          admitWorkflowTx_envelopes htx
        · intro row hrow
          rw [hsame] at hrow
          exact hold row hrow
        · obtain ⟨houtcome, -⟩ | ⟨-, -, n, hmem, -⟩ := reserveWorkflowQueue_row hqueue
          · exact absurd rfl houtcome
          · cases hreserved with
            | new _ hkey hinsert =>
              intro row hrow
              rw [hsame, ht] at hrow
              obtain hrow | rfl := (Table.mem_insert hinsert).mp hrow
              · exact hold row hrow
              · exact ⟨_, hmem, ⟨rfl, rfl⟩, rfl, rfl, rfl⟩
      · exact h
    · rename_i input event_id
      exact absurd rfl (hcall input event_id)
    · cases hmessage

/-! ### Over a run -/

/-- No message is admitted without a place. -/
def PlacedMessages (calls : List BridgeCall) : Prop :=
  ∀ call ∈ calls, ∀ input event_id, call ≠ .admitWorkflow input event_id

variable {fs : FileSystem} {calls : List BridgeCall}

theorem bridgeAt_queued (hcalls : PlacedMessages calls) (n : Nat) :
    EnvelopesQueued (bridgeAt fs calls n) := by
  refine bridgeAt_invariant EnvelopesQueued ?_ ?_ n
  · intro row hrow
    cases hrow
  · intro n call hcall h
    exact h.step fs (hcalls call (List.mem_of_getElem? hcall))

/-- An admission at position `n` of the run that was accepted. -/
structure AdmittedAt (fs : FileSystem) (calls : List BridgeCall) (n : Nat)
    (input : WorkflowAdmission) (r : QueueReservation) : Prop where
  accepted : ∃ event_id queue_id room_id thread_root capacity,
    calls[n]? = some
      (.queue (.admitQueuedWorkflow input event_id queue_id room_id thread_root capacity)) ∧
    (admitQueuedWorkflow input event_id queue_id room_id thread_root capacity
      (bridgeAt fs calls n)).1 = .ok r

/-- The place reported, after the call. -/
theorem AdmittedAt.place {n : Nat} (hcalls : PlacedMessages calls)
    (h : AdmittedAt fs calls n input r) :
    ∃ q ∈ (bridgeAt fs calls (n + 1)).agentWorkQueue.rows, r = q.reservation ∧
      q.Carries input.request ∧ (q.delivery_id = input.delivery_id ∨
        ∃ row ∈ (bridgeAt fs calls n).workflowEnvelopes.rows,
          input.names row ∧ input.repeats row = true) := by
  obtain ⟨event_id, queue_id, room_id, thread_root, capacity, hcall, haccepted⟩ := h.accepted
  have hnext : bridgeAt fs calls (n + 1) = (admitQueuedWorkflow input event_id queue_id room_id
      thread_root capacity (bridgeAt fs calls n)).2 := bridgeAt_succ hcall
  exact admitQueued_carries (bridgeAt_messageInv fs calls n) (bridgeAt_queued hcalls n)
    (Prod.ext haccepted hnext.symm)

/-- **Whose row a reservation names**, in every run in which messages are admitted with their
place.  What an admission reports is a row that carries its task, sender, key and body, and its
delivery unless the message was known; two admissions that were given the same row ask for the
same; an admission that asks for a place with another task, sender or body is refused without
change; and a reservation of a free place is a row with all that was asked for. -/
theorem admission_reservation (fs : FileSystem) (calls : List BridgeCall)
    (hcalls : PlacedMessages calls) (n : Nat) :
    (∀ input r, AdmittedAt fs calls n input r →
      (∃ q ∈ (bridgeAt fs calls (n + 1)).agentWorkQueue.rows, r = q.reservation ∧
        q.Carries input.request ∧ (q.delivery_id = input.delivery_id ∨
          ∃ row ∈ (bridgeAt fs calls n).workflowEnvelopes.rows,
            input.names row ∧ input.repeats row = true)) ∧
      ∀ i ≤ n, ∀ input' r', AdmittedAt fs calls i input' r' → r'.queue_id = r.queue_id →
        { input'.request with delivery_id := input.delivery_id } = input.request) ∧
    (∀ input event_id queue_id room_id thread_root capacity,
      ∀ q ∈ (bridgeAt fs calls n).agentWorkQueue.rows,
        q.At input.target_endpoint_id input.idempotency_key → ¬ q.Carries input.request →
        ∃ e, admitQueuedWorkflow input event_id queue_id room_id thread_root capacity
          (bridgeAt fs calls n) = (.error e, bridgeAt fs calls n)) ∧
    (∀ (request : QueueRequest) queue_id room_id thread_root capacity now r db',
      (∀ q ∈ (bridgeAt fs calls n).agentWorkQueue.rows,
        ¬ q.At request.target request.idempotency_key) →
      reserveQueue queue_id request.task_id request.delivery_id request.target room_id
        thread_root request.sender request.idempotency_key request.body_hash capacity now
        (bridgeAt fs calls n) = (.ok r, db') →
      ∃ q ∈ db'.agentWorkQueue.rows, r = q.reservation ∧ q.Carries request ∧
        q.delivery_id = request.delivery_id) := by
  refine ⟨?_, ?_, ?_⟩
  · intro input r hadmitted
    obtain ⟨q, hq, hr, hcarries, hdelivery⟩ := hadmitted.place hcalls
    refine ⟨⟨q, hq, hr, hcarries, hdelivery⟩, ?_⟩
    intro i hi input' r' hadmitted' hsame
    obtain ⟨p, hp, hr', hcarries', -⟩ := hadmitted'.place hcalls
    obtain ⟨p', hp', hid, hcarried⟩ := bridgeAt_carries (Nat.succ_le_succ hi) hp hcarries'
    have hone : p' = q := by
      refine Table.eq_of_key_eq _ hp' hq ?_
      show p'.queue_id = q.queue_id
      rw [hid]
      rw [hr', hr] at hsame
      exact hsame
    rw [hone] at hcarried
    have htask := hcarried.task.symm.trans hcarries.task
    have htarget := hcarried.place.1.symm.trans hcarries.place.1
    have hsender := hcarried.sender.symm.trans hcarries.sender
    have hkey := hcarried.place.2.symm.trans hcarries.place.2
    have hbody := hcarried.body.symm.trans hcarries.body
    show (⟨input'.request.task_id, input.delivery_id, input'.request.target,
      input'.request.sender, input'.request.idempotency_key, input'.request.body_hash⟩ :
        QueueRequest) = _
    rw [htask, htarget, hsender, hkey, hbody]
    rfl
  · intro input event_id queue_id room_id thread_root capacity q hq hat hother
    exact admitQueued_other (bridgeAt_messageInv fs calls n) (bridgeAt_queued hcalls n) hq hat
      hother
  · intro request queue_id room_id thread_root capacity now r db' hfree h
    exact reserveQueue_free hfree h

/-! ### Both entry points -/

/-- The request of a call that reserves a place. -/
def BridgeCall.request : BridgeCall → Option QueueRequest
  | .queue (.admitQueuedWorkflow input _ _ _ _ _) => some input.request
  | .queue (.reserveQueue _ task_id delivery_id target _ _ sender idempotency_key body_hash _ _) =>
    some ⟨task_id, delivery_id, target, sender, idempotency_key, body_hash⟩
  | _ => none

/-- What such a call answers. -/
def BridgeCall.reserved (db : Db) : BridgeCall → Option (Except ReliabilityError QueueReservation)
  | .queue (.admitQueuedWorkflow input event_id queue_id room_id thread_root capacity) =>
    some (admitQueuedWorkflow input event_id queue_id room_id thread_root capacity db).1
  | .queue (.reserveQueue queue_id task_id delivery_id target room_id thread_root sender
      idempotency_key body_hash capacity now) =>
    some (reserveQueue queue_id task_id delivery_id target room_id thread_root sender
      idempotency_key body_hash capacity now db).1
  | _ => none

/-- Every reservation names a row with all that its caller asked for. -/
def OwnReservations (fs : FileSystem) (calls : List BridgeCall) : Prop :=
  ∀ n call request r, calls[n]? = some call → call.request = some request →
    call.reserved (bridgeAt fs calls n) = some (.ok r) →
    ∃ q ∈ (bridgeAt fs calls (n + 1)).agentWorkQueue.rows, q.queue_id = r.queue_id ∧
      q.Carries request ∧ q.delivery_id = request.delivery_id

/-- Every request for a place with another task, sender or body is refused without change. -/
def OthersRefused (fs : FileSystem) (calls : List BridgeCall) : Prop :=
  ∀ n call request, calls[n]? = some call → call.request = some request →
    ∀ q ∈ (bridgeAt fs calls n).agentWorkQueue.rows,
      q.At request.target request.idempotency_key → ¬ q.Carries request →
      (∃ e, call.reserved (bridgeAt fs calls n) = some (.error e)) ∧
        bridgeAt fs calls (n + 1) = bridgeAt fs calls n

end

/-- A message, and the same message with another delivery. -/
def resentRun : List BridgeCall :=
  [.queue (.admitQueuedWorkflow sendInput ⟨4⟩ 7 "workflow" (some "c") 1),
    .queue (.admitQueuedWorkflow { sendInput with delivery_id := ⟨10⟩ } ⟨11⟩ 12 "workflow"
      (some "c") 1)]

/-- A message, and a reservation of its place by another sender for another body. -/
def takenRun : List BridgeCall :=
  [.queue (.admitQueuedWorkflow sendInput ⟨4⟩ 7 "workflow" (some "c") 1),
    .queue (.reserveQueue 12 ⟨2⟩ ⟨9⟩ ⟨5⟩ "workflow" none ⟨3⟩ "k" "other" 1
      "1970-01-01T00:00:01+00:00")]

/-- A resent message is given the row of its first delivery, and `reserve_queue` gives the row it
finds to anyone. -/
theorem reservation_not_own :
    ¬ OwnReservations noFiles resentRun ∧ ¬ OwnReservations noFiles takenRun ∧
      ¬ OthersRefused noFiles takenRun := by
  have hresent : (bridgeAt noFiles resentRun 2).agentWorkQueue.rows =
      [sendInput.queueRow 7 "workflow" (some "c") 1] := by decide
  have htaken : (bridgeAt noFiles takenRun 2).agentWorkQueue.rows =
      [sendInput.queueRow 7 "workflow" (some "c") 1] := by decide
  refine ⟨?_, ?_, ?_⟩
  · intro h
    obtain ⟨q, hq, -, -, hdelivery⟩ := h 1 _ _ ⟨7, 1, .queued⟩ rfl rfl (by decide)
    rw [hresent, List.mem_singleton] at hq
    rw [hq] at hdelivery
    exact absurd hdelivery (by decide)
  · intro h
    obtain ⟨q, hq, -, hcarries, -⟩ := h 1 _ _ ⟨7, 1, .queued⟩ rfl rfl (by decide)
    rw [htaken, List.mem_singleton] at hq
    rw [hq] at hcarries
    exact absurd hcarries (by decide)
  · intro h
    have hfirst : sendInput.queueRow 7 "workflow" (some "c") 1 ∈
        (bridgeAt noFiles takenRun 1).agentWorkQueue.rows := by decide
    obtain ⟨⟨e, herror⟩, -⟩ := h 1 _ _ rfl rfl _ hfirst ⟨rfl, rfl⟩ (by decide)
    have hok : BridgeCall.reserved (bridgeAt noFiles takenRun 1)
        (.queue (.reserveQueue 12 ⟨2⟩ ⟨9⟩ ⟨5⟩ "workflow" none ⟨3⟩ "k" "other" 1
          "1970-01-01T00:00:01+00:00")) = some (.ok ⟨7, 1, .queued⟩) := by decide
    rw [hok] at herror
    cases herror

/-- The message of `resentRun`, and another one at its place. -/
theorem admission_reservation_resent :
    (∃ q ∈ (bridgeAt noFiles resentRun 2).agentWorkQueue.rows,
        (⟨7, 1, .queued⟩ : QueueReservation) = q.reservation ∧
          q.Carries { sendInput.request with delivery_id := ⟨10⟩ }) ∧
      ∃ e, admitQueuedWorkflow { sendInput with external_event_id := "$f", body_hash := "other" }
        ⟨13⟩ 14 "workflow" none 1 (bridgeAt noFiles resentRun 1) =
          (.error e, bridgeAt noFiles resentRun 1) := by
  have hcalls : PlacedMessages resentRun := by
    intro call hcall input event_id heq
    rw [heq] at hcall
    simp [resentRun] at hcall
  have hagain : AdmittedAt noFiles resentRun 1 { sendInput with delivery_id := ⟨10⟩ }
      ⟨7, 1, .queued⟩ := ⟨⟨11⟩, 12, "workflow", some "c", 1, rfl, by decide⟩
  obtain ⟨hown, hother, -⟩ := admission_reservation noFiles resentRun hcalls 1
  obtain ⟨⟨q, hq, hr, hcarries, -⟩, -⟩ := hown _ _ hagain
  refine ⟨⟨q, hq, hr, hcarries⟩, ?_⟩
  have hfirst : sendInput.queueRow 7 "workflow" (some "c") 1 ∈
      (bridgeAt noFiles resentRun 1).agentWorkQueue.rows := by decide
  exact hother _ _ _ _ _ _ _ hfirst ⟨rfl, rfl⟩ (by decide)

end GuiguBridge
