import GuiguBridge.App.QueueHistory

/-!
# Workflow messages presented again

A workflow message is known by its event and by the key that its sender gave it.  What was
admitted once is recognised when it comes again, whatever has happened to its task in between.

* `reserveEnvelope_cases` — an envelope that is seen says the same, and one that is new has a new
  event and a new key;
* `EnvelopeStep`, `bridge_envelopes` — **every call of the bridge only adds envelopes**;
* `queueStep_place`, `MessageInv` — one envelope for a key of a sender, one place in the queue for
  a key of a target;
* `admitQueued_known`, `admitQueued_conflict`, `admitQueued_again` — an admission of a message
  that is known;
* `workflow_replay` — over every run.
-/

namespace GuiguBridge

open Relational

/-! ### Messages -/

namespace WorkflowAdmission

/-- The event of the message. -/
def event (input : WorkflowAdmission) : String × String :=
  (input.transport, input.external_event_id)

/-- The envelope has the key that the sender gave the message. -/
def names (input : WorkflowAdmission) (row : WorkflowEnvelopeRow) : Prop :=
  row.sender_endpoint_id = input.sender_endpoint_id ∧ row.idempotency_key = input.idempotency_key

/-- Both say the same: all that an envelope compares, and not the event. -/
structure Says (input' input : WorkflowAdmission) : Prop where
  sender : input'.sender_endpoint_id = input.sender_endpoint_id
  target : input'.target_endpoint_id = input.target_endpoint_id
  task : input'.task_id = input.task_id
  correlation : input'.correlation_id = input.correlation_id
  key : input'.idempotency_key = input.idempotency_key
  kind : input'.kind = input.kind
  body : input'.body_hash = input.body_hash

theorem Says.refl (input : WorkflowAdmission) : Says input input :=
  ⟨rfl, rfl, rfl, rfl, rfl, rfl, rfl⟩

theorem Says.names {input' input : WorkflowAdmission} (h : Says input' input)
    {row : WorkflowEnvelopeRow} (hrow : input.names row) : input'.names row :=
  ⟨hrow.1.trans h.sender.symm, hrow.2.trans h.key.symm⟩

theorem Says.repeats {input' input : WorkflowAdmission} (h : Says input' input)
    (row : WorkflowEnvelopeRow) : input'.repeats row = input.repeats row := by
  unfold WorkflowAdmission.repeats
  rw [h.kind, h.task, h.body, h.target, h.correlation]

theorem replays_iff (input : WorkflowAdmission) (row : WorkflowEnvelopeRow) :
    input.replays row = true ↔ input.repeats row = true ∧ input.names row := by
  unfold replays names
  rw [Bool.and_eq_true, decide_eq_true_iff]

theorem envelopeRow_repeats (input : WorkflowAdmission) :
    input.repeats input.envelopeRow = true := by
  simp [repeats, envelopeRow]

end WorkflowAdmission

/-- What a reservation finds or writes. -/
inductive EnvelopeReserved (input : WorkflowAdmission) (db : Db) :
    Option ReceiptOutcome → Db → Prop where
  | seen (row : WorkflowEnvelopeRow) (hrow : row ∈ db.workflowEnvelopes.rows)
      (hnames : input.names row) (hrepeats : input.repeats row = true)
      (hevent : db.workflowEnvelopes.get input.event = some row ∨
        db.workflowEnvelopes.get input.event = none) :
      EnvelopeReserved input db (some (replayedEnvelope row)) db
  | new (t : Table WorkflowEnvelopeRow.key)
      (hkey : ∀ row ∈ db.workflowEnvelopes.rows, ¬ input.names row)
      (hinsert : db.workflowEnvelopes.insert input.envelopeRow = some t) :
      EnvelopeReserved input db none { db with workflowEnvelopes := t }

theorem reserveEnvelope_cases {input : WorkflowAdmission} {s s' : Db}
    {seen : Option ReceiptOutcome} (h : reserveEnvelope input s = .ok (seen, s')) :
    EnvelopeReserved input s seen s' := by
  simp only [reserveEnvelope, Tx.bind_ok, Tx.read_ok] at h
  obtain ⟨byEvent, _, ⟨hevent, rfl⟩, byKey, _, ⟨hkey, rfl⟩, h⟩ := h
  cases byEvent with
  | some row =>
    simp only [Tx.bind_ok, Tx.require_ok, Tx.pure_ok] at h
    obtain ⟨_, _, ⟨hreplays, rfl⟩, rfl, rfl⟩ := h
    obtain ⟨hrepeats, hnames⟩ := (input.replays_iff row).mp hreplays
    exact .seen row (Table.mem_of_get hevent) hnames hrepeats (.inl hevent)
  | none =>
    cases byKey with
    | some row =>
      simp only [Tx.bind_ok, Tx.require_ok, Tx.pure_ok] at h
      obtain ⟨_, _, ⟨hrepeats, rfl⟩, rfl, rfl⟩ := h
      have hnames : input.names row := by
        show _ ∧ _
        simpa using List.find?_some hkey
      exact .seen row (List.mem_of_find?_eq_some hkey) hnames hrepeats (.inr hevent)
    | none =>
      simp only [Tx.bind_ok, Tx.insert_ok, Tx.pure_ok] at h
      obtain ⟨_, _, ⟨t, hinsert, rfl⟩, rfl, rfl⟩ := h
      refine .new t ?_ hinsert
      intro row hrow hnames
      have hnone := List.find?_eq_none.mp hkey row hrow
      exact hnone (decide_eq_true hnames)

/-! ### The envelopes of the bridge -/

/-- What one call does to the envelopes: nothing, or it adds one whose event and key are new. -/
inductive EnvelopeStep (db db' : Db) : Prop where
  | same (h : db'.workflowEnvelopes = db.workflowEnvelopes)
  | added (input : WorkflowAdmission)
      (hkey : ∀ row ∈ db.workflowEnvelopes.rows, ¬ input.names row)
      (hinsert : db.workflowEnvelopes.insert input.envelopeRow = some db'.workflowEnvelopes)

/-- No envelope is lost. -/
theorem EnvelopeStep.kept {db db' : Db} (h : EnvelopeStep db db') {row : WorkflowEnvelopeRow}
    (hrow : row ∈ db.workflowEnvelopes.rows) : row ∈ db'.workflowEnvelopes.rows := by
  cases h with
  | same h => rwa [h]
  | added input hkey hinsert => exact (Table.mem_insert hinsert).mpr (.inl hrow)

section

variable [Externals]

/-- What a workflow admission that reached its end does to the envelopes, and what it reports. -/
theorem admitWorkflowTx_envelopes {input : WorkflowAdmission} {event_id : EventId} {s s' : Db}
    {outcome : ReceiptOutcome} (h : admitWorkflowTx input event_id s = .ok (outcome, s')) :
    (∃ row ∈ s.workflowEnvelopes.rows, input.names row ∧ input.repeats row = true ∧
        (s.workflowEnvelopes.get input.event = some row ∨
          s.workflowEnvelopes.get input.event = none) ∧
        outcome = replayedEnvelope row ∧ s' = s) ∨
      (outcome = .inserted ∧ ∃ t, EnvelopeReserved input s none { s with workflowEnvelopes := t } ∧
        s'.workflowEnvelopes = t ∧ s'.agentWorkQueue = s.agentWorkQueue) := by
  simp only [admitWorkflowTx, Tx.bind_ok] at h
  obtain ⟨_, s₁, hauth, seen, s₂, hreserve, h⟩ := h
  obtain rfl := authorizeWorkflow_ok hauth
  have hcases := reserveEnvelope_cases hreserve
  cases hcases with
  | seen row hrow hnames hrepeats hevent =>
    obtain ⟨rfl, rfl⟩ := Tx.pure_ok.1 h
    exact .inl ⟨row, hrow, hnames, hrepeats, hevent, rfl, rfl⟩
  | new t hkey hinsert =>
    simp only [Tx.bind_ok, Tx.pure_ok] at h
    obtain ⟨_, s₃, htask, _, s₄, hdelivery, rfl, rfl⟩ := h
    obtain ⟨-, t', ev, ad, rfl⟩ := admitWorkflowTask_ok htask
    obtain ⟨d, e, rfl⟩ := insertWorkflowDelivery_ok hdelivery
    exact .inr ⟨rfl, t, .new t hkey hinsert, rfl, rfl⟩

/-- The same as a step of the envelopes. -/
theorem admitWorkflowTx_envelopeStep {input : WorkflowAdmission} {event_id : EventId} {s s' : Db}
    {outcome : ReceiptOutcome} (h : admitWorkflowTx input event_id s = .ok (outcome, s')) :
    EnvelopeStep s s' := by
  rcases admitWorkflowTx_envelopes h with ⟨row, -, -, -, -, -, rfl⟩ | ⟨-, t, hreserved, henvelopes, -⟩
  · exact .same rfl
  · cases hreserved with
    | new _ hkey hinsert =>
      refine .added input hkey ?_
      rw [henvelopes]
      exact hinsert

omit [Externals] in
theorem reserveWorkflowQueue_envelopes {input : WorkflowAdmission} {queue_id : Uuid}
    {room_id : String} {thread_root : Option String} {capacity : Int} {outcome : ReceiptOutcome}
    {reservation : QueueReservation} {s s' : Db}
    (h : reserveWorkflowQueue input queue_id room_id thread_root capacity outcome s =
      .ok (reservation, s')) : s'.workflowEnvelopes = s.workflowEnvelopes := by
  obtain ⟨c, q, rfl⟩ := reserveWorkflowQueue_ok h
  rfl

/-- The workflow message that a call admits. -/
def BridgeCall.workflowMessage : BridgeCall → Option WorkflowAdmission
  | .queue (.admitQueuedWorkflow input _ _ _ _ _) => some input
  | .admitWorkflow input _ => some input
  | _ => none

/-- A call that admits no message leaves the envelopes. -/
theorem bridge_envelopes_quiet (fs : FileSystem) (db : Db) (call : BridgeCall)
    (hcall : call.workflowMessage = none) :
    (bridgeStep fs db call).workflowEnvelopes = db.workflowEnvelopes := by
  cases call with
  | runtime call => cases call <;> exact bridgeStep_frame fs db _ .workflowEnvelopes rfl
  | queue call =>
    cases call with
    | admitQueuedWorkflow input event_id queue_id room_id thread_root capacity => cases hcall
    | _ => exact bridgeStep_frame fs db _ .workflowEnvelopes rfl
  | gateway call => cases call <;> exact bridgeStep_frame fs db _ .workflowEnvelopes rfl
  | admitWorkflow input event_id => cases hcall
  | _ => exact bridgeStep_frame fs db _ .workflowEnvelopes rfl

/-- A queued admission adds an envelope, or none. -/
theorem admitQueuedWorkflow_envelopes {input : WorkflowAdmission} {event_id : EventId}
    {queue_id : Uuid} {room_id : String} {thread_root : Option String} {capacity : Int}
    {db db' : Db} {r : Except ReliabilityError QueueReservation}
    (h : admitQueuedWorkflow input event_id queue_id room_id thread_root capacity db = (r, db')) :
    EnvelopeStep db db' := by
  rcases Tx.commit_cases h with hok | ⟨rfl, -⟩
  · simp only [Tx.bind_ok, Tx.pure_ok] at hok
    obtain ⟨outcome, s₁, htx, reservation, s₂, hqueue, -, rfl⟩ := hok
    have hsame := reserveWorkflowQueue_envelopes hqueue
    cases admitWorkflowTx_envelopeStep htx with
    | same h => exact .same (hsame.trans h)
    | added input' hkey hinsert =>
      refine .added input' hkey ?_
      rw [hsame]
      exact hinsert
  · exact .same rfl

/-- **Every call only adds envelopes.** -/
theorem bridge_envelopes (fs : FileSystem) (db : Db) (call : BridgeCall) :
    EnvelopeStep db (bridgeStep fs db call) := by
  cases hmessage : call.workflowMessage with
  | none => exact .same (bridge_envelopes_quiet fs db call hmessage)
  | some input =>
    unfold BridgeCall.workflowMessage at hmessage
    split at hmessage
    · exact admitQueuedWorkflow_envelopes rfl
    · rename_i input' event_id
      obtain ⟨r, db', hcall⟩ : ∃ r db', admitWorkflow input' event_id db = (r, db') :=
        ⟨_, _, rfl⟩
      have hstep : bridgeStep fs db (.admitWorkflow input' event_id) = db' :=
        congrArg Prod.snd hcall
      rw [hstep]
      rcases Tx.commit_cases hcall with hok | ⟨rfl, -⟩
      · simp only [Tx.bind_ok, Tx.pure_ok] at hok
        obtain ⟨outcome, s₁, htx, -, rfl⟩ := hok
        exact admitWorkflowTx_envelopeStep htx
      · exact .same rfl
    · cases hmessage

end

/-! ### Places in the queue -/

/-- The row has the place of this key at this target. -/
def WorkQueueRow.At (target : EndpointId) (key : String) (q : WorkQueueRow) : Prop :=
  q.target_endpoint_id = target ∧ q.idempotency_key = key

/-- The queue as it was, or with one more row whose place was free. -/
inductive PlacesOne (db db' : Db) : Prop where
  | same (h : db'.agentWorkQueue = db.agentWorkQueue)
  | placed (row : WorkQueueRow)
      (hfree : ∀ q ∈ db.agentWorkQueue.rows, ¬ q.At row.target_endpoint_id row.idempotency_key)
      (hrows : ∀ q, q ∈ db'.agentWorkQueue.rows ↔ q ∈ db.agentWorkQueue.rows ∨ q = row)

theorem insertQueueRow_places {row : WorkQueueRow} {s s' : Db} {u : Unit}
    (h : insertQueueRow row s = .ok (u, s')) :
    (∀ q ∈ s.agentWorkQueue.rows, ¬ q.At row.target_endpoint_id row.idempotency_key) ∧
      ∀ q, q ∈ s'.agentWorkQueue.rows ↔ q ∈ s.agentWorkQueue.rows ∨ q = row := by
  simp only [insertQueueRow, Tx.bind_ok, Tx.read_ok, Tx.require_ok, Tx.insert_ok] at h
  obtain ⟨taken, _, ⟨htaken, rfl⟩, _, _, ⟨hfree, rfl⟩, t, hinsert, rfl⟩ := h
  refine ⟨?_, fun q => Table.mem_insert hinsert⟩
  intro q hq hat
  rw [← htaken, Bool.not_eq_true', List.any_eq_false] at hfree
  exact hfree q hq (decide_eq_true ⟨hat.1, .inl hat.2⟩)

theorem takeSequence_queue {target : EndpointId} {now : String} {s s' : Db} {n : Nat}
    (h : takeSequence target now s = .ok (n, s')) : s'.agentWorkQueue = s.agentWorkQueue := by
  obtain ⟨c, t, -, -, rfl, -⟩ := takeSequence_ok h
  rfl

theorem upsertCounter_queue {target : EndpointId} {capacity : Int} {now : String} {s s' : Db}
    {u : Unit} (h : upsertCounter target capacity now s = .ok (u, s')) :
    s'.agentWorkQueue = s.agentWorkQueue := by
  obtain ⟨t, rfl, -⟩ := upsertCounter_ok h
  rfl

theorem reserveQueue_places {queue_id : Uuid} {task_id : TaskId} {delivery_id : DeliveryId}
    {target : EndpointId} {room_id : String} {thread_root : Option String} {sender : EndpointId}
    {idempotency_key body_hash : String} {capacity : Int} {now : String} {db db' : Db}
    {r : Except ReliabilityError QueueReservation}
    (h : reserveQueue queue_id task_id delivery_id target room_id thread_root sender
      idempotency_key body_hash capacity now db = (r, db')) : PlacesOne db db' := by
  rcases Tx.commit_cases h with hok | ⟨rfl, -⟩
  · simp only [Tx.bind_ok, Tx.read_ok] at hok
    obtain ⟨_, s₁, hupsert, existing, _, ⟨-, rfl⟩, hok⟩ := hok
    have hsame := upsertCounter_queue hupsert
    cases existing with
    | some row =>
      obtain ⟨-, rfl⟩ := Tx.pure_ok.1 hok
      exact .same hsame
    | none =>
      simp only [Tx.bind_ok, Tx.read_ok, Tx.require_ok, Tx.pure_ok] at hok
      obtain ⟨_, _, ⟨-, rfl⟩, _, _, ⟨-, rfl⟩, n, s₂, hdraw, _, s₃, hins, -, rfl⟩ := hok
      obtain ⟨hfree, hrows⟩ := insertQueueRow_places hins
      rw [takeSequence_queue hdraw, hsame] at hfree hrows
      exact .placed _ hfree hrows
  · exact .same rfl

/-- The place of an admission: found for a replay, taken otherwise. -/
theorem reserveWorkflowQueue_places {input : WorkflowAdmission} {queue_id : Uuid}
    {room_id : String} {thread_root : Option String} {capacity : Int} {outcome : ReceiptOutcome}
    {reservation : QueueReservation} {s s' : Db}
    (h : reserveWorkflowQueue input queue_id room_id thread_root capacity outcome s =
      .ok (reservation, s')) :
    PlacesOne s s' ∧ ∃ q ∈ s'.agentWorkQueue.rows,
      q.At input.target_endpoint_id input.idempotency_key ∧
        reservation = ⟨q.queue_id, q.sequence, q.state⟩ := by
  cases outcome with
  | replay task_id result_code =>
    simp only [reserveWorkflowQueue, Tx.bind_ok, Tx.read_ok, Tx.orElse_ok, Tx.pure_ok] at h
    obtain ⟨found, _, ⟨hfound, rfl⟩, row, _, ⟨hrow, rfl⟩, rfl, rfl⟩ := h
    rw [hrow] at hfound
    have hat : row.At input.target_endpoint_id input.idempotency_key := by
      show _ ∧ _
      simpa using List.find?_some hfound
    exact ⟨.same rfl, row, List.mem_of_find?_eq_some hfound, hat, rfl⟩
  | inserted =>
    simp only [reserveWorkflowQueue, Tx.bind_ok, Tx.read_ok, Tx.require_ok, Tx.pure_ok] at h
    obtain ⟨_, _, ⟨-, rfl⟩, _, _, ⟨-, rfl⟩, n, s₁, hseq, _, s₂, hins, rfl, rfl⟩ := h
    obtain ⟨t, rfl⟩ := nextSequence_ok hseq
    obtain ⟨hfree, hrows⟩ := insertQueueRow_places hins
    refine ⟨.placed _ hfree hrows, _, (hrows _).mpr (.inr rfl), ⟨rfl, rfl⟩, rfl⟩

/-- The row stays at its place. -/
theorem QueueMove.at {db : Db} {call : QueueCall} {q q' : WorkQueueRow}
    (h : QueueMove db call q q') : q'.At q.target_endpoint_id q.idempotency_key := by
  cases h <;> exact ⟨rfl, rfl⟩

/-- A row of the queue was there before the call, at its place, or took a free one. -/
theorem queueStep_place [Externals] (db : Db) (call : QueueCall) :
    PlacesOne db (queueStep db call) ∨
      ∀ q' ∈ (queueStep db call).agentWorkQueue.rows, ∃ q ∈ db.agentWorkQueue.rows,
        q.queue_id = q'.queue_id ∧ q.At q'.target_endpoint_id q'.idempotency_key := by
  have hstep := queueStep_cases db call
  have hmoved : call.entered = none →
      ∀ q' ∈ (queueStep db call).agentWorkQueue.rows, ∃ q ∈ db.agentWorkQueue.rows,
        q.queue_id = q'.queue_id ∧ q.At q'.target_endpoint_id q'.idempotency_key := by
    intro hnone q' hq'
    rcases hstep.rows q' hq' with hold | ⟨q, hq, hid, hmove⟩ | ⟨-, -, hentered⟩
    · exact ⟨q', hold, rfl, rfl, rfl⟩
    · exact ⟨q, hq, hid, hmove.at.1.symm, hmove.at.2.symm⟩
    · rw [hnone] at hentered
      cases hentered
  cases call with
  | reserveQueue queue_id task_id delivery_id target room_id thread_root sender idempotency_key
      body_hash capacity now => exact .inl (reserveQueue_places rfl)
  | admitQueuedWorkflow input event_id queue_id room_id thread_root capacity =>
    refine .inl ?_
    obtain ⟨r, db', hcall⟩ : ∃ r db', admitQueuedWorkflow input event_id queue_id room_id
      thread_root capacity db = (r, db') := ⟨_, _, rfl⟩
    have hdb' : queueStep db (.admitQueuedWorkflow input event_id queue_id room_id thread_root
      capacity) = db' := congrArg Prod.snd hcall
    rw [hdb']
    rcases Tx.commit_cases hcall with hok | ⟨rfl, -⟩
    · simp only [Tx.bind_ok, Tx.pure_ok] at hok
      obtain ⟨outcome, s₁, htx, reservation, s₂, hqueue, -, rfl⟩ := hok
      obtain ⟨-, t, ev, ad, we, d, e, rfl⟩ := admitWorkflowTx_ok htx
      cases (reserveWorkflowQueue_places hqueue).1 with
      | same h => exact .same h
      | placed row hfree hrows => exact .placed row hfree hrows
    · exact .same rfl
  | _ => exact .inr (hmoved rfl)

/-! ### One envelope and one place -/

/-- A key of a sender names one envelope, and a key of a target one row of the queue. -/
structure MessageInv (db : Db) : Prop where
  envelopes : ∀ row ∈ db.workflowEnvelopes.rows, ∀ row' ∈ db.workflowEnvelopes.rows,
    row.sender_endpoint_id = row'.sender_endpoint_id →
    row.idempotency_key = row'.idempotency_key → row = row'
  places : ∀ q ∈ db.agentWorkQueue.rows, ∀ q' ∈ db.agentWorkQueue.rows,
    q.At q'.target_endpoint_id q'.idempotency_key → q = q'

theorem EnvelopeStep.unique {db db' : Db} (h : EnvelopeStep db db') (hinv : MessageInv db) :
    ∀ row ∈ db'.workflowEnvelopes.rows, ∀ row' ∈ db'.workflowEnvelopes.rows,
      row.sender_endpoint_id = row'.sender_endpoint_id →
      row.idempotency_key = row'.idempotency_key → row = row' := by
  cases h with
  | same h =>
    rw [h]
    exact hinv.envelopes
  | added input hkey hinsert =>
    intro row hrow row' hrow' hsender hkey'
    rcases (Table.mem_insert hinsert).mp hrow with hold | rfl
    · rcases (Table.mem_insert hinsert).mp hrow' with hold' | rfl
      · exact hinv.envelopes row hold row' hold' hsender hkey'
      · exact absurd ⟨hsender, hkey'⟩ (hkey row hold)
    · rcases (Table.mem_insert hinsert).mp hrow' with hold' | rfl
      · exact absurd ⟨hsender.symm, hkey'.symm⟩ (hkey row' hold')
      · rfl

theorem PlacesOne.unique {db db' : Db} (h : PlacesOne db db') (hinv : MessageInv db) :
    ∀ q ∈ db'.agentWorkQueue.rows, ∀ q' ∈ db'.agentWorkQueue.rows,
      q.At q'.target_endpoint_id q'.idempotency_key → q = q' := by
  cases h with
  | same h =>
    rw [h]
    exact hinv.places
  | placed row hfree hrows =>
    intro q hq q' hq' hat
    rcases (hrows q).mp hq with hold | rfl
    · rcases (hrows q').mp hq' with hold' | rfl
      · exact hinv.places q hold q' hold' hat
      · exact absurd hat (hfree q hold)
    · rcases (hrows q').mp hq' with hold' | rfl
      · exact absurd ⟨hat.1.symm, hat.2.symm⟩ (hfree q' hold')
      · rfl

section

variable [Externals]

/-- **One call keeps the invariant.** -/
theorem MessageInv.step (fs : FileSystem) {db : Db} (hinv : MessageInv db) (call : BridgeCall) :
    MessageInv (bridgeStep fs db call) := by
  refine ⟨(bridge_envelopes fs db call).unique hinv, ?_⟩
  cases bridge_queue fs db call with
  | same hqueue hcounters =>
    rw [hqueue]
    exact hinv.places
  | stepped qcall hcall hq =>
    subst hcall
    rcases queueStep_place db qcall with hplaces | hmoved
    · exact hplaces.unique hinv
    · intro q hq q' hq' hat
      obtain ⟨p, hp, hid, hplace⟩ := hmoved q hq
      obtain ⟨p', hp', hid', hplace'⟩ := hmoved q' hq'
      -- the two rows come from rows at the same place, and those are one
      have hsame : p = p' := hinv.places p hp p' hp'
        ⟨(hplace.1.trans hat.1).trans hplace'.1.symm, (hplace.2.trans hat.2).trans hplace'.2.symm⟩
      refine Table.eq_of_key_eq _ hq hq' ?_
      show q.queue_id = q'.queue_id
      rw [← hid, hsame, hid']

theorem bridgeAt_messageInv (fs : FileSystem) (calls : List BridgeCall) (n : Nat) :
    MessageInv (bridgeAt fs calls n) := by
  refine bridgeAt_invariant MessageInv ⟨?_, ?_⟩ (fun _ call _ h => h.step fs call) n
  · intro row hrow
    cases hrow
  · intro q hq
    cases hq

/-! ### A message that is known -/

/-- The admission gets past its checks of the sender; without an authorization there are none. -/
def WorkflowAdmission.Passes (input : WorkflowAdmission) (db : Db) : Prop :=
  input.authorization = none ∨ authorizeWorkflow input db = .ok ((), db)

omit [Externals] in
theorem WorkflowAdmission.Passes.ok {input : WorkflowAdmission} {db : Db} (h : input.Passes db) :
    authorizeWorkflow input db = .ok ((), db) := by
  rcases h with h | h
  · unfold authorizeWorkflow
    rw [h]
    rfl
  · exact h

section

variable {input : WorkflowAdmission} {event_id : EventId} {queue_id : Uuid} {room_id : String}
  {thread_root : Option String} {capacity : Int} {db : Db}

/-- **An admission whose key or event is known changes nothing.** -/
theorem admitQueued_known {row : WorkflowEnvelopeRow} (hrow : row ∈ db.workflowEnvelopes.rows)
    (hknown : input.names row ∨ row.key = input.event) :
    (admitQueuedWorkflow input event_id queue_id room_id thread_root capacity db).2 = db := by
  obtain ⟨r, db', hcall⟩ : ∃ r db', admitQueuedWorkflow input event_id queue_id room_id
    thread_root capacity db = (r, db') := ⟨_, _, rfl⟩
  rw [hcall]
  rcases Tx.commit_cases hcall with hok | ⟨rfl, -⟩
  · simp only [Tx.bind_ok, Tx.pure_ok] at hok
    obtain ⟨outcome, s₁, htx, reservation, s₂, hqueue, -, rfl⟩ := hok
    rcases admitWorkflowTx_envelopes htx with ⟨row', -, -, -, -, rfl, rfl⟩ | ⟨-, t, hreserved, -⟩
    · simp only [replayedEnvelope, reserveWorkflowQueue, Tx.bind_ok, Tx.read_ok, Tx.orElse_ok,
        Tx.pure_ok] at hqueue
      obtain ⟨_, _, ⟨-, rfl⟩, _, _, ⟨-, rfl⟩, -, rfl⟩ := hqueue
      rfl
    · -- a reservation of a known message is no new one
      cases hreserved with
      | new _ hkey hinsert =>
        rcases hknown with hnames | hevent
        · exact absurd hnames (hkey row hrow)
        · have hfree := (Table.get_eq_none_iff _ _).mp ((Table.insert_eq_some_iff _ _ _).mp hinsert).1
          exact absurd hevent (hfree row hrow)
  · rfl

/-- **An admission that says another thing under a known event or key is refused.** -/
theorem admitQueued_conflict (hinv : MessageInv db) {row : WorkflowEnvelopeRow}
    (hrow : row ∈ db.workflowEnvelopes.rows)
    (hother : (row.key = input.event ∧ input.replays row = false) ∨
      (input.names row ∧ input.repeats row = false)) :
    ∃ e, admitQueuedWorkflow input event_id queue_id room_id thread_root capacity db =
      (.error e, db) := by
  have hknown : input.names row ∨ row.key = input.event :=
    hother.symm.imp And.left And.left
  have hsame : (admitQueuedWorkflow input event_id queue_id room_id thread_root capacity db).2 = db :=
    admitQueued_known hrow hknown
  obtain ⟨r, db', hcall⟩ : ∃ r db', admitQueuedWorkflow input event_id queue_id room_id
    thread_root capacity db = (r, db') := ⟨_, _, rfl⟩
  rw [hcall] at hsame ⊢
  cases r with
  | error e => exact ⟨e, by rw [← hsame]⟩
  | ok reservation =>
    exfalso
    rcases Tx.commit_cases hcall with hok | ⟨-, r, -, herror⟩
    · simp only [Tx.bind_ok, Tx.pure_ok] at hok
      obtain ⟨outcome, s₁, htx, _, s₂, -, -, -⟩ := hok
      rcases admitWorkflowTx_envelopes htx with
        ⟨found, hfound, hnames, hrepeats, hevent, -⟩ | ⟨-, t, hreserved, -⟩
      · rcases hother with ⟨hkey, hreplays⟩ | ⟨hnames', hrepeats'⟩
        · -- the event leads to the row, and so does the key
          have hget : db.workflowEnvelopes.get input.event = some row :=
            (Table.get_eq_some_iff _ _ _).mpr ⟨hrow, hkey⟩
          rw [hget] at hevent
          rcases hevent with hevent | hevent
          · cases hevent
            have hyes := (input.replays_iff row).mpr ⟨hrepeats, hnames⟩
            rw [hreplays] at hyes
            cases hyes
          · cases hevent
        · have hone : found = row := hinv.envelopes found hfound row hrow
            (hnames.1.trans hnames'.1.symm) (hnames.2.trans hnames'.2.symm)
          rw [hone, hrepeats'] at hrepeats
          cases hrepeats
      · cases hreserved with
        | new _ hkey hinsert =>
          rcases hother with ⟨hevent, -⟩ | ⟨hnames, -⟩
          · have hfree := (Table.get_eq_none_iff _ _).mp
              ((Table.insert_eq_some_iff _ _ _).mp hinsert).1
            exact hfree row hrow hevent
          · exact hkey row hrow hnames
    · cases herror

omit [Externals] in
/-- The reservation of an envelope that is there, under a free event or its own. -/
theorem reserveEnvelope_again (hinv : MessageInv db) {row : WorkflowEnvelopeRow}
    (hrow : row ∈ db.workflowEnvelopes.rows) (hnames : input.names row)
    (hrepeats : input.repeats row = true)
    (hevent : ∀ row', db.workflowEnvelopes.get input.event = some row' →
      input.replays row' = true) :
    reserveEnvelope input db = .ok (some (replayedEnvelope row), db) := by
  have hone : ∀ row' ∈ db.workflowEnvelopes.rows, input.names row' → row' = row :=
    fun row' hrow' hnames' => hinv.envelopes row' hrow' row hrow
      (hnames'.1.trans hnames.1.symm) (hnames'.2.trans hnames.2.symm)
  unfold reserveEnvelope
  rw [Tx.bind_of_ok Tx.read_apply, Tx.bind_of_ok Tx.read_apply]
  cases hget : db.workflowEnvelopes.get (input.transport, input.external_event_id) with
  | some found =>
    have hreplays := hevent found hget
    obtain rfl := hone found (Table.mem_of_get hget) ((input.replays_iff found).mp hreplays).2
    dsimp only
    rw [hreplays, Tx.bind_of_ok Tx.require_true]
    rfl
  | none =>
    cases hfind : db.workflowEnvelopes.rows.find? fun r =>
        decide (r.sender_endpoint_id = input.sender_endpoint_id ∧
          r.idempotency_key = input.idempotency_key) with
    | none =>
      have hnone : ¬ (row.sender_endpoint_id = input.sender_endpoint_id ∧
          row.idempotency_key = input.idempotency_key) := by
        simpa using List.find?_eq_none.mp hfind row hrow
      exact absurd hnames hnone
    | some found =>
      have hfound : input.names found := by
        show _ ∧ _
        simpa using List.find?_some hfind
      obtain rfl := hone found (List.mem_of_find?_eq_some hfind) hfound
      dsimp only
      rw [hrepeats, Tx.bind_of_ok Tx.require_true]
      rfl

/-- **A message that is admitted again** gets the row of the queue at its place. -/
theorem admitQueued_again (hinv : MessageInv db) {row : WorkflowEnvelopeRow}
    (hrow : row ∈ db.workflowEnvelopes.rows) (hnames : input.names row)
    (hrepeats : input.repeats row = true) (hpasses : input.Passes db)
    (hevent : ∀ row', db.workflowEnvelopes.get input.event = some row' →
      input.replays row' = true)
    {q : WorkQueueRow} (hq : q ∈ db.agentWorkQueue.rows)
    (hat : q.At input.target_endpoint_id input.idempotency_key) :
    admitQueuedWorkflow input event_id queue_id room_id thread_root capacity db =
      (.ok ⟨q.queue_id, q.sequence, q.state⟩, db) := by
  have htx : admitWorkflowTx input event_id db = .ok (replayedEnvelope row, db) := by
    unfold admitWorkflowTx
    rw [Tx.bind_of_ok hpasses.ok,
      Tx.bind_of_ok (reserveEnvelope_again hinv hrow hnames hrepeats hevent)]
    rfl
  have hqueue : reserveWorkflowQueue input queue_id room_id thread_root capacity
      (replayedEnvelope row) db = .ok (⟨q.queue_id, q.sequence, q.state⟩, db) := by
    simp only [replayedEnvelope, reserveWorkflowQueue]
    rw [Tx.bind_of_ok Tx.read_apply]
    cases hfind : db.agentWorkQueue.rows.find? fun q =>
        decide (q.target_endpoint_id = input.target_endpoint_id ∧
          q.idempotency_key = input.idempotency_key) with
    | none =>
      have hnone : ¬ (q.target_endpoint_id = input.target_endpoint_id ∧
          q.idempotency_key = input.idempotency_key) := by
        simpa using List.find?_eq_none.mp hfind q hq
      exact absurd hat hnone
    | some found =>
      have hfound : found.At input.target_endpoint_id input.idempotency_key := by
        show _ ∧ _
        simpa using List.find?_some hfind
      obtain rfl := hinv.places found (List.mem_of_find?_eq_some hfind) q hq
        ⟨hfound.1.trans hat.1.symm, hfound.2.trans hat.2.symm⟩
      rw [Tx.bind_of_ok Tx.orElse_some]
      rfl
  refine Tx.commit_of_ok ?_
  rw [Tx.bind_of_ok htx, Tx.bind_of_ok hqueue]
  rfl

/-- What an accepted admission leaves behind: its envelope, and a row of the queue at its place
that is what it reports. -/
theorem admitQueued_accepted {r : QueueReservation} {db' : Db}
    (h : admitQueuedWorkflow input event_id queue_id room_id thread_root capacity db =
      (.ok r, db')) :
    (∃ row ∈ db'.workflowEnvelopes.rows, input.names row ∧ input.repeats row = true ∧
      (row.key = input.event ∨ row ∈ db.workflowEnvelopes.rows)) ∧
      ∃ q ∈ db'.agentWorkQueue.rows, q.At input.target_endpoint_id input.idempotency_key ∧
        r = ⟨q.queue_id, q.sequence, q.state⟩ := by
  rcases Tx.commit_cases h with hok | ⟨-, _, -, herror⟩
  · simp only [Tx.bind_ok, Tx.pure_ok] at hok
    obtain ⟨outcome, s₁, htx, reservation, s₂, hqueue, hr, rfl⟩ := hok
    cases hr
    have henvelopes := reserveWorkflowQueue_envelopes hqueue
    refine ⟨?_, (reserveWorkflowQueue_places hqueue).2⟩
    rw [henvelopes]
    rcases admitWorkflowTx_envelopes htx with
      ⟨found, hfound, hnames, hrepeats, -, -, rfl⟩ | ⟨-, t, hreserved, ht, -⟩
    · exact ⟨found, hfound, hnames, hrepeats, .inr hfound⟩
    · cases hreserved with
      | new _ hkey hinsert =>
        rw [ht]
        exact ⟨input.envelopeRow, (Table.mem_insert hinsert).mpr (.inr rfl), ⟨rfl, rfl⟩,
          input.envelopeRow_repeats, .inl rfl⟩
  · cases herror

end

/-! ### Over a run -/

section

variable {fs : FileSystem} {calls : List BridgeCall}

/-- An envelope is there for good. -/
theorem bridgeAt_envelope {i n : Nat} (h : i ≤ n) {row : WorkflowEnvelopeRow}
    (hrow : row ∈ (bridgeAt fs calls i).workflowEnvelopes.rows) :
    row ∈ (bridgeAt fs calls n).workflowEnvelopes.rows := by
  induction h with
  | refl => exact hrow
  | @step n hn ih =>
    cases hcall : calls[n]? with
    | none =>
      rw [bridgeAt_end hcall]
      exact ih
    | some call =>
      rw [bridgeAt_succ hcall]
      exact (bridge_envelopes fs _ call).kept ih

/-- A row of the queue keeps its identity and its place for good. -/
theorem bridgeAt_place {i n : Nat} (h : i ≤ n) {q : WorkQueueRow}
    (hq : q ∈ (bridgeAt fs calls i).agentWorkQueue.rows) :
    ∃ q' ∈ (bridgeAt fs calls n).agentWorkQueue.rows, q'.queue_id = q.queue_id ∧
      q'.At q.target_endpoint_id q.idempotency_key := by
  induction h with
  | refl => exact ⟨q, hq, rfl, rfl, rfl⟩
  | step hn ih =>
    obtain ⟨p, hp, hid, hat⟩ := ih
    obtain ⟨p', hp', hid', hmove⟩ := bridgeAt_row hp
    refine ⟨p', hp', hid'.trans hid, ?_⟩
    rcases hmove with rfl | ⟨qcall, -, hmove⟩
    · exact hat
    · exact ⟨hmove.at.1.trans hat.1, hmove.at.2.trans hat.2⟩

end

/-- **Workflow messages presented again.**  A message that was accepted at position `i` keeps its
row of the queue in every later state.  An admission that says the same, whatever its event, its
instant, its delivery and its authorization, changes nothing then; where it gets past the checks
of the sender and its event is free or its own, it reports that row.  The event of a message that
was not a repetition under another event stays its own; and an admission that says another thing
under a known event or key is refused. -/
theorem workflow_replay (fs : FileSystem) (calls : List BridgeCall) (i : Nat)
    (input : WorkflowAdmission) (event_id : EventId) (queue_id : Uuid) (room_id : String)
    (thread_root : Option String) (capacity : Int) (r : QueueReservation)
    (hcall : calls[i]? = some
      (.queue (.admitQueuedWorkflow input event_id queue_id room_id thread_root capacity)))
    (haccepted : (admitQueuedWorkflow input event_id queue_id room_id thread_root capacity
      (bridgeAt fs calls i)).1 = .ok r) (n : Nat) (hn : i < n) :
    (∃ q ∈ (bridgeAt fs calls n).agentWorkQueue.rows, q.queue_id = r.queue_id ∧
      (n = i + 1 → r = ⟨q.queue_id, q.sequence, q.state⟩) ∧
      ∀ input', input'.Says input → ∀ event_id' queue_id' room_id' thread_root' capacity',
        (admitQueuedWorkflow input' event_id' queue_id' room_id' thread_root' capacity'
            (bridgeAt fs calls n)).2 = bridgeAt fs calls n ∧
          (input'.Passes (bridgeAt fs calls n) →
            (∀ row, (bridgeAt fs calls n).workflowEnvelopes.get input'.event = some row →
              input'.replays row = true) →
            (admitQueuedWorkflow input' event_id' queue_id' room_id' thread_root' capacity'
              (bridgeAt fs calls n)).1 = .ok ⟨q.queue_id, q.sequence, q.state⟩)) ∧
    ((∀ row ∈ (bridgeAt fs calls i).workflowEnvelopes.rows, input.names row →
        row.key = input.event) →
      ∀ row, (bridgeAt fs calls n).workflowEnvelopes.get input.event = some row →
        input.replays row = true) ∧
    (∀ input', ∀ row ∈ (bridgeAt fs calls n).workflowEnvelopes.rows,
      (row.key = input'.event ∧ input'.replays row = false) ∨
        (input'.names row ∧ input'.repeats row = false) →
      ∀ event_id' queue_id' room_id' thread_root' capacity', ∃ e,
        admitQueuedWorkflow input' event_id' queue_id' room_id' thread_root' capacity'
          (bridgeAt fs calls n) = (.error e, bridgeAt fs calls n)) := by
  have hnext : bridgeAt fs calls (i + 1) = (admitQueuedWorkflow input event_id queue_id room_id
      thread_root capacity (bridgeAt fs calls i)).2 := bridgeAt_succ hcall
  obtain ⟨⟨row, hrow, hnames, hrepeats, horigin⟩, q₀, hq₀, hat₀, hr⟩ :=
    admitQueued_accepted (r := r) (Prod.ext haccepted hnext.symm)
  have hinv := bridgeAt_messageInv fs calls n
  have hrow' := bridgeAt_envelope (Nat.succ_le_of_lt hn) hrow
  obtain ⟨q, hq, hid, hat⟩ := bridgeAt_place (Nat.succ_le_of_lt hn) hq₀
  refine ⟨⟨q, hq, ?_, ?_, ?_⟩, ?_, ?_⟩
  · rw [hid, hr]
  · intro heq
    subst heq
    have hsame : q = q₀ := Table.eq_of_key_eq _ hq hq₀ hid
    rw [hsame]
    exact hr
  · intro input' hsaid event_id' queue_id' room_id' thread_root' capacity'
    refine ⟨admitQueued_known hrow' (.inl (hsaid.names hnames)), ?_⟩
    intro hpasses hevent
    have hplace : q.At input'.target_endpoint_id input'.idempotency_key :=
      ⟨(hat.1.trans hat₀.1).trans hsaid.target.symm, (hat.2.trans hat₀.2).trans hsaid.key.symm⟩
    rw [admitQueued_again hinv hrow' (hsaid.names hnames) ((hsaid.repeats row).trans hrepeats)
      hpasses hevent hq hplace]
  · intro hown found hfound
    have hkey : row.key = input.event := by
      rcases horigin with hkey | hold
      · exact hkey
      · exact hown row hold hnames
    have hget : (bridgeAt fs calls n).workflowEnvelopes.get input.event = some row :=
      (Table.get_eq_some_iff _ _ _).mpr ⟨hrow', hkey⟩
    rw [hget] at hfound
    cases hfound
    exact (input.replays_iff row).mpr ⟨hrepeats, hnames⟩
  · intro input' found hfound hother event_id' queue_id' room_id' thread_root' capacity'
    exact admitQueued_conflict hinv hfound hother

end

/-! ### A message that is claimed in between -/

/-- The admission of `sendRun`, presented at a position of it. -/
def presentedAt (input : WorkflowAdmission) (n : Nat) : Except ReliabilityError QueueReservation :=
  (admitQueuedWorkflow input ⟨4⟩ 7 "workflow" (some "c") 1 (bridgeAt noFiles sendRun n)).1

/-- The reservation is the row as it is by then, and neither the instant nor the delivery is
compared. -/
theorem replay_reads_row :
    presentedAt sendInput 0 = .ok ⟨7, 1, .queued⟩ ∧
      presentedAt sendInput 3 = .ok ⟨7, 1, .claimed⟩ ∧
      presentedAt sendInput 3 ≠ presentedAt sendInput 0 ∧
      presentedAt { sendInput with now := "1970-01-01T00:00:09+00:00", delivery_id := ⟨10⟩ } 3 =
        .ok ⟨7, 1, .claimed⟩ := by
  have hfirst : presentedAt sendInput 0 = .ok ⟨7, 1, .queued⟩ := by decide
  have hagain : presentedAt sendInput 3 = .ok ⟨7, 1, .claimed⟩ := by decide
  refine ⟨hfirst, hagain, ?_, by decide⟩
  rw [hfirst, hagain]
  decide

/-- The message of `sendRun`, at the end of its run. -/
theorem workflow_replay_sendRun :
    ∃ q ∈ (bridgeAt noFiles sendRun 7).agentWorkQueue.rows, q.queue_id = 7 ∧
      admitQueuedWorkflow sendInput ⟨11⟩ 12 "workflow" none 1 (bridgeAt noFiles sendRun 7) =
        (.ok ⟨q.queue_id, q.sequence, q.state⟩, bridgeAt noFiles sendRun 7) := by
  have haccepted : (admitQueuedWorkflow sendInput ⟨4⟩ 7 "workflow" (some "c") 1
      (bridgeAt noFiles sendRun 0)).1 = .ok ⟨7, 1, .queued⟩ := by decide
  obtain ⟨⟨q, hq, hid, -, hagain⟩, hown, -⟩ := workflow_replay noFiles sendRun 0 sendInput ⟨4⟩ 7
    "workflow" (some "c") 1 ⟨7, 1, .queued⟩ rfl haccepted 7 (by decide)
  obtain ⟨hsame, hok⟩ := hagain sendInput (.refl _) ⟨11⟩ 12 "workflow" none 1
  have hfirst : ∀ row ∈ (bridgeAt noFiles sendRun 0).workflowEnvelopes.rows,
      sendInput.names row → row.key = sendInput.event := by
    intro row hrow
    cases hrow
  exact ⟨q, hq, hid, Prod.ext (hok (.inl rfl) (hown hfirst)) hsame⟩

end GuiguBridge
