import GuiguBridge.Acp.OutputFiles
import GuiguBridge.Storage.OwnerEvidence

/-!
# The owner of a session

When an agent accepts a delivery, the bridge writes down which session took it and which runtime
owns that session (`acknowledge_delivery_with_binding`, `src/src/storage/reliability.rs`, called
by `deliver_inner`, `src/src/acp/dispatcher.rs`).

* `SessionStore` — deliveries, their dispositions, the bindings, and the evidence of the runtimes
  from which a binding takes its generation;
* `SessionOwnerBinding.clashes` — the two uniqueness constraints;
* `acknowledge_cases` — what the call does, **in three cases**;
* `SessionInv` — a binding belongs to an acknowledged delivery, and its generation is `1`, since
  every runtime begins with that generation and none has another;
* `acknowledged_unless_bound` — **which freshly prepared deliveries can be acknowledged**.
-/

namespace GuiguBridge

open Relational

/-! ### The rows -/

inductive BindingState where
  | bound | unknown | reaped
  deriving DecidableEq

structure SessionOwnerBinding where
  binding_id : String
  task_id : TaskId
  delivery_id : DeliveryId
  attempt : Nat
  session_id_digest : String
  endpoint_id : EndpointId
  conversation_id : ConversationId
  cwd_digest : String
  backend_id : String
  runtime_instance : String
  runtime_generation : Nat
  resource_key : String
  owner_fence : Int
  child_pid : Int
  child_starttime : Int
  executable_fingerprint : String
  boot_id : String
  domain_device : Int
  domain_inode : Int
  binding_revision : Int
  state : BindingState
  created_at : String
  updated_at : String
  deriving DecidableEq

namespace SessionOwnerBinding

/-- `SessionOwnerBinding::digest`. -/
def digest [HashCrates] (value : String) : String := HashCrates.sha256 (utf8 value)

/-- `validate_for_transaction`; identities and states are well formed by their types. -/
def validateForTransaction (b : SessionOwnerBinding) : Bool :=
  !(b.binding_id.isEmpty || decide (b.attempt < 1) ||
    decide (b.session_id_digest.utf8ByteSize ≠ 64) || decide (b.cwd_digest.utf8ByteSize ≠ 64) ||
    b.backend_id.isEmpty || b.runtime_instance.isEmpty || decide (b.runtime_generation < 1) ||
    b.resource_key.isEmpty || decide (b.owner_fence < 1) || decide (b.child_pid < 1) ||
    b.executable_fingerprint.isEmpty || b.boot_id.isEmpty || decide (b.domain_device < 0) ||
    decide (b.domain_inode < 0) || decide (b.binding_revision < 1))

/-- The checks of the table. -/
def check (b : SessionOwnerBinding) : Bool :=
  decide (1 ≤ b.attempt ∧ sqlLength b.session_id_digest = 64 ∧ sqlLength b.cwd_digest = 64 ∧
    1 ≤ b.runtime_generation ∧ 1 ≤ b.owner_fence ∧ 0 < b.child_pid ∧ 0 ≤ b.child_starttime ∧
    0 ≤ b.domain_device ∧ 0 ≤ b.domain_inode ∧ 1 ≤ b.binding_revision)

/-- `UNIQUE (task_id, delivery_id, attempt)`, and
`UNIQUE (session_id_digest, endpoint_id, runtime_generation)`. -/
def clashes (b r : SessionOwnerBinding) : Bool :=
  decide ((r.task_id = b.task_id ∧ r.delivery_id = b.delivery_id ∧ r.attempt = b.attempt) ∨
    (r.session_id_digest = b.session_id_digest ∧ r.endpoint_id = b.endpoint_id ∧
      r.runtime_generation = b.runtime_generation))

end SessionOwnerBinding

/-- The tables that the acknowledgement of a delivery reads and writes; of three of them only the
keys matter, which the foreign keys of a binding name. -/
structure SessionStore where
  tasks : List TaskId
  agents : List EndpointId
  conversations : List ConversationId
  deliveries : Table DeliveryRow.delivery_id
  deliveryDispositions : Table DispositionRow.delivery_id
  sessionOwnerBindings : Table SessionOwnerBinding.binding_id
  owners : OwnerDb

/-- What `deliver_inner` has at hand when the agent has accepted a delivery. -/
structure AcceptedDelivery where
  binding_id : String
  task_id : TaskId
  delivery_id : DeliveryId
  attempt : Nat
  session_id : String
  endpoint : EndpointId
  conversation : ConversationId
  cwd : String
  backend_id : String
  runtime_owner : String
  resource_key : String
  owner_fence : Int
  child_pid : Int
  child_starttime : Int
  executable_fingerprint : String
  boot_id : String
  domain_device : Int
  domain_inode : Int
  now : String
  deriving DecidableEq

/-- The binding of `deliver_inner`. -/
def AcceptedDelivery.binding [HashCrates] (r : AcceptedDelivery) (generation : Nat) :
    SessionOwnerBinding :=
  { binding_id := r.binding_id, task_id := r.task_id, delivery_id := r.delivery_id,
    attempt := r.attempt, session_id_digest := SessionOwnerBinding.digest r.session_id,
    endpoint_id := r.endpoint, conversation_id := r.conversation,
    cwd_digest := SessionOwnerBinding.digest r.cwd, backend_id := r.backend_id,
    runtime_instance := r.runtime_owner, runtime_generation := generation,
    resource_key := r.resource_key, owner_fence := r.owner_fence, child_pid := r.child_pid,
    child_starttime := r.child_starttime, executable_fingerprint := r.executable_fingerprint,
    boot_id := r.boot_id, domain_device := r.domain_device, domain_inode := r.domain_inode,
    binding_revision := 1, state := .bound, created_at := r.now, updated_at := r.now }

/-- `runtime_generation`. -/
def OwnerDb.runtimeGeneration (db : OwnerDb) (instance_token : String) : Option Nat :=
  (db.runtimeOwnerEvidence.rows.find? fun r =>
    decide (r.instance_token = instance_token) && r.is_current).map (·.runtime_generation)

namespace SessionStore

def empty : SessionStore :=
  ⟨[], [], [], Table.empty, Table.empty, Table.empty, OwnerDb.empty⟩

abbrev deliveriesL : Lens SessionStore (Table DeliveryRow.delivery_id) :=
  ⟨deliveries, fun t s => { s with deliveries := t }⟩

abbrev deliveryDispositionsL : Lens SessionStore (Table DispositionRow.delivery_id) :=
  ⟨deliveryDispositions, fun t s => { s with deliveryDispositions := t }⟩

abbrev sessionOwnerBindingsL : Lens SessionStore (Table SessionOwnerBinding.binding_id) :=
  ⟨sessionOwnerBindings, fun t s => { s with sessionOwnerBindings := t }⟩

/-! ### The calls -/

/-- `prepare_delivery`. -/
def prepareDelivery (delivery_id : DeliveryId) (task_id : TaskId) (attempt : Nat)
    (target_endpoint : EndpointId) (now : String) (s : SessionStore) :
    Except ReliabilityError Unit × SessionStore :=
  Tx.commit id (do
    let s ← Tx.read fun s => s
    Tx.require (decide (1 ≤ attempt ∧ task_id ∈ s.tasks ∧ target_endpoint ∈ s.agents))
      (.error (.sql .constraint))
    Tx.require (!s.deliveries.rows.any fun d =>
      decide (d.task_id = task_id ∧ d.attempt = attempt)) (.error (.sql .constraint))
    Tx.insert deliveriesL
      { delivery_id := delivery_id, task_id := task_id, attempt := attempt,
        target_endpoint_id := target_endpoint, dispatched_at := now, acknowledged_at := none }
      (.error (.sql .constraint))
    Tx.require (!s.deliveryDispositions.rows.any fun d =>
      decide (d.task_id = task_id ∧ d.attempt = attempt)) (.error (.sql .constraint))
    Tx.insert deliveryDispositionsL
      { delivery_id := delivery_id, task_id := task_id, attempt := attempt, state := .prepared,
        session_id := none, child_fingerprint := none, reason_code := none }
      (.error (.sql .constraint))
    pure (.ok ())) s

/-- `WHERE delivery_id=? AND acknowledged_at IS NULL`. -/
def unacknowledged (delivery_id : DeliveryId) (d : DeliveryRow) : Bool :=
  decide (d.delivery_id = delivery_id ∧ d.acknowledged_at = none)

/-- `WHERE delivery_id=? AND state='prepared'`. -/
def isPrepared (delivery_id : DeliveryId) (d : DispositionRow) : Bool :=
  decide (d.delivery_id = delivery_id ∧ d.state = .prepared)

/-- The two statements of an acknowledgement; returns the two row counts. -/
def acknowledgeRows (delivery_id : DeliveryId) (session_id now : String) :
    Tx SessionStore (Except ReliabilityError Bool) (Nat × Nat) := do
  let delivery ← Tx.updateChecked deliveriesL (unacknowledged delivery_id)
    (fun d => { d with acknowledged_at := some now })
    (fun d => decide (d.dispatched_at ≤ now)) (.error (.sql .constraint))
  let disposition ← Tx.update deliveryDispositionsL (isPrepared delivery_id)
    (fun d => { d with state := .acknowledged, session_id := some session_id })
  pure (delivery, disposition)

/-- Whether the delivery was acknowledged through the session. -/
def isAcknowledged (s : SessionStore) (delivery_id : DeliveryId) (session_id : String) : Bool :=
  s.deliveryDispositions.rows.any fun d =>
    decide (d.delivery_id = delivery_id ∧ d.state = .acknowledged ∧
      d.session_id = some session_id)

/-- `acknowledge_delivery`. -/
def acknowledgeDelivery (delivery_id : DeliveryId) (session_id now : String) (s : SessionStore) :
    Except ReliabilityError Bool × SessionStore :=
  Tx.commit id (do
    let (delivery, disposition) ← acknowledgeRows delivery_id session_id now
    Tx.require (delivery = disposition) (.error .malformed)
    if delivery = 0 then do
      let acknowledged ← Tx.read fun s => s.isAcknowledged delivery_id session_id
      Tx.abort (.ok acknowledged)
    else pure (.ok true)) s

/-- What a binding refers to is there. -/
def refersTo (s : SessionStore) (b : SessionOwnerBinding) : Bool :=
  decide (b.task_id ∈ s.tasks) && (s.deliveries.get b.delivery_id).isSome &&
    decide (b.endpoint_id ∈ s.agents) && decide (b.conversation_id ∈ s.conversations) &&
    (s.owners.runtimeInstances.get b.runtime_instance).isSome

/-- `INSERT INTO session_owner_bindings`. -/
def insertBinding (b : SessionOwnerBinding) :
    Tx SessionStore (Except ReliabilityError Bool) Unit := do
  let s ← Tx.read fun s => s
  Tx.require (b.check && s.refersTo b) (.error (.sql .constraint))
  Tx.require (!s.sessionOwnerBindings.rows.any fun r => b.clashes r) (.error (.sql .constraint))
  Tx.insert sessionOwnerBindingsL b (.error (.sql .constraint))

section

variable [HashCrates]

/-- `acknowledge_delivery_with_binding`. -/
def acknowledgeDeliveryWithBinding (delivery_id : DeliveryId) (session_id now : String)
    (binding : SessionOwnerBinding) (s : SessionStore) :
    Except ReliabilityError Bool × SessionStore :=
  if binding.delivery_id ≠ delivery_id ∨
      binding.session_id_digest ≠ SessionOwnerBinding.digest session_id then
    (.error .malformed, s)
  else
    Tx.commit id (do
      let (delivery, disposition) ← acknowledgeRows delivery_id session_id now
      Tx.require (delivery = disposition) (.error .malformed)
      if delivery = 0 then do
        let acknowledged ← Tx.read fun s => s.isAcknowledged delivery_id session_id
        Tx.abort (.ok acknowledged)
      else do
        Tx.require binding.validateForTransaction (.error .malformed)
        insertBinding binding
        pure (.ok true)) s

/-- `deliver_inner`, from the accepted delivery to its acknowledgement. -/
def deliverInner (r : AcceptedDelivery) (s : SessionStore) :
    Except ReliabilityError Bool × SessionStore :=
  match s.owners.runtimeGeneration r.runtime_owner with
  | none => (.error .malformed, s)
  | some generation =>
    acknowledgeDeliveryWithBinding r.delivery_id r.session_id r.now (r.binding generation) s

end

/-- A continuation that goes to recovery leaves the outcome of its delivery unknown
(`finish_with_generation`). -/
def recoverDelivery (delivery_id : DeliveryId) (task_id : TaskId) (s : SessionStore) :
    SessionStore :=
  { s with
    deliveryDispositions := s.deliveryDispositions.updateWhere
      (fun d => decide (d.delivery_id = delivery_id ∧ d.task_id = task_id ∧
        (d.state = .prepared ∨ d.state = .acknowledged)))
      (fun d => { d with state := .outcomeUnknown, reason_code := some "recovery_needed" })
      DispositionRow.recovery_key }

/-- The closure of a task settles its delivery (`terminal_closure`). -/
def closeDelivery (delivery_id : DeliveryId) (task_id : TaskId) (now : String)
    (s : SessionStore) : Except ReliabilityError Unit × SessionStore :=
  Tx.commit id (do
    let _ ← Tx.updateChecked deliveriesL
      (fun d => decide (d.delivery_id = delivery_id ∧ d.task_id = task_id ∧
        d.acknowledged_at = none))
      (fun d => { d with acknowledged_at := some now })
      (fun d => decide (d.dispatched_at ≤ now)) (.error (.sql .constraint))
    let _ ← Tx.update deliveryDispositionsL
      (fun d => decide (d.delivery_id = delivery_id ∧ d.task_id = task_id ∧
        (d.state = .prepared ∨ d.state = .acknowledged ∨ d.state = .outcomeUnknown)))
      (fun d => { d with state := .terminal, reason_code := none }) DispositionRow.terminal_key
    pure (.ok ())) s

/-! ### What an acknowledgement does -/

/-- The delivery has been acknowledged. -/
def Acked (s : SessionStore) (d : DeliveryId) : Prop :=
  ∃ row, s.deliveries.get d = some row ∧ row.acknowledged_at ≠ none

/-- Both rows of a prepared delivery are written. -/
structure AckRows (d : DeliveryId) (session_id now : String) (s s' : SessionStore) : Prop where
  delivery : ∃ row, s.deliveries.get d = some row ∧ row.acknowledged_at = none ∧
    row.dispatched_at ≤ now ∧
    s.deliveries.Puts d { row with acknowledged_at := some now } s'.deliveries
  disposition : ∃ row, s.deliveryDispositions.get d = some row ∧ row.state = .prepared ∧
    s.deliveryDispositions.Puts d { row with state := .acknowledged, session_id := some session_id }
      s'.deliveryDispositions
  frame : s' = { s with
    deliveries := s'.deliveries, deliveryDispositions := s'.deliveryDispositions }

variable {s s' : SessionStore} {d : DeliveryId} {session_id now : String}

theorem unacknowledged_key (d : DeliveryId) (r : DeliveryRow) (h : unacknowledged d r = true) :
    r.delivery_id = d := (of_decide_eq_true h).1

theorem isPrepared_key (d : DeliveryId) (r : DispositionRow) (h : isPrepared d r = true) :
    r.delivery_id = d := (of_decide_eq_true h).1

theorem acknowledgeRows_cases {n : Nat × Nat}
    (h : acknowledgeRows d session_id now s = .ok (n, s')) (heq : n.1 = n.2) :
    (n.1 = 0 ∧ s' = s) ∨ (n.1 ≠ 0 ∧ AckRows d session_id now s s') := by
  unfold acknowledgeRows at h
  obtain ⟨delivery, s₁, hdelivery, h⟩ := Tx.bind_ok.1 h
  obtain ⟨hcheck, hcount, rfl⟩ := Tx.updateChecked_ok.1 hdelivery
  obtain ⟨disposition, s₂, hdisposition, h⟩ := Tx.bind_ok.1 h
  obtain ⟨hcount', rfl⟩ := Tx.update_ok.1 hdisposition
  obtain ⟨rfl, rfl⟩ := Tx.pure_ok.1 h
  change delivery = disposition at heq
  subst heq
  by_cases hzero : delivery = 0
  · refine Or.inl ⟨hzero, ?_⟩
    rw [hzero] at hcount hcount'
    have hfirst := Table.updateWhere_of_affected_zero
      (f := fun d => { d with acknowledged_at := some now }) (fun _ => rfl) hcount
    have hsecond := Table.updateWhere_of_affected_zero
      (f := fun d => { d with state := .acknowledged, session_id := some session_id })
      (fun _ => rfl) hcount'
    show { s with deliveries := _, deliveryDispositions := _ } = s
    rw [hfirst, hsecond]
  · refine Or.inr ⟨hzero, ?_, ?_, rfl⟩
    · have hle := Table.affected_le_one (t := s.deliveries) (unacknowledged_key d)
      have hone : s.deliveries.affected (unacknowledged d) = 1 := by
        change s.deliveries.affected _ = delivery at hcount
        omega
      obtain ⟨row, hget, hp⟩ := (Table.affected_eq_one_iff (unacknowledged_key d)).mp hone
      have hrow := List.all_eq_true.mp hcheck row (Table.mem_of_get hget)
      rw [hp] at hrow
      have hputs : s.deliveries.Puts d { row with acknowledged_at := some now }
          (s.deliveries.updateWhere (unacknowledged d)
            (fun r => { r with acknowledged_at := some now })) :=
        Table.puts_updateWhere (unacknowledged_key d) hget hp
      exact ⟨row, hget, (of_decide_eq_true hp).2, of_decide_eq_true hrow, hputs⟩
    · have hle := Table.affected_le_one (t := s.deliveryDispositions) (isPrepared_key d)
      have hone : s.deliveryDispositions.affected (isPrepared d) = 1 := by
        change s.deliveryDispositions.affected _ = delivery at hcount'
        omega
      obtain ⟨row, hget, hp⟩ := (Table.affected_eq_one_iff (isPrepared_key d)).mp hone
      have hputs : s.deliveryDispositions.Puts d
          { row with state := .acknowledged, session_id := some session_id }
          (s.deliveryDispositions.updateWhere (isPrepared d)
            (fun r => { r with state := .acknowledged, session_id := some session_id })) :=
        Table.puts_updateWhere (isPrepared_key d) hget hp
      exact ⟨row, hget, (of_decide_eq_true hp).2, hputs⟩

/-- A prepared delivery: neither row has been written since. -/
structure Prepared (s : SessionStore) (d : DeliveryId) (now : String) : Prop where
  delivery : ∃ row, s.deliveries.get d = some row ∧ row.acknowledged_at = none ∧
    row.dispatched_at ≤ now
  disposition : ∃ row, s.deliveryDispositions.get d = some row ∧ row.state = .prepared

/-- The row under a key decides a predicate that fixes the key. -/
theorem unacknowledged_iff {r : DeliveryRow} {row : DeliveryRow}
    (hget : s.deliveries.get d = some row) (hr : r ∈ s.deliveries.rows) :
    unacknowledged d r = true ↔ r = row ∧ row.acknowledged_at = none := by
  unfold unacknowledged
  rw [decide_eq_true_eq]
  have hself := Table.get_of_mem hr
  constructor
  · intro hp
    rw [hp.1, hget] at hself
    cases hself
    exact ⟨rfl, hp.2⟩
  · intro hp
    rw [hp.1]
    exact ⟨Table.key_of_get hget, hp.2⟩

theorem ackCheck {row : DeliveryRow} (hget : s.deliveries.get d = some row)
    (h : row.acknowledged_at = none → row.dispatched_at ≤ now) :
    (s.deliveries.rows.all fun r => !unacknowledged d r || decide (r.dispatched_at ≤ now)) = true := by
  rw [List.all_eq_true]
  intro r hr
  by_cases hp : unacknowledged d r = true
  · obtain ⟨rfl, hnone⟩ := (unacknowledged_iff hget hr).mp hp
    rw [hp, decide_eq_true (h hnone)]
    rfl
  · rw [Bool.not_eq_true] at hp
    rw [hp]
    rfl

/-- The statements from the counts they will report. -/
theorem acknowledgeRows_run {row : DeliveryRow} {n m : Nat}
    (hget : s.deliveries.get d = some row)
    (hclock : row.acknowledged_at = none → row.dispatched_at ≤ now)
    (hn : s.deliveries.affected (unacknowledged d) = n)
    (hm : s.deliveryDispositions.affected (isPrepared d) = m) :
    acknowledgeRows d session_id now s = .ok ((n, m),
      { s with
        deliveries := s.deliveries.updateWhere (unacknowledged d)
          (fun r => { r with acknowledged_at := some now })
        deliveryDispositions := s.deliveryDispositions.updateWhere (isPrepared d)
          (fun r => { r with state := .acknowledged, session_id := some session_id }) }) := by
  unfold acknowledgeRows
  refine Tx.bind_ok.2 ⟨n, _, Tx.updateChecked_ok.2 ⟨ackCheck hget hclock, hn, rfl⟩, ?_⟩
  exact Tx.bind_ok.2 ⟨m, _, Tx.update_ok.2 ⟨hm, rfl⟩, rfl⟩

theorem acknowledgeRows_prepared (h : Prepared s d now) (session_id : String) :
    ∃ s', acknowledgeRows d session_id now s = .ok ((1, 1), s') := by
  obtain ⟨row, hget, hnone, hle⟩ := h.delivery
  obtain ⟨row', hget', hstate⟩ := h.disposition
  have hone := (Table.affected_eq_one_iff (unacknowledged_key d)).mpr
    ⟨row, hget, decide_eq_true ⟨Table.key_of_get hget, hnone⟩⟩
  have hone' := (Table.affected_eq_one_iff (isPrepared_key d)).mpr
    ⟨row', hget', decide_eq_true ⟨Table.key_of_get hget', hstate⟩⟩
  exact ⟨_, acknowledgeRows_run hget (fun _ => hle) hone hone'⟩

/-- An acknowledged delivery is not acknowledged again. -/
theorem acknowledgeRows_late (h : Acked s d)
    (hstate : ∃ row, s.deliveryDispositions.get d = some row ∧ row.state ≠ .prepared)
    (session_id now : String) : acknowledgeRows d session_id now s = .ok ((0, 0), s) := by
  obtain ⟨row, hget, hsome⟩ := h
  obtain ⟨row', hget', hnot⟩ := hstate
  have hzero : s.deliveries.affected (unacknowledged d) = 0 := by
    rw [Table.affected_eq_zero_iff]
    intro r hr
    rw [← Bool.not_eq_true, unacknowledged_iff hget hr]
    exact fun hp => hsome hp.2
  have hzero' : s.deliveryDispositions.affected (isPrepared d) = 0 := by
    rw [Table.affected_eq_zero_iff]
    intro r hr
    refine decide_eq_false fun hp => hnot ?_
    have hself := Table.get_of_mem hr
    rw [hp.1, hget'] at hself
    cases hself
    exact hp.2
  rw [acknowledgeRows_run hget (fun hnone => absurd hnone hsome) hzero hzero',
    Table.updateWhere_of_affected_zero _ hzero, Table.updateWhere_of_affected_zero _ hzero']

/-- The insertion of a binding. -/
structure BindingInserted (b : SessionOwnerBinding) (s s' : SessionStore) : Prop where
  refers : (b.check && s.refersTo b) = true
  free : ∀ r ∈ s.sessionOwnerBindings.rows, b.clashes r = false
  inserted : s.sessionOwnerBindings.insert b = some s'.sessionOwnerBindings
  frame : s' = { s with sessionOwnerBindings := s'.sessionOwnerBindings }

theorem insertBinding_ok {b : SessionOwnerBinding} {u : Unit} :
    insertBinding b s = .ok (u, s') ↔ BindingInserted b s s' := by
  unfold insertBinding
  simp only [Tx.bind_ok, Tx.read_ok, Tx.require_ok, Tx.insert_ok, Bool.not_eq_true',
    List.any_eq_false, Bool.not_eq_true]
  constructor
  · rintro ⟨_, _, ⟨rfl, rfl⟩, _, _, ⟨hrefers, rfl⟩, _, _, ⟨hfree, rfl⟩, t, ht, rfl⟩
    exact ⟨hrefers, hfree, ht, rfl⟩
  · intro h
    exact ⟨_, _, ⟨rfl, rfl⟩, (), _, ⟨h.refers, rfl⟩, (), _, ⟨h.free, rfl⟩,
      s'.sessionOwnerBindings, h.inserted, h.frame.symm⟩

/-- The answer of a body that failed. -/
def Failed (r : Except ReliabilityError Bool) : Prop := r ≠ .ok true

theorem aborts_acknowledgeRows : Tx.Aborts Failed (acknowledgeRows d session_id now) := by
  unfold acknowledgeRows
  refine Tx.aborts_bind (Tx.aborts_updateChecked nofun) fun _ => ?_
  exact Tx.aborts_bind (Tx.aborts_update _ _ _ _) fun _ => Tx.aborts_pure _

theorem aborts_insertBinding (b : SessionOwnerBinding) : Tx.Aborts Failed (insertBinding b) := by
  unfold insertBinding
  refine Tx.aborts_bind (Tx.aborts_read _) fun _ => ?_
  refine Tx.aborts_bind (Tx.aborts_require nofun) fun _ => ?_
  exact Tx.aborts_bind (Tx.aborts_require nofun) fun _ => Tx.aborts_insert nofun

/-- A body that counts the rows it wrote: it goes on when it wrote them, and otherwise says
whether the session has the delivery. -/
theorem acknowledge_tail {m : Tx SessionStore (Except ReliabilityError Bool)
      (Except ReliabilityError Bool)} {r : Except ReliabilityError Bool}
    (hm : Tx.Aborts Failed m)
    (h : Tx.commit id (do
      let (delivery, disposition) ← acknowledgeRows d session_id now
      Tx.require (delivery = disposition) (.error .malformed)
      if delivery = 0 then do
        let acknowledged ← Tx.read fun s => s.isAcknowledged d session_id
        Tx.abort (.ok acknowledged)
      else m) s = (r, s')) :
    (∃ s₁, AckRows d session_id now s s₁ ∧ m s₁ = .ok (r, s')) ∨
    (s' = s ∧ (r = .ok true → s.isAcknowledged d session_id = true)) := by
  rcases Tx.commit_cases h with hok | ⟨hsame, e, herror, he⟩
  · obtain ⟨n, s₁, hrows, hok⟩ := Tx.bind_ok.1 hok
    obtain ⟨_, s₂, hrequire, hok⟩ := Tx.bind_ok.1 hok
    obtain ⟨heq, rfl⟩ := Tx.require_ok.1 hrequire
    rcases Tx.ite_ok.1 hok with ⟨-, hok⟩ | ⟨hne, hok⟩
    · obtain ⟨_, _, -, hok⟩ := Tx.bind_ok.1 hok
      exact (Tx.abort_ok.1 hok).elim
    · have hcases := acknowledgeRows_cases hrows (of_decide_eq_true heq)
      have hack := hcases.resolve_left fun hzero => hne hzero.1
      exact Or.inl ⟨s₁, hack.2, hok⟩
  · refine Or.inr ⟨hsame, fun htrue => ?_⟩
    obtain rfl : e = .ok true := he.symm.trans htrue
    cases hrows : acknowledgeRows d session_id now s with
    | error e =>
      rw [Tx.bind_of_error hrows] at herror
      cases herror
      exact absurd rfl (aborts_acknowledgeRows s _ hrows)
    | ok result =>
      obtain ⟨n, s₁⟩ := result
      rw [Tx.bind_of_ok hrows] at herror
      by_cases heq : n.1 = n.2
      · have hrequire : (Tx.require (decide (n.1 = n.2)) (.error .malformed) :
            Tx SessionStore (Except ReliabilityError Bool) Unit) s₁ = .ok ((), s₁) := by
          rw [decide_eq_true heq]
          rfl
        dsimp only at herror
        rw [Tx.bind_of_ok hrequire] at herror
        by_cases hzero : n.1 = 0
        · rw [if_pos hzero, Tx.bind_of_ok Tx.read_apply] at herror
          obtain ⟨-, rfl⟩ := (acknowledgeRows_cases hrows heq).resolve_right fun h => h.1 hzero
          have hanswer : Except.ok (s₁.isAcknowledged d session_id) = Except.ok true :=
            Except.error.inj herror
          exact Except.ok.inj hanswer
        · rw [if_neg hzero] at herror
          exact absurd rfl (hm s₁ _ herror)
      · have hrequire : (Tx.require (decide (n.1 = n.2)) (.error .malformed) :
            Tx SessionStore (Except ReliabilityError Bool) Unit) s₁ = .error (.error .malformed) := by
          rw [decide_eq_false heq]
          rfl
        dsimp only at herror
        rw [Tx.bind_of_error hrequire] at herror
        cases herror

theorem acknowledgeDelivery_cases {r : Except ReliabilityError Bool}
    (h : acknowledgeDelivery d session_id now s = (r, s')) :
    AckRows d session_id now s s' ∨ s' = s := by
  rcases acknowledge_tail (Tx.aborts_pure _) h with ⟨s₁, hrows, hok⟩ | ⟨hsame, -⟩
  · obtain ⟨-, rfl⟩ := Tx.pure_ok.1 hok
    exact Or.inl hrows
  · exact Or.inr hsame

section

variable [HashCrates]

/-- **What the call does**: it writes all three rows, or it leaves the store as it was and
answers `true` only to the session that the delivery already has. -/
theorem acknowledgeWithBinding_cases {b : SessionOwnerBinding} {r : Except ReliabilityError Bool}
    (h : acknowledgeDeliveryWithBinding d session_id now b s = (r, s')) :
    (r = .ok true ∧ b.delivery_id = d ∧
      b.session_id_digest = SessionOwnerBinding.digest session_id ∧
      ∃ s₁, AckRows d session_id now s s₁ ∧ BindingInserted b s₁ s') ∨
    (s' = s ∧ (r = .ok true → s.isAcknowledged d session_id = true)) := by
  unfold acknowledgeDeliveryWithBinding at h
  split at h
  · cases h
    exact Or.inr ⟨rfl, nofun⟩
  · rename_i hbinding
    rw [not_or, not_not, not_not] at hbinding
    refine (acknowledge_tail ?_ h).imp_left fun hwrote => ?_
    · refine Tx.aborts_bind (Tx.aborts_require nofun) fun _ => ?_
      exact Tx.aborts_bind (aborts_insertBinding b) fun _ => Tx.aborts_pure _
    · obtain ⟨s₁, hrows, hok⟩ := hwrote
      obtain ⟨_, s₂, hrequire, hok⟩ := Tx.bind_ok.1 hok
      obtain ⟨-, rfl⟩ := Tx.require_ok.1 hrequire
      obtain ⟨_, s₂, hinsert, hok⟩ := Tx.bind_ok.1 hok
      obtain ⟨rfl, rfl⟩ := Tx.pure_ok.1 hok
      exact ⟨rfl, hbinding.1, hbinding.2, s₁, hrows, insertBinding_ok.1 hinsert⟩

/-- What the call asks of a binding, apart from the two uniqueness constraints. -/
structure ValidBinding (s : SessionStore) (d : DeliveryId) (session_id : String)
    (b : SessionOwnerBinding) : Prop where
  delivery_id : b.delivery_id = d
  digest : b.session_id_digest = SessionOwnerBinding.digest session_id
  valid : b.validateForTransaction = true
  refers : (b.check && s.refersTo b) = true
  binding_id : s.sessionOwnerBindings.get b.binding_id = none

omit [HashCrates] in
theorem AckRows.refersTo (h : AckRows d session_id now s s') (b : SessionOwnerBinding)
    (hb : s.refersTo b = true) : s'.refersTo b = true := by
  obtain ⟨row, hget, -, -, hputs⟩ := h.delivery
  have hframe := h.frame
  unfold SessionStore.refersTo at hb ⊢
  have hdeliveries : (s.deliveries.get b.delivery_id).isSome = true →
      (s'.deliveries.get b.delivery_id).isSome = true := by
    intro hsome
    rw [hputs b.delivery_id]
    split
    · rfl
    · exact hsome
  rw [hframe]
  simp only [Bool.and_eq_true] at hb ⊢
  exact ⟨⟨⟨⟨hb.1.1.1.1, hdeliveries hb.1.1.1.2⟩, hb.1.1.2⟩, hb.1.2⟩, hb.2⟩

/-- The call succeeds for a prepared delivery when no binding clashes. -/
theorem acknowledgeWithBinding_free {b : SessionOwnerBinding} (hprepared : Prepared s d now)
    (hvalid : ValidBinding s d session_id b)
    (hfree : ∀ r ∈ s.sessionOwnerBindings.rows, b.clashes r = false) :
    (acknowledgeDeliveryWithBinding d session_id now b s).1 = .ok true := by
  obtain ⟨s₁, hrows⟩ := acknowledgeRows_prepared hprepared session_id
  obtain ⟨-, hack⟩ := (acknowledgeRows_cases hrows rfl).resolve_left
    fun hzero => Nat.one_ne_zero hzero.1
  have hsame : s₁.sessionOwnerBindings = s.sessionOwnerBindings := by rw [hack.frame]
  have hcheck := hvalid.refers
  rw [Bool.and_eq_true] at hcheck
  obtain ⟨t, ht⟩ : ∃ t, s₁.sessionOwnerBindings.insert b = some t := by
    rw [hsame]
    exact Table.exists_insert ((Table.get_eq_none_iff _ _).mp hvalid.binding_id)
  have hinsert : BindingInserted b s₁ { s₁ with sessionOwnerBindings := t } := by
    refine ⟨?_, ?_, ht, rfl⟩
    · rw [Bool.and_eq_true]
      exact ⟨hcheck.1, hack.refersTo b hcheck.2⟩
    · rw [hsame]
      exact hfree
  have hbinding : ¬ (b.delivery_id ≠ d ∨
      b.session_id_digest ≠ SessionOwnerBinding.digest session_id) := by
    rw [not_or, not_not, not_not]
    exact ⟨hvalid.delivery_id, hvalid.digest⟩
  unfold acknowledgeDeliveryWithBinding
  rw [if_neg hbinding]
  refine Tx.commit_fst { s₁ with sessionOwnerBindings := t } ?_
  refine Tx.bind_ok.2 ⟨(1, 1), s₁, hrows, Tx.bind_ok.2 ⟨(), s₁, rfl, ?_⟩⟩
  refine Tx.ite_ok.2 (Or.inr ⟨Nat.one_ne_zero, ?_⟩)
  refine Tx.bind_ok.2 ⟨(), s₁, Tx.require_ok.2 ⟨hvalid.valid, rfl⟩, ?_⟩
  exact Tx.bind_ok.2 ⟨(), _, insertBinding_ok.2 hinsert, rfl⟩

/-- A repeated call changes nothing, and answers whether the session has the delivery. -/
theorem acknowledgeWithBinding_late {b : SessionOwnerBinding} (h : Acked s d)
    (hstate : ∃ row, s.deliveryDispositions.get d = some row ∧ row.state ≠ .prepared)
    (hdelivery : b.delivery_id = d)
    (hdigest : b.session_id_digest = SessionOwnerBinding.digest session_id) :
    acknowledgeDeliveryWithBinding d session_id now b s =
      (.ok (s.isAcknowledged d session_id), s) := by
  have hbinding : ¬ (b.delivery_id ≠ d ∨
      b.session_id_digest ≠ SessionOwnerBinding.digest session_id) := by
    rw [not_or, not_not, not_not]
    exact ⟨hdelivery, hdigest⟩
  unfold acknowledgeDeliveryWithBinding
  rw [if_neg hbinding]
  refine Tx.commit_of_error ?_
  rw [Tx.bind_of_ok (acknowledgeRows_late h hstate session_id now)]
  rfl

end

/-! ### Runs -/

/-- The session has the delivery. -/
def HasSession (s : SessionStore) (d : DeliveryId) (session_id : String) : Prop :=
  ∃ row, s.deliveryDispositions.get d = some row ∧ row.state = .acknowledged ∧
    row.session_id = some session_id

end SessionStore

/-- A call on the store. -/
inductive SessionCall where
  /-- The rows that the foreign keys name. -/
  | enroll (task_id : TaskId) (conversation : ConversationId) (endpoint : EndpointId)
  | owner (call : OwnerCall)
  | prepareDelivery (delivery_id : DeliveryId) (task_id : TaskId) (attempt : Nat)
      (target_endpoint : EndpointId) (now : String)
  | acknowledgeDelivery (delivery_id : DeliveryId) (session_id now : String)
  | deliverInner (r : AcceptedDelivery)
  | recoverDelivery (delivery_id : DeliveryId) (task_id : TaskId)
  | closeDelivery (delivery_id : DeliveryId) (task_id : TaskId) (now : String)

/-- The calls that end a delivery. -/
def SessionCall.settles (d : DeliveryId) : SessionCall → Prop
  | .recoverDelivery delivery_id _ | .closeDelivery delivery_id _ _ => delivery_id = d
  | _ => False

section

variable [Externals] [HashCrates]

def sessionStep (s : SessionStore) : SessionCall → SessionStore
  | .enroll task_id conversation endpoint =>
    { s with
      tasks := task_id :: s.tasks
      agents := endpoint :: s.agents
      conversations := conversation :: s.conversations }
  | .owner call => { s with owners := (ownerStep s.owners call).2 }
  | .prepareDelivery delivery_id task_id attempt target_endpoint now =>
    (s.prepareDelivery delivery_id task_id attempt target_endpoint now).2
  | .acknowledgeDelivery delivery_id session_id now =>
    (s.acknowledgeDelivery delivery_id session_id now).2
  | .deliverInner r => (s.deliverInner r).2
  | .recoverDelivery delivery_id task_id => s.recoverDelivery delivery_id task_id
  | .closeDelivery delivery_id task_id now => (s.closeDelivery delivery_id task_id now).2

/-- The store after the calls. -/
def sessionsAfter (s : SessionStore) (calls : List SessionCall) : SessionStore :=
  calls.foldl sessionStep s

namespace SessionStore

variable {s s' : SessionStore} {d : DeliveryId} {session_id now : String}

/-- What a call does: an acknowledged delivery stays acknowledged, and with its session unless
the call settles it; a new binding belongs to an acknowledged delivery, and its generation is one
that the evidence shows. -/
structure SessionEffect (call : SessionCall) (s s' : SessionStore) : Prop where
  acked : ∀ d, Acked s d → Acked s' d
  session : ∀ d session_id, ¬ call.settles d → HasSession s d session_id →
    HasSession s' d session_id
  bindings : ∀ b ∈ s'.sessionOwnerBindings.rows, b ∈ s.sessionOwnerBindings.rows ∨
    (Acked s' b.delivery_id ∧
      ∃ token, s.owners.runtimeGeneration token = some b.runtime_generation)
  owners : s'.owners = s.owners ∨ ∃ c, s'.owners = (ownerStep s.owners c).2

omit [HashCrates] in
theorem SessionEffect.refl (call : SessionCall) (s : SessionStore) : SessionEffect call s s :=
  ⟨fun _ h => h, fun _ _ _ h => h, fun _ h => Or.inl h, Or.inl rfl⟩

omit [HashCrates] in
theorem AckRows.effect {call : SessionCall} (h : AckRows d session_id now s s') :
    SessionEffect call s s' := by
  obtain ⟨row, hget, hnone, -, hputs⟩ := h.delivery
  obtain ⟨row', hget', hstate, hputs'⟩ := h.disposition
  refine ⟨fun e he => ?_, fun e other _ he => ?_, fun b hb => ?_, ?_⟩
  · obtain ⟨r, hr, hacked⟩ := he
    by_cases heq : e = d
    · rw [heq, hget] at hr
      cases hr
      exact absurd hnone hacked
    · refine ⟨r, ?_, hacked⟩
      rw [hputs e, if_neg heq]
      exact hr
  · obtain ⟨r, hr, hacknowledged, hsession⟩ := he
    by_cases heq : e = d
    · -- the disposition was still prepared
      rw [heq, hget'] at hr
      cases hr
      rw [hstate] at hacknowledged
      cases hacknowledged
    · refine ⟨r, ?_, hacknowledged, hsession⟩
      rw [hputs' e, if_neg heq]
      exact hr
  · rw [h.frame] at hb
    exact Or.inl hb
  · rw [h.frame]
    exact Or.inl rfl

omit [Externals] [HashCrates] in
theorem AckRows.acked (h : AckRows d session_id now s s') : Acked s' d := by
  obtain ⟨row, -, -, -, hputs⟩ := h.delivery
  refine ⟨{ row with acknowledged_at := some now }, ?_, nofun⟩
  rw [hputs d, if_pos rfl]

omit [Externals] [HashCrates] in
theorem AckRows.hasSession (h : AckRows d session_id now s s') : HasSession s' d session_id := by
  obtain ⟨row, -, -, hputs⟩ := h.disposition
  refine ⟨{ row with state := .acknowledged, session_id := some session_id }, ?_, rfl, rfl⟩
  rw [hputs d, if_pos rfl]

omit [Externals] [HashCrates] in
/-- A statement that only touches rows of the delivery `d`, and does not take an acknowledgement
back. -/
theorem acked_updateWhere {p : DeliveryRow → Bool} {e : DeliveryId} {row : DeliveryRow}
    (hget : s.deliveries.get e = some row) (hrow : row.acknowledged_at ≠ none) :
    ∃ row', (s.deliveries.updateWhere p fun r => { r with acknowledged_at := some now }).get e
      = some row' ∧ row'.acknowledged_at ≠ none := by
  rw [Table.get_updateWhere, hget]
  refine ⟨_, rfl, ?_⟩
  dsimp only
  split
  · exact nofun
  · exact hrow

omit [Externals] [HashCrates] in
theorem prepareDelivery_cases {task_id : TaskId} {attempt : Nat} {target : EndpointId}
    {r : Except ReliabilityError Unit}
    (h : s.prepareDelivery d task_id attempt target now = (r, s')) :
    s' = s ∨ ∃ row row' t u, s.deliveries.insert row = some t ∧
      s.deliveryDispositions.insert row' = some u ∧
      s' = { s with deliveries := t, deliveryDispositions := u } := by
  unfold prepareDelivery at h
  rcases Tx.commit_cases h with hok | ⟨hsame, -⟩
  · simp only [Tx.bind_ok, Tx.read_ok, Tx.require_ok, Tx.insert_ok, Tx.pure_ok] at hok
    obtain ⟨_, _, ⟨rfl, rfl⟩, _, _, ⟨-, rfl⟩, _, _, ⟨-, rfl⟩, hmore⟩ := hok
    obtain ⟨_, _, ⟨t, ht, rfl⟩, _, _, ⟨-, rfl⟩, _, _, ⟨u, hu, rfl⟩, -, rfl⟩ := hmore
    exact Or.inr ⟨_, _, t, u, ht, hu, rfl⟩
  · exact Or.inl hsame

omit [Externals] [HashCrates] in
/-- An insertion keeps the rows that are there. -/
theorem get_of_insert {κ α : Type} [DecidableEq κ] {key : α → κ} {t u : Table key} {row r : α}
    {k : κ} (h : t.insert row = some u) (hget : t.get k = some r) : u.get k = some r := by
  obtain ⟨hnone, hputs⟩ := Table.insert_puts h
  rw [hputs k]
  split
  · rename_i heq
    rw [heq, hnone] at hget
    cases hget
  · exact hget

theorem sessionStep_effect (s : SessionStore) (call : SessionCall) :
    SessionEffect call s (sessionStep s call) := by
  obtain ⟨s', hs'⟩ : ∃ s', sessionStep s call = s' := ⟨_, rfl⟩
  rw [hs']
  cases call with
  | enroll task_id conversation endpoint =>
    subst hs'
    exact ⟨fun _ h => h, fun _ _ _ h => h, fun _ h => Or.inl h, Or.inl rfl⟩
  | owner call =>
    subst hs'
    exact ⟨fun _ h => h, fun _ _ _ h => h, fun _ h => Or.inl h, Or.inr ⟨call, rfl⟩⟩
  | prepareDelivery delivery_id task_id attempt target now =>
    obtain ⟨⟨r, s₁⟩, hcall⟩ : ∃ result,
      s.prepareDelivery delivery_id task_id attempt target now = result := ⟨_, rfl⟩
    simp only [sessionStep, hcall] at hs'
    subst hs'
    rcases prepareDelivery_cases hcall with rfl | ⟨row, row', t, u, ht, hu, rfl⟩
    · exact SessionEffect.refl _ s₁
    · refine ⟨fun d h => ?_, fun d session_id _ h => ?_, fun _ h => Or.inl h, Or.inl rfl⟩
      · obtain ⟨r, hr, hacked⟩ := h
        exact ⟨r, get_of_insert ht hr, hacked⟩
      · obtain ⟨r, hr, hsession⟩ := h
        exact ⟨r, get_of_insert hu hr, hsession⟩
  | acknowledgeDelivery delivery_id session_id now =>
    obtain ⟨⟨r, s₁⟩, hcall⟩ : ∃ result,
      s.acknowledgeDelivery delivery_id session_id now = result := ⟨_, rfl⟩
    simp only [sessionStep, hcall] at hs'
    subst hs'
    rcases acknowledgeDelivery_cases hcall with hack | rfl
    · exact hack.effect
    · exact SessionEffect.refl _ s₁
  | deliverInner r =>
    simp only [sessionStep, deliverInner] at hs'
    split at hs'
    · subst hs'
      exact SessionEffect.refl _ s
    · rename_i generation hgeneration
      obtain ⟨⟨answer, s₁⟩, hcall⟩ : ∃ result, s.acknowledgeDeliveryWithBinding r.delivery_id
        r.session_id r.now (r.binding generation) = result := ⟨_, rfl⟩
      rw [hcall] at hs'
      subst hs'
      rcases acknowledgeWithBinding_cases hcall with ⟨-, -, -, s₂, hack, hinsert⟩ | ⟨rfl, -⟩
      · have heffect : SessionEffect (.deliverInner r) s s₂ := hack.effect
        have hacked := hack.acked
        have hbindings : ∀ b ∈ s₁.sessionOwnerBindings.rows,
            b ∈ s.sessionOwnerBindings.rows ∨ (Acked s₁ b.delivery_id ∧
              ∃ token, s.owners.runtimeGeneration token = some b.runtime_generation) := by
          intro b hb
          rcases (Table.mem_insert hinsert.inserted).mp hb with hold | rfl
          · rw [hack.frame] at hold
            exact Or.inl hold
          · rw [hinsert.frame]
            exact Or.inr ⟨hacked, r.runtime_owner, hgeneration⟩
        rw [hinsert.frame] at hbindings ⊢
        exact ⟨heffect.acked, heffect.session, hbindings, heffect.owners⟩
      · exact SessionEffect.refl _ s₁
  | recoverDelivery delivery_id task_id =>
    subst hs'
    refine ⟨fun d h => h, fun d session_id hne h => ?_, fun _ h => Or.inl h, Or.inl rfl⟩
    obtain ⟨r, hr, hsession⟩ := h
    refine ⟨r, Eq.trans ?_ hr, hsession⟩
    refine Table.get_updateWhere_of_ne (by intro; rfl) (fun row' hp => ?_) (Ne.symm hne)
    exact (of_decide_eq_true hp).1
  | closeDelivery delivery_id task_id now =>
    obtain ⟨⟨r, s₁⟩, hcall⟩ : ∃ result, s.closeDelivery delivery_id task_id now = result :=
      ⟨_, rfl⟩
    simp only [sessionStep, hcall] at hs'
    subst hs'
    unfold closeDelivery at hcall
    rcases Tx.commit_cases hcall with hok | ⟨rfl, -⟩
    · simp only [Tx.bind_ok, Tx.updateChecked_ok, Tx.update_ok, Tx.pure_ok] at hok
      obtain ⟨_, _, ⟨-, -, rfl⟩, _, _, ⟨-, rfl⟩, -, rfl⟩ := hok
      refine ⟨fun d h => ?_, fun d session_id hne h => ?_, fun _ h => Or.inl h, Or.inl rfl⟩
      · obtain ⟨row, hrow, hacked⟩ := h
        exact acked_updateWhere hrow hacked
      · obtain ⟨row, hrow, hsession⟩ := h
        refine ⟨row, Eq.trans ?_ hrow, hsession⟩
        refine Table.get_updateWhere_of_ne (by intro; rfl) (fun row' hp => ?_) (Ne.symm hne)
        exact (of_decide_eq_true hp).1
    · exact SessionEffect.refl _ s₁

/-- What an acknowledgement wrote is there after any calls that do not settle the delivery. -/
theorem sessionsAfter_carries (calls : List SessionCall) (s : SessionStore) :
    (∀ d, Acked s d → Acked (sessionsAfter s calls) d) ∧
    ∀ d session_id, (∀ call ∈ calls, ¬ call.settles d) → HasSession s d session_id →
      HasSession (sessionsAfter s calls) d session_id := by
  induction calls generalizing s with
  | nil => exact ⟨fun _ h => h, fun _ _ _ h => h⟩
  | cons call calls ih =>
    obtain ⟨hacked, hsession⟩ := ih (sessionStep s call)
    have hstep := sessionStep_effect s call
    refine ⟨fun d h => hacked d (hstep.acked d h), fun d session_id hnone h => ?_⟩
    refine hsession d session_id (fun c hc => hnone c (List.mem_cons_of_mem _ hc)) ?_
    exact hstep.session d session_id (hnone call List.mem_cons_self) h

/-- A binding belongs to an acknowledged delivery, and everything is of the generation `1`. -/
structure SessionInv (s : SessionStore) : Prop where
  bound : ∀ b ∈ s.sessionOwnerBindings.rows, Acked s b.delivery_id
  generation : ∀ b ∈ s.sessionOwnerBindings.rows, b.runtime_generation = 1
  evidence : FirstGeneration s.owners
  owners : EvidenceInv s.owners

omit [Externals] [HashCrates] in
theorem SessionInv.runtimeGeneration (h : SessionInv s) {token : String} {generation : Nat}
    (hg : s.owners.runtimeGeneration token = some generation) : generation = 1 := by
  obtain ⟨r, hr, rfl⟩ := Option.map_eq_some_iff.mp hg
  exact h.evidence r (List.mem_of_find?_eq_some hr)

omit [Externals] [HashCrates] in
/-- A runtime with evidence has its instance. -/
theorem SessionInv.instance_isSome (h : SessionInv s) {token : String}
    (hg : s.owners.runtimeGeneration token ≠ none) :
    (s.owners.runtimeInstances.get token).isSome = true := by
  obtain ⟨generation, hg⟩ := Option.ne_none_iff_exists'.mp hg
  obtain ⟨r, hr, -⟩ := Option.map_eq_some_iff.mp hg
  have htoken := List.find?_some hr
  rw [Bool.and_eq_true, decide_eq_true_eq] at htoken
  obtain ⟨n, hn⟩ := h.owners token
  have hbound := (hn.chain.revisions r.evidence_revision).mp
    ⟨r, List.mem_of_find?_eq_some hr, htoken.1, rfl⟩
  rw [Option.isSome_iff_ne_none]
  intro hnone
  have hzero := hn.begun.mpr hnone
  omega

omit [Externals] [HashCrates] in
theorem sessionInv_empty : SessionInv empty :=
  ⟨fun _ h => absurd h List.not_mem_nil, fun _ h => absurd h List.not_mem_nil,
    fun _ h => absurd h List.not_mem_nil, evidenceInv_empty⟩

omit [HashCrates] in
theorem SessionEffect.inv {call : SessionCall} (h : SessionEffect call s s')
    (hinv : SessionInv s) : SessionInv s' := by
  refine ⟨?_, ?_, ?_, ?_⟩
  · intro b hb
    rcases h.bindings b hb with hold | ⟨hacked, -⟩
    · exact h.acked _ (hinv.bound b hold)
    · exact hacked
  · intro b hb
    rcases h.bindings b hb with hold | ⟨-, token, hg⟩
    · exact hinv.generation b hold
    · exact hinv.runtimeGeneration hg
  · rcases h.owners with hsame | ⟨c, hstep⟩
    · rw [hsame]
      exact hinv.evidence
    · rw [hstep]
      exact ownerStep_generation hinv.owners hinv.evidence c
  · rcases h.owners with hsame | ⟨c, hstep⟩
    · rw [hsame]
      exact hinv.owners
    · rw [hstep]
      exact (ownerStep_effect hinv.owners c).inv hinv.owners

theorem sessionsAfter_inv (calls : List SessionCall) : SessionInv (sessionsAfter empty calls) :=
  foldl_invariant SessionInv (fun s call h => (sessionStep_effect s call).inv h) _
    sessionInv_empty

end SessionStore

/-! ### Which deliveries can be acknowledged -/

open SessionStore

/-- A freshly prepared delivery that an agent accepted, with a valid binding. -/
structure Accepted (s : SessionStore) (r : AcceptedDelivery) : Prop where
  delivery : ∃ row, s.deliveries.get r.delivery_id = some row ∧ row.acknowledged_at = none
  disposition : ∃ row, s.deliveryDispositions.get r.delivery_id = some row ∧ row.state = .prepared
  runtime : s.owners.runtimeGeneration r.runtime_owner ≠ none
  valid : (r.binding 1).validateForTransaction = true
  check : (r.binding 1).check = true
  task_id : r.task_id ∈ s.tasks
  endpoint : r.endpoint ∈ s.agents
  conversation : r.conversation ∈ s.conversations
  binding_id : s.sessionOwnerBindings.get r.binding_id = none

/-- The delivery is acknowledged; until something else settles it, the same session is told so
again and another is not, and neither changes anything. -/
structure Acknowledges (s : SessionStore) (r : AcceptedDelivery) : Prop where
  commits : (s.deliverInner r).1 = .ok true
  repeated : ∀ calls, (∀ call ∈ calls, ¬ call.settles r.delivery_id) →
    ∀ session_id now b, b.delivery_id = r.delivery_id →
      b.session_id_digest = SessionOwnerBinding.digest session_id →
      acknowledgeDeliveryWithBinding r.delivery_id session_id now b
        (sessionsAfter (s.deliverInner r).2 calls) =
      (.ok (decide (session_id = r.session_id)), sessionsAfter (s.deliverInner r).2 calls)

/-- No delivery was acknowledged with a binding of this session at this endpoint. -/
def Unbound (s : SessionStore) (r : AcceptedDelivery) : Prop :=
  ∀ b ∈ s.sessionOwnerBindings.rows,
    b.session_id_digest = SessionOwnerBinding.digest r.session_id → b.endpoint_id ≠ r.endpoint

omit [Externals] [HashCrates] in
theorem isAcknowledged_eq {s : SessionStore} {d : DeliveryId} {owner session_id : String}
    (h : HasSession s d owner) :
    s.isAcknowledged d session_id = decide (session_id = owner) := by
  obtain ⟨row, hget, hstate, hsession⟩ := h
  rw [Bool.eq_iff_iff, decide_eq_true_eq]
  unfold isAcknowledged
  rw [List.any_eq_true]
  constructor
  · rintro ⟨r, hr, hmatch⟩
    obtain ⟨hd, -, hother⟩ := of_decide_eq_true hmatch
    have hself := Table.get_of_mem hr
    rw [hd, hget] at hself
    cases hself
    rw [hsession] at hother
    exact (Option.some.inj hother).symm
  · rintro rfl
    exact ⟨row, Table.mem_of_get hget,
      decide_eq_true ⟨Table.key_of_get hget, hstate, hsession⟩⟩

omit [Externals] [HashCrates] in
theorem not_acknowledged_of_prepared {s : SessionStore} {d : DeliveryId} {session_id : String}
    (h : ∃ row, s.deliveryDispositions.get d = some row ∧ row.state = .prepared) :
    s.isAcknowledged d session_id = false := by
  obtain ⟨row, hget, hstate⟩ := h
  unfold isAcknowledged
  rw [List.any_eq_false]
  intro r hr hmatch
  obtain ⟨hd, hacknowledged, -⟩ := of_decide_eq_true hmatch
  have hself := Table.get_of_mem hr
  rw [hd, hget] at hself
  cases hself
  rw [hstate] at hacknowledged
  cases hacknowledged

theorem acknowledges_of_commits {s : SessionStore} {r : AcceptedDelivery}
    (hprepared : ∃ row, s.deliveryDispositions.get r.delivery_id = some row ∧
      row.state = .prepared)
    (hcommits : (s.deliverInner r).1 = .ok true) : Acknowledges s r := by
  refine ⟨hcommits, fun calls hnone session_id now b hdelivery hdigest => ?_⟩
  have hafter : SessionStore.Acked (s.deliverInner r).2 r.delivery_id ∧
      HasSession (s.deliverInner r).2 r.delivery_id r.session_id := by
    unfold deliverInner at hcommits ⊢
    split at hcommits
    · cases hcommits
    · rename_i generation hgeneration
      obtain ⟨⟨answer, s'⟩, hcall⟩ : ∃ result, s.acknowledgeDeliveryWithBinding r.delivery_id
        r.session_id r.now (r.binding generation) = result := ⟨_, rfl⟩
      rw [hcall] at hcommits ⊢
      rcases acknowledgeWithBinding_cases hcall with ⟨-, -, -, s₂, hack, hinsert⟩ | ⟨-, hseen⟩
      · have hacked := hack.acked
        have hsession := hack.hasSession
        rw [hinsert.frame]
        exact ⟨hacked, hsession⟩
      · -- the disposition was prepared, so no session had the delivery
        rw [not_acknowledged_of_prepared hprepared] at hseen
        cases hseen hcommits
  obtain ⟨hacked, hsession⟩ := sessionsAfter_carries calls (s.deliverInner r).2
  have hlater := hsession r.delivery_id r.session_id hnone hafter.2
  obtain ⟨row, hget, hstate, -⟩ := id hlater
  have hnot : ∃ row, (sessionsAfter (s.deliverInner r).2 calls).deliveryDispositions.get
      r.delivery_id = some row ∧ row.state ≠ .prepared := by
    refine ⟨row, hget, ?_⟩
    rw [hstate]
    exact nofun
  rw [acknowledgeWithBinding_late (hacked r.delivery_id hafter.1) hnot hdelivery hdigest,
    isAcknowledged_eq hlater]

/-- **A delivery is acknowledged when its session is not bound yet** (proved).  After any calls, a
freshly prepared delivery with a valid binding is acknowledged exactly when no earlier delivery,
of whatever task, attempt and runtime, was acknowledged through the same session at the same
endpoint, and the clock did not go back since the delivery was prepared.  A call that does not
answer `true` changes nothing. -/
theorem acknowledged_unless_bound (calls : List SessionCall) (r : AcceptedDelivery)
    (h : Accepted (sessionsAfter empty calls) r) :
    (Acknowledges (sessionsAfter empty calls) r ↔
      Unbound (sessionsAfter empty calls) r ∧
        ∃ row, (sessionsAfter empty calls).deliveries.get r.delivery_id = some row ∧
          row.dispatched_at ≤ r.now) ∧
    ∀ d session_id now b,
      (acknowledgeDeliveryWithBinding d session_id now b (sessionsAfter empty calls)).1
        ≠ .ok true →
      (acknowledgeDeliveryWithBinding d session_id now b (sessionsAfter empty calls)).2 =
        sessionsAfter empty calls := by
  have hinv := sessionsAfter_inv calls
  generalize sessionsAfter empty calls = s at h hinv
  obtain ⟨generation, hgeneration⟩ := Option.ne_none_iff_exists'.mp h.runtime
  have hone : generation = 1 := hinv.runtimeGeneration hgeneration
  subst hone
  have hdeliver : s.deliverInner r = acknowledgeDeliveryWithBinding r.delivery_id r.session_id
      r.now (r.binding 1) s := by
    unfold deliverInner
    rw [hgeneration]
  refine ⟨⟨fun hack => ?_, fun hfree => acknowledges_of_commits h.disposition ?_⟩, ?_⟩
  · have hcommits := hack.commits
    rw [hdeliver] at hcommits
    obtain ⟨⟨answer, s'⟩, hcall⟩ : ∃ result, acknowledgeDeliveryWithBinding r.delivery_id
      r.session_id r.now (r.binding 1) s = result := ⟨_, rfl⟩
    rw [hcall] at hcommits
    rcases acknowledgeWithBinding_cases hcall with ⟨-, -, -, s₁, hrows, hinsert⟩ | ⟨-, hseen⟩
    · refine ⟨fun b hb hdigest hendpoint => ?_, ?_⟩
      · have hold : b ∈ s₁.sessionOwnerBindings.rows := by
          rw [hrows.frame]
          exact hb
        have hclash := hinsert.free b hold
        have hgen : b.runtime_generation = 1 := hinv.generation b hb
        exact of_decide_eq_false hclash (Or.inr ⟨hdigest, hendpoint, hgen⟩)
      · obtain ⟨row, hget, -, hle, -⟩ := hrows.delivery
        exact ⟨row, hget, hle⟩
    · rw [not_acknowledged_of_prepared h.disposition] at hseen
      cases hseen hcommits
  · obtain ⟨hunbound, row, hget, hle⟩ := hfree
    obtain ⟨row', hget', hnone⟩ := h.delivery
    rw [hdeliver]
    have hprepared : Prepared s r.delivery_id r.now := by
      refine ⟨⟨row, hget, ?_, hle⟩, h.disposition⟩
      rw [hget] at hget'
      cases hget'
      exact hnone
    have hrefers : ((r.binding 1).check && s.refersTo (r.binding 1)) = true := by
      have hinstance := hinv.instance_isSome h.runtime
      have hsome : (s.deliveries.get r.delivery_id).isSome = true := by rw [hget]; rfl
      rw [h.check]
      unfold refersTo
      simp only [AcceptedDelivery.binding, Bool.true_and, Bool.and_eq_true]
      exact ⟨⟨⟨⟨decide_eq_true h.task_id, hsome⟩, decide_eq_true h.endpoint⟩,
        decide_eq_true h.conversation⟩, hinstance⟩
    refine acknowledgeWithBinding_free hprepared
      ⟨rfl, rfl, h.valid, hrefers, h.binding_id⟩ fun b hb => decide_eq_false ?_
    rintro (⟨-, hd, -⟩ | ⟨hdigest, hendpoint, -⟩)
    · -- a binding of this delivery would have acknowledged it
      obtain ⟨row'', hget'', hacked⟩ := hinv.bound b hb
      have hsame : b.delivery_id = r.delivery_id := hd
      rw [hsame, hget'] at hget''
      cases hget''
      exact hacked hnone
    · exact hunbound b hb hdigest hendpoint
  · intro d session_id now b hfailed
    obtain ⟨⟨answer, s'⟩, hcall⟩ : ∃ result,
      acknowledgeDeliveryWithBinding d session_id now b s = result := ⟨_, rfl⟩
    rw [hcall] at hfailed ⊢
    rcases acknowledgeWithBinding_cases hcall with ⟨htrue, -⟩ | ⟨hsame, -⟩
    · exact absurd htrue hfailed
    · exact hsame

end

/-! ### Two tasks of one conversation -/

open SessionStore

/-- A runtime starts. -/
def begins (token : String) : SessionCall :=
  .owner (.beginRuntimeWithEvidence 120 (DateTime.ofSecs 10) token "fingerprint"
    "1970-01-01T00:00:10Z" ⟨1, 1, "boot", 1⟩)

/-- The delivery of a task through the session `s`, under a runtime. -/
def throughSession (n : Nat) (runtime : String) : AcceptedDelivery :=
  { binding_id := "binding-" ++ toString n, task_id := ⟨BitVec.ofNat 128 n⟩,
    delivery_id := ⟨BitVec.ofNat 128 n⟩, attempt := 1, session_id := "s", endpoint := ⟨3⟩,
    conversation := ⟨4⟩, cwd := "/work", backend_id := "backend", runtime_owner := runtime,
    resource_key := "resource", owner_fence := 1, child_pid := 1, child_starttime := 1,
    executable_fingerprint := "exe", boot_id := "boot", domain_device := 1, domain_inode := 1,
    now := "1970-01-01T00:00:30Z" }

/-- The task is there and its delivery is prepared. -/
def prepares (n : Nat) : List SessionCall :=
  [.enroll ⟨BitVec.ofNat 128 n⟩ ⟨4⟩ ⟨3⟩,
    .prepareDelivery ⟨BitVec.ofNat 128 n⟩ ⟨BitVec.ofNat 128 n⟩ 1 ⟨3⟩ "1970-01-01T00:00:20Z"]

/-- The first task of a conversation was delivered; after a restart the second is prepared. -/
def twoTasks : List SessionCall :=
  [begins "first"] ++ prepares 1 ++ [.deliverInner (throughSession 1 "first"),
    .owner (.stopRuntime "first" "1970-01-01T00:00:40Z"), begins "second"] ++ prepares 2

/-- The rows that `prepares` wrote. -/
def preparedRow (n : Nat) : DeliveryRow :=
  { delivery_id := ⟨BitVec.ofNat 128 n⟩, task_id := ⟨BitVec.ofNat 128 n⟩, attempt := 1,
    target_endpoint_id := ⟨3⟩, dispatched_at := "1970-01-01T00:00:20Z", acknowledged_at := none }

def preparedDisposition (n : Nat) : DispositionRow :=
  { delivery_id := ⟨BitVec.ofNat 128 n⟩, task_id := ⟨BitVec.ofNat 128 n⟩, attempt := 1,
    state := .prepared, session_id := none, child_fingerprint := none, reason_code := none }

/-- A prepared delivery of these runs is accepted. -/
theorem accepted_of_rows {s : SessionStore} {n : Nat} {runtime : String}
    (hrows : (s.deliveries.get (throughSession n runtime).delivery_id,
      s.deliveryDispositions.get (throughSession n runtime).delivery_id) =
        (some (preparedRow n), some (preparedDisposition n)))
    (hkeys : s.owners.runtimeGeneration runtime ≠ none ∧ ⟨BitVec.ofNat 128 n⟩ ∈ s.tasks ∧
      ⟨3⟩ ∈ s.agents ∧ ⟨4⟩ ∈ s.conversations ∧
      s.sessionOwnerBindings.get (throughSession n runtime).binding_id = none)
    (hbinding : ((throughSession n runtime).binding 1).validateForTransaction = true ∧
      ((throughSession n runtime).binding 1).check = true) :
    Accepted s (throughSession n runtime) where
  delivery := ⟨preparedRow n, congrArg Prod.fst hrows, rfl⟩
  disposition := ⟨preparedDisposition n, congrArg Prod.snd hrows, rfl⟩
  runtime := hkeys.1
  valid := hbinding.1
  check := hbinding.2
  task_id := hkeys.2.1
  endpoint := hkeys.2.2.1
  conversation := hkeys.2.2.2.1
  binding_id := hkeys.2.2.2.2

theorem secondTask_accepted :
    Accepted (sessionsAfter empty twoTasks) (throughSession 2 "second") :=
  accepted_of_rows (by decide +kernel) (by decide +kernel) (by decide +kernel)

/-- The second delivery through the session, under another runtime, cannot be acknowledged. -/
theorem secondTask_refused :
    ¬ ∀ (calls : List SessionCall) (r : AcceptedDelivery),
      Accepted (sessionsAfter empty calls) r → Acknowledges (sessionsAfter empty calls) r := by
  intro h
  have hcommits := (h twoTasks (throughSession 2 "second") secondTask_accepted).commits
  have herror : ((sessionsAfter empty twoTasks).deliverInner (throughSession 2 "second")).1 =
      .error (.sql .constraint) := by decide +kernel
  rw [herror] at hcommits
  cases hcommits

theorem acknowledged_unless_bound_first :
    Acknowledges (sessionsAfter empty ([begins "first"] ++ prepares 1))
      (throughSession 1 "first") := by
  have haccepted : Accepted (sessionsAfter empty ([begins "first"] ++ prepares 1))
      (throughSession 1 "first") :=
    accepted_of_rows (by decide) (by decide) (by decide)
  have hrows : (sessionsAfter empty ([begins "first"] ++ prepares 1)).sessionOwnerBindings.rows
      = [] := by decide
  refine (acknowledged_unless_bound _ _ haccepted).1.mpr ⟨?_, preparedRow 1, ?_, ?_⟩
  · intro b hb
    rw [hrows] at hb
    exact nomatch hb
  · decide
  · decide

end GuiguBridge
