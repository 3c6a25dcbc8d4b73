import GuiguBridge.Gateway.Store

/-!
# The gateway as a system

Any number of runtimes admit, send, finish and clean up in any order, and processes stop and
start between any two calls.

* `GatewayCall`, `gatewayStep`, `gatewayRun` — the calls of the store, with whatever owner,
  revision and phase their caller holds.  `elsewhere` is everything that other components do to
  the tables which are not the gateway's, a restart among them;
* `GatewayStep` — what one call does to the gateway's tables, and `gatewayStep_cases`, **every
  call is one**;
* `GatewayInv` — every row states its size, every delivery belongs to an envelope and passes
  its checks — and `gatewayRun_inv`.
-/

namespace GuiguBridge

open Relational

/-- One call of the gateway store. -/
inductive GatewayCall where
  | admitTaskReady (envelope : GatewayEnvelope) (conversation_id : ConversationId)
      (now runtime_instance sender_user event_id room_id : String)
      (thread_root : Option String) (generation : UInt64)
  | reserveOutbound (envelope : GatewayEnvelope) (room_id : String)
      (thread_root : Option String) (txn_id : String) (generation : UInt64) (owner : String)
  | transitionDelivery (envelope_id : Uuid) (phase : DeliveryPhase) (owner : String)
      (revision : Nat)
  | beginOutboundAttempt (envelope_id : Uuid) (owner : String) (revision : Nat)
      (expected_phase : String)
  | finishOutbound (envelope_id : Uuid) (owner : String) (revision : Nat) (phase : String)
      (event_id : Option String)
  | claimCleanup (owner now : String) (picked : Uuid → Bool)
  | deleteCleanup (envelope_id : Uuid) (owner : String) (revision : Nat) (now : String)
  | refused
  | elsewhere (other : Db)

section

variable [Externals]

/-- The store after one call. -/
def gatewayStep (db : Db) : GatewayCall → Db
  | .admitTaskReady envelope conversation_id now runtime_instance sender_user event_id room_id
      thread_root generation =>
    (admitTaskReady envelope conversation_id now runtime_instance sender_user event_id room_id
      thread_root generation db).2
  | .reserveOutbound envelope room_id thread_root txn_id generation owner =>
    (reserveOutbound envelope room_id thread_root txn_id generation owner db).2
  | .transitionDelivery envelope_id phase owner revision =>
    (transitionDelivery envelope_id phase owner revision db).2
  | .beginOutboundAttempt envelope_id owner revision expected_phase =>
    (beginOutboundAttempt envelope_id owner revision expected_phase db).2
  | .finishOutbound envelope_id owner revision phase event_id =>
    (finishOutbound envelope_id owner revision phase event_id db).2
  | .claimCleanup owner now picked => (claimCleanup owner now picked db).2
  | .deleteCleanup envelope_id owner revision now =>
    (deleteCleanup envelope_id owner revision now db).2
  | .refused => db
  | .elsewhere other =>
    { other with
      gatewayEnvelopes := db.gatewayEnvelopes, gatewayDeliveries := db.gatewayDeliveries,
      gatewayArtifacts := db.gatewayArtifacts }

/-- The store after a list of calls from the empty one. -/
def gatewayRun (calls : List GatewayCall) : Db := calls.foldl gatewayStep Db.empty

theorem gatewayRun_snoc (calls : List GatewayCall) (call : GatewayCall) :
    gatewayRun (calls ++ [call]) = gatewayStep (gatewayRun calls) call := by
  simp [gatewayRun, List.foldl_append]

end

/-! ### One step -/

/-- What a statement on deliveries keeps: the key, the owner, and the checks of the row. -/
structure DeliveryWrite (db : Db) (p : GatewayDeliveryRow → Bool)
    (f : GatewayDeliveryRow → GatewayDeliveryRow) : Prop where
  key : ∀ d, (f d).key = d.key
  owner : ∀ d, (f d).owner_runtime = d.owner_runtime
  check : ∀ d ∈ db.gatewayDeliveries.rows, p d = true → (f d).check = true

/-- What one call does to the tables of the gateway. -/
inductive GatewayStep (db db' : Db) : Prop where
  | same (henvelopes : db'.gatewayEnvelopes = db.gatewayEnvelopes)
      (hdeliveries : db'.gatewayDeliveries = db.gatewayDeliveries)
      (hartifacts : db'.gatewayArtifacts = db.gatewayArtifacts)
  | inserted (e : GatewayEnvelopeRow) (d : GatewayDeliveryRow)
      (henvelope : db.gatewayEnvelopes.insert e = some db'.gatewayEnvelopes)
      (hdelivery : db.gatewayDeliveries.insert d = some db'.gatewayDeliveries)
      (hartifacts : db'.gatewayArtifacts = db.gatewayArtifacts)
      (hsize : e.retained_bytes = e.canonical_json.utf8ByteSize)
      (hid : d.envelope_id = e.envelope_id) (hcheck : d.check = true)
      (howner : d.direction = .inbound → d.owner_runtime = none)
      (htransport : d.transport = "matrix")
  | updated (p : GatewayDeliveryRow → Bool) (f : GatewayDeliveryRow → GatewayDeliveryRow)
      (hwrite : DeliveryWrite db p f)
      (henvelopes : db'.gatewayEnvelopes = db.gatewayEnvelopes)
      (hdeliveries : db'.gatewayDeliveries = db.gatewayDeliveries.updateWhere p f hwrite.key)
      (hartifacts : db'.gatewayArtifacts = db.gatewayArtifacts)
  | claimed (p : GatewayEnvelopeRow → Bool) (f : GatewayEnvelopeRow → GatewayEnvelopeRow)
      (hkey : ∀ e, (f e).envelope_id = e.envelope_id)
      (hsize : ∀ e, (f e).retained_bytes = e.retained_bytes ∧
        (f e).canonical_json = e.canonical_json)
      (henvelopes : db'.gatewayEnvelopes = db.gatewayEnvelopes.updateWhere p f hkey)
      (hdeliveries : db'.gatewayDeliveries = db.gatewayDeliveries)
      (hartifacts : db'.gatewayArtifacts = db.gatewayArtifacts)
  | deleted (envelope_id : Uuid)
      (henvelopes : db'.gatewayEnvelopes = db.gatewayEnvelopes.deleteWhere fun e =>
        decide (e.envelope_id = envelope_id))
      (hdeliveries : db'.gatewayDeliveries = db.gatewayDeliveries.deleteWhere fun d =>
        decide (d.envelope_id = envelope_id))
      (hartifacts : db'.gatewayArtifacts = db.gatewayArtifacts.deleteWhere fun a =>
        decide (a.envelope_id = envelope_id))

theorem updateDelivery_gatewayStep {p : GatewayDeliveryRow → Bool}
    {f : GatewayDeliveryRow → GatewayDeliveryRow} {check : GatewayDeliveryRow → Bool}
    {hf : ∀ d, (f d).key = d.key} {db : Db} (howner : ∀ d, (f d).owner_runtime = d.owner_runtime)
    (hcheck : ∀ d, check d = true → d.check = true) :
    GatewayStep db (updateDelivery p f check hf db).2 := by
  rcases updateDelivery_cases (Prod.mk.eta (p := updateDelivery p f check hf db)).symm with
    ⟨-, hdb, -⟩ | ⟨-, hdb, hall⟩
  · rw [hdb]
    exact .same rfl rfl rfl
  · rw [hdb]
    exact .updated p f ⟨hf, howner, fun d hd hp => hcheck _ (hall d hd hp)⟩ rfl rfl rfl

theorem GatewayDeliveryRow.check_of_checkPhase {phase : String} {d : GatewayDeliveryRow}
    (h : d.checkPhase phase = true) : d.check = true :=
  (Bool.and_eq_true_iff.mp h).2

section

variable [Externals]

theorem admitTaskReady_gatewayStep {envelope : GatewayEnvelope}
    {conversation_id : ConversationId}
    {now runtime_instance sender_user event_id room_id : String} {thread_root : Option String}
    {generation : UInt64} {db db' : Db} {r : Except GatewayError TaskWinner}
    (h : admitTaskReady envelope conversation_id now runtime_instance sender_user event_id
      room_id thread_root generation db = (r, db')) : GatewayStep db db' := by
  rcases admitTaskReady_cases h with ⟨rfl, -⟩ | ⟨-, h⟩
  · exact .same rfl rfl rfl
  · have hartifacts : db'.gatewayArtifacts = db.gatewayArtifacts := by rw [h.frame]
    exact .inserted _ _ h.stored h.delivery hartifacts rfl rfl rfl (fun _ => rfl) rfl

theorem reserveOutbound_gatewayStep {envelope : GatewayEnvelope} {room_id : String}
    {thread_root : Option String} {txn_id : String} {generation : UInt64} {owner : String}
    {db db' : Db} {r : Except GatewayError Bool}
    (h : reserveOutbound envelope room_id thread_root txn_id generation owner db = (r, db')) :
    GatewayStep db db' := by
  rcases reserveOutbound_cases h with ⟨rfl, -⟩ | ⟨-, -, -, henv, hdel, hframe⟩
  · exact .same rfl rfl rfl
  · have hartifacts : db'.gatewayArtifacts = db.gatewayArtifacts := by rw [hframe]
    exact .inserted _ _ henv hdel hartifacts rfl rfl rfl nofun rfl

theorem deleteCleanup_gatewayStep {envelope_id : Uuid} {owner : String} {revision : Nat}
    {now : String} {db : Db} :
    GatewayStep db (deleteCleanup envelope_id owner revision now db).2 := by
  unfold deleteCleanup
  cases db.gatewayEnvelopes.get envelope_id with
  | none => exact .same rfl rfl rfl
  | some r =>
    dsimp only
    by_cases hdel : r.deletable owner revision now db = true
    · rw [if_pos hdel]
      exact .deleted envelope_id rfl rfl rfl
    · rw [if_neg hdel]
      exact .same rfl rfl rfl

/-- **Every call is a gateway step.** -/
theorem gatewayStep_cases (db : Db) (call : GatewayCall) :
    GatewayStep db (gatewayStep db call) := by
  cases call with
  | admitTaskReady envelope conversation_id now runtime_instance sender_user event_id room_id
      thread_root generation => exact admitTaskReady_gatewayStep rfl
  | reserveOutbound envelope room_id thread_root txn_id generation owner =>
    exact reserveOutbound_gatewayStep rfl
  | transitionDelivery envelope_id phase owner revision =>
    exact updateDelivery_gatewayStep (fun _ => rfl)
      (fun _ => GatewayDeliveryRow.check_of_checkPhase)
  | beginOutboundAttempt envelope_id owner revision expected_phase =>
    exact updateDelivery_gatewayStep (fun _ => rfl) (fun _ h => h)
  | finishOutbound envelope_id owner revision phase event_id =>
    exact updateDelivery_gatewayStep (fun _ => rfl)
      (fun _ => GatewayDeliveryRow.check_of_checkPhase)
  | claimCleanup owner now picked =>
    exact .claimed _ (GatewayEnvelopeRow.claimedBy owner now) (fun _ => rfl)
      (fun _ => ⟨rfl, rfl⟩) rfl rfl rfl
  | deleteCleanup envelope_id owner revision now => exact deleteCleanup_gatewayStep
  | refused => exact .same rfl rfl rfl
  | elsewhere other => exact .same rfl rfl rfl

end

/-! ### The invariant -/

/-- What holds of the gateway's tables in every state. -/
structure GatewayInv (db : Db) : Prop where
  /-- Every envelope states the length of its canonical text. -/
  sized : ∀ e ∈ db.gatewayEnvelopes.rows, e.retained_bytes = e.canonical_json.utf8ByteSize
  /-- No call writes an artifact. -/
  artifacts : db.gatewayArtifacts.rows = []
  /-- Every delivery belongs to an envelope. -/
  anchored : ∀ d ∈ db.gatewayDeliveries.rows,
    ∃ e ∈ db.gatewayEnvelopes.rows, e.envelope_id = d.envelope_id
  checked : ∀ d ∈ db.gatewayDeliveries.rows, d.check = true
  /-- **Nobody owns an inbound delivery.** -/
  unowned : ∀ d ∈ db.gatewayDeliveries.rows, d.direction = .inbound → d.owner_runtime = none
  transport : ∀ d ∈ db.gatewayDeliveries.rows, d.transport = "matrix"

theorem GatewayInv.empty : GatewayInv Db.empty where
  sized := by intro e he; cases he
  artifacts := rfl
  anchored := by intro d hd; cases hd
  checked := by intro d hd; cases hd
  unowned := by intro d hd; cases hd
  transport := by intro d hd; cases hd

theorem GatewayInv.congr {db db' : Db} (h : GatewayInv db)
    (henvelopes : db'.gatewayEnvelopes = db.gatewayEnvelopes)
    (hdeliveries : db'.gatewayDeliveries = db.gatewayDeliveries)
    (hartifacts : db'.gatewayArtifacts = db.gatewayArtifacts) : GatewayInv db' where
  sized := by rw [henvelopes]; exact h.sized
  artifacts := by rw [hartifacts]; exact h.artifacts
  anchored := by rw [henvelopes, hdeliveries]; exact h.anchored
  checked := by rw [hdeliveries]; exact h.checked
  unowned := by rw [hdeliveries]; exact h.unowned
  transport := by rw [hdeliveries]; exact h.transport

/-- The direction and the transport of a delivery are part of its key. -/
theorem GatewayDeliveryRow.of_key_eq {d d' : GatewayDeliveryRow} (h : d.key = d'.key) :
    d.envelope_id = d'.envelope_id ∧ d.direction = d'.direction ∧
      d.transport = d'.transport := by
  simpa [GatewayDeliveryRow.key] using h

/-- **One step keeps the invariant.** -/
theorem GatewayInv.step {db db' : Db} (h : GatewayInv db) (hstep : GatewayStep db db') :
    GatewayInv db' := by
  cases hstep with
  | same henvelopes hdeliveries hartifacts => exact h.congr henvelopes hdeliveries hartifacts
  | inserted e d henvelope hdelivery hartifacts hsize hid hcheck howner htransport =>
    have hold : ∀ {P : GatewayDeliveryRow → Prop},
        (∀ d ∈ db.gatewayDeliveries.rows, P d) → P d → ∀ d ∈ db'.gatewayDeliveries.rows, P d := by
      intro P hall hnew x hx
      rcases (Table.mem_insert hdelivery).mp hx with hx | rfl
      · exact hall x hx
      · exact hnew
    refine
      { sized := ?_
        artifacts := by rw [hartifacts]; exact h.artifacts
        anchored := hold ?_ ⟨e, (Table.mem_insert henvelope).mpr (Or.inr rfl), hid.symm⟩
        checked := hold h.checked hcheck
        unowned := hold h.unowned howner
        transport := hold h.transport htransport }
    · intro x hx
      rcases (Table.mem_insert henvelope).mp hx with hx | rfl
      · exact h.sized x hx
      · exact hsize
    · intro x hx
      obtain ⟨y, hy, hxy⟩ := h.anchored x hx
      exact ⟨y, (Table.mem_insert henvelope).mpr (Or.inl hy), hxy⟩
  | updated p f hwrite henvelopes hdeliveries hartifacts =>
    -- a row of the new table is a row of the old one, written or left alone
    have hrows : ∀ x ∈ db'.gatewayDeliveries.rows,
        ∃ y ∈ db.gatewayDeliveries.rows, x.key = y.key ∧
          x.owner_runtime = y.owner_runtime ∧ x.check = true := by
      intro x hx
      rw [hdeliveries] at hx
      rcases Table.mem_updateWhere.1 hx with ⟨y, hy, hp, rfl⟩ | ⟨hx, -⟩
      · exact ⟨y, hy, hwrite.key y, hwrite.owner y, hwrite.check y hy hp⟩
      · exact ⟨x, hx, rfl, rfl, h.checked x hx⟩
    refine
      { sized := by rw [henvelopes]; exact h.sized
        artifacts := by rw [hartifacts]; exact h.artifacts
        anchored := ?_
        checked := fun x hx => (hrows x hx).choose_spec.2.2.2
        unowned := ?_
        transport := ?_ }
    · intro x hx
      obtain ⟨y, hy, hkey, -, -⟩ := hrows x hx
      rw [henvelopes, (GatewayDeliveryRow.of_key_eq hkey).1]
      exact h.anchored y hy
    · intro x hx hdir
      obtain ⟨y, hy, hkey, howner, -⟩ := hrows x hx
      rw [howner]
      exact h.unowned y hy ((GatewayDeliveryRow.of_key_eq hkey).2.1 ▸ hdir)
    · intro x hx
      obtain ⟨y, hy, hkey, -, -⟩ := hrows x hx
      rw [(GatewayDeliveryRow.of_key_eq hkey).2.2]
      exact h.transport y hy
  | claimed p f hkey hsize henvelopes hdeliveries hartifacts =>
    refine
      { sized := ?_
        artifacts := by rw [hartifacts]; exact h.artifacts
        anchored := ?_
        checked := by rw [hdeliveries]; exact h.checked
        unowned := by rw [hdeliveries]; exact h.unowned
        transport := by rw [hdeliveries]; exact h.transport }
    · intro x hx
      rw [henvelopes] at hx
      rcases Table.mem_updateWhere.1 hx with ⟨y, hy, -, rfl⟩ | ⟨hx, -⟩
      · rw [(hsize y).1, (hsize y).2]
        exact h.sized y hy
      · exact h.sized x hx
    · intro x hx
      rw [hdeliveries] at hx
      obtain ⟨e, he, hid⟩ := h.anchored x hx
      rw [henvelopes]
      by_cases hp : p e = true
      · exact ⟨f e, Table.mem_updateWhere.2 (Or.inl ⟨e, he, hp, rfl⟩), (hkey e).trans hid⟩
      · exact ⟨e, Table.mem_updateWhere.2 (Or.inr ⟨he, by simpa using hp⟩), hid⟩
  | deleted envelope_id henvelopes hdeliveries hartifacts =>
    have hleft : ∀ x ∈ db'.gatewayDeliveries.rows,
        x ∈ db.gatewayDeliveries.rows ∧ x.envelope_id ≠ envelope_id := by
      intro x hx
      rw [hdeliveries] at hx
      obtain ⟨hx, hne⟩ := Table.mem_deleteWhere.1 hx
      exact ⟨hx, by simpa using hne⟩
    refine
      { sized := ?_
        artifacts := ?_
        anchored := ?_
        checked := fun x hx => h.checked x (hleft x hx).1
        unowned := fun x hx => h.unowned x (hleft x hx).1
        transport := fun x hx => h.transport x (hleft x hx).1 }
    · intro x hx
      rw [henvelopes] at hx
      exact h.sized x (Table.mem_deleteWhere.1 hx).1
    · rw [hartifacts]
      simp [Table.deleteWhere, h.artifacts]
    · intro x hx
      obtain ⟨hx, hne⟩ := hleft x hx
      obtain ⟨e, he, hid⟩ := h.anchored x hx
      rw [henvelopes]
      refine ⟨e, Table.mem_deleteWhere.2 ⟨he, ?_⟩, hid⟩
      rw [hid]
      simpa using hne

/-- The delivery that somebody owns is the outbound one of its envelope. -/
theorem GatewayInv.owned_key {db : Db} (h : GatewayInv db) {x : GatewayDeliveryRow}
    (hx : x ∈ db.gatewayDeliveries.rows) {owner : String} (howner : x.owner_runtime = some owner) :
    x.key = (x.envelope_id, .outbound, "matrix") := by
  have hdir : x.direction = .outbound := by
    cases hdir : x.direction with
    | outbound => rfl
    | inbound =>
      rw [h.unowned x hx hdir] at howner
      cases howner
  show (x.envelope_id, x.direction, x.transport) = _
  rw [hdir, h.transport x hx]

/-- An envelope that no constraint refuses is stored together with its delivery. -/
theorem reserveOutbound_stores [Externals] {envelope : GatewayEnvelope} {generation : UInt64}
    {owner : String} {db : Db} (h : GatewayInv db) (room_id : String)
    (thread_root : Option String) (txn_id : String)
    (hfree : db.envelopeFree (envelope.outboundRow generation owner) = true)
    (hcheck : (envelope.outboundRow generation owner).check = true) :
    ∃ en de, db.gatewayEnvelopes.insert (envelope.outboundRow generation owner) = some en ∧
      db.gatewayDeliveries.insert
        (envelope.outboundDelivery room_id thread_root txn_id owner) = some de ∧
      reserveOutbound envelope room_id thread_root txn_id generation owner db =
        (.ok true, { db with gatewayEnvelopes := en, gatewayDeliveries := de }) := by
  have hid : ∀ e ∈ db.gatewayEnvelopes.rows, e.envelope_id ≠ envelope.envelope_id := by
    intro e he
    exact (of_decide_eq_true (List.all_eq_true.mp hfree e he)).1
  obtain ⟨en, hen⟩ := Table.exists_insert (r := envelope.outboundRow generation owner) hid
  obtain ⟨de, hde⟩ := Table.exists_insert (t := db.gatewayDeliveries)
    (r := envelope.outboundDelivery room_id thread_root txn_id owner) (by
    intro x hx hkey
    obtain ⟨e, he, hex⟩ := h.anchored x hx
    exact hid e he (hex.trans (GatewayDeliveryRow.of_key_eq hkey).1))
  refine ⟨en, de, hen, hde, ?_⟩
  have henvelope : (Tx.insert Db.gatewayEnvelopesL (envelope.outboundRow generation owner)
      (.error (.sql .constraint)) : Tx Db (Except GatewayError Bool) Unit) db =
        .ok ((), { db with gatewayEnvelopes := en }) := Tx.insert_free hen
  have hdelivery : insertGatewayDelivery
      (envelope.outboundDelivery room_id thread_root txn_id owner)
      (.error (.sql .constraint) : Except GatewayError Bool) { db with gatewayEnvelopes := en } =
        .ok ((), { db with gatewayEnvelopes := en, gatewayDeliveries := de }) := by
    rw [insertGatewayDelivery, Tx.bind_apply]
    exact Tx.insert_free hde
  simp only [reserveOutbound, Tx.commit, Tx.bind_apply, Tx.read_apply, hfree, hcheck,
    Bool.and_self, if_true, henvelope, hdelivery, Tx.pure_apply]

theorem gatewayRun_inv [Externals] (calls : List GatewayCall) : GatewayInv (gatewayRun calls) :=
  foldl_invariant GatewayInv (fun db call h => h.step (gatewayStep_cases db call)) calls
    GatewayInv.empty

end GuiguBridge
