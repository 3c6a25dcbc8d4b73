import GuiguBridge.Gateway.System
import GuiguBridge.ReferenceLaws

/-!
# The acceptance of a request

A bridge that took a request answers with an acceptance envelope (`send_acceptance` of
`src/src/gateway.rs`).  The function calls itself after a send whose outcome is unknown, and
any number of invocations may run over the one stored delivery, each stopped between any two of
its calls.

* `acceptance`, `acceptanceTxn` — what is sent, and under which transaction;
* `AcceptancePc`, `AcceptancePc.advance` — an invocation as a program over the store: one step a
  call;
* `AcceptanceWorld`, `acceptanceRun` — invocations started and advanced in any order, the sender
  answering as it likes;
* `Stage` — where the delivery stands: phase, attempt and revision, the sends made so far, and
  **the one invocation that may be between its attempt and its verdict**;
* `AcceptanceInv` — the joint invariant, `AcceptanceInv.move`, and the result about whole runs.
-/

namespace GuiguBridge

open Relational

/-- The fields of a `MatrixRoute` that an acceptance uses. -/
structure MatrixRoute where
  room_id : String
  generation : UInt64
  runtime_instance : String
  deriving DecidableEq

section

variable [Externals]

/-- The identity of the acceptance of an envelope. -/
def acceptanceId (inbound : GatewayEnvelope) : Uuid :=
  Externals.newV5OfUuid namespaceOid inbound.envelope_id

/-- The transaction of the acceptance. -/
def acceptanceTxn (inbound : GatewayEnvelope) : String :=
  "gateway-" ++ Externals.uuidText (acceptanceId inbound)

/-- `"0".repeat(64)`. -/
def zeroDigest : String := "0000000000000000000000000000000000000000000000000000000000000000"

/-- The acceptance of an inbound envelope. -/
def acceptance (inbound : GatewayEnvelope) : GatewayEnvelope :=
  { version := profile, envelope_id := acceptanceId inbound,
    idempotency_key := "acceptance:" ++ Externals.uuidText inbound.envelope_id,
    direction := .outbound, peer_id := inbound.peer_id, sender := inbound.recipient,
    recipient := inbound.sender, conversation_id := inbound.conversation_id,
    correlation_id := inbound.correlation_id,
    causal_seq := UInt64.ofNat (min (inbound.causal_seq.toNat + 1) (2 ^ 64 - 1)),
    created_at := inbound.created_at, deadline := none, kind := .acceptance,
    content_type := "application/json", payload := none, payload_sha256 := zeroDigest,
    artifact := none, integrity := ⟨"sha256", zeroDigest⟩ }

/-- `MatrixGateway::encode_event`, the `content` of the event.  **The thread is the one that
the caller names.** -/
def encodeContent (envelope : GatewayEnvelope) (thread_root : Option String) : Json :=
  .obj ([("msgtype", .str "com.guigu.bridge.a2a.v1"), ("body", .str profile),
      ("com.guigu.bridge.a2a.v1", .obj [("envelope", envelope.toJson)])] ++
    (match thread_root with
      | some root => [("m.relates_to", .obj [("rel_type", .str "m.thread"),
          ("event_id", .str root)])]
      | none => []))

end

/-! ### Invocations -/

/-- Where an invocation stands: before which of its calls, with what it has read. -/
inductive AcceptancePc where
  | reserve
  | readState
  | begin_ (attempt revision : Nat)
  | send (attempt revision : Nat)
  | finish (attempt revision : Nat) (outcome : Option String)
  | done (result : Except EnvelopeError Unit)
  deriving DecidableEq

/-- One invocation of `send_acceptance`; `steps` counts the calls it has made. -/
structure Invocation where
  thread_root : Option String
  pc : AcceptancePc
  steps : Nat

/-- One call of the sender. -/
structure Sent where
  room_id : String
  txn_id : String
  content : Json
  outcome : Option String

structure AcceptanceWorld where
  db : Db
  invocations : List Invocation
  sent : List Sent

/-- The phase that an attempt expects: the one it was read in. -/
def expectedPhase (attempt : Nat) : DeliveryPhase := if attempt = 0 then .pending else .sendUnknown

/-- The phase after a send that failed. -/
def failurePhase (attempt : Nat) : DeliveryPhase :=
  if attempt = 0 then .sendUnknown else .recoveryNeeded

/-- What an invocation does with the state it has read. -/
def afterState : Option (DeliveryPhase × Nat × Nat) → AcceptancePc
  | none => .done (.error .shape)
  | some (phase, attempt, revision) =>
    if phase ∈ [DeliveryPhase.transportAcked, .taskAccepted, .terminal, .recoveryNeeded] then
      .done (.ok ())
    else if (phase = .pending ∧ attempt = 0) ∨ (phase = .sendUnknown ∧ attempt = 1) then
      .begin_ attempt revision
    else .done (.error .shape)

/-- What an invocation does after its verdict is stored; a first failure starts over. -/
def afterFinish (attempt : Nat) : Option String → Except GatewayError Bool → AcceptancePc
  | _, .error _ => .done (.error .shape)
  | some _, .ok _ => .done (.ok ())
  | none, .ok _ => if attempt = 0 then .reserve else .done (.ok ())

section

variable [Externals]

/-- The call that an invocation makes next, and the send it makes in it, if any. -/
def AcceptancePc.advance (route : MatrixRoute) (inbound : GatewayEnvelope)
    (thread_root : Option String) (outcome : Option String) (db : Db) :
    AcceptancePc → AcceptancePc × Db × List Sent
  | .reserve =>
    let r := reserveOutbound (acceptance inbound) route.room_id thread_root
      (acceptanceTxn inbound) route.generation route.runtime_instance db
    (match r.1 with
      | .error _ => .done (.error .shape)
      | .ok _ => .readState, r.2, [])
  | .readState =>
    (afterState (outboundState (acceptanceId inbound) route.runtime_instance db), db, [])
  | .begin_ attempt revision =>
    let r := beginOutboundAttempt (acceptanceId inbound) route.runtime_instance revision
      (expectedPhase attempt).column db
    (match r.1 with
      | .ok true => .send attempt revision
      | _ => .done (.error .shape), r.2, [])
  | .send attempt revision =>
    (.finish attempt revision outcome, db,
      [⟨route.room_id, acceptanceTxn inbound, encodeContent (acceptance inbound) thread_root,
        outcome⟩])
  | .finish attempt revision outcome =>
    let phase := match outcome with
      | some _ => DeliveryPhase.transportAcked
      | none => failurePhase attempt
    let r := finishOutbound (acceptanceId inbound) route.runtime_instance (revision + 1)
      phase.column outcome db
    (afterFinish attempt outcome r.1, r.2, [])
  | .done result => (.done result, db, [])

/-- What happens next: an invocation starts, one makes its next call, or another component
writes tables that are not the gateway's. -/
inductive AcceptanceMove where
  | start (thread_root : Option String)
  | advance (index : Nat) (outcome : Option String)
  | elsewhere (other : Db)

/-- The world after one move. -/
def AcceptanceWorld.move (route : MatrixRoute) (inbound : GatewayEnvelope)
    (w : AcceptanceWorld) : AcceptanceMove → AcceptanceWorld
  | .start thread_root =>
    { w with invocations := w.invocations ++ [⟨thread_root, .reserve, 0⟩] }
  | .advance index outcome =>
    match w.invocations[index]? with
    | none => w
    | some inv =>
      let r := inv.pc.advance route inbound inv.thread_root outcome w.db
      { db := r.2.1,
        invocations := w.invocations.set index ⟨inv.thread_root, r.1, inv.steps + 1⟩,
        sent := w.sent ++ r.2.2 }
  | .elsewhere other =>
    { w with db := { other with
        gatewayEnvelopes := w.db.gatewayEnvelopes, gatewayDeliveries := w.db.gatewayDeliveries,
        gatewayArtifacts := w.db.gatewayArtifacts } }

/-- The world after a list of moves from a store. -/
def acceptanceRun (route : MatrixRoute) (inbound : GatewayEnvelope) (db : Db)
    (moves : List AcceptanceMove) : AcceptanceWorld :=
  moves.foldl (AcceptanceWorld.move route inbound) ⟨db, [], []⟩

end

/-! ### Stages of the delivery -/

/-- Where the delivery stands.  `firstSent` and `secondSent` are the moments between a send and
its verdict. -/
inductive Stage where
  | fresh
  | firstSending
  | firstSent (outcome : Option String)
  | unknown
  | secondSending
  | secondSent (outcome : Option String)
  | ackedFirst (event_id : String)
  | ackedSecond (event_id : String)
  | failed

namespace Stage

/-- Phase, attempt and revision of the row. -/
def columns : Stage → DeliveryPhase × Nat × Nat
  | fresh => (.pending, 0, 0)
  | firstSending | firstSent _ => (.pending, 1, 1)
  | unknown => (.sendUnknown, 1, 2)
  | secondSending | secondSent _ => (.sendUnknown, 2, 3)
  | ackedFirst _ => (.transportAcked, 1, 2)
  | ackedSecond _ => (.transportAcked, 2, 4)
  | failed => (.recoveryNeeded, 2, 4)

/-- What the sender has answered so far. -/
def outcomes : Stage → List (Option String)
  | fresh | firstSending => []
  | firstSent o => [o]
  | unknown | secondSending => [none]
  | secondSent o => [none, o]
  | ackedFirst e => [some e]
  | ackedSecond e => [none, some e]
  | failed => [none, none]

/-- The invocation that has begun an attempt and not stored its verdict. -/
def busy : Stage → Option AcceptancePc
  | firstSending => some (.send 0 0)
  | firstSent o => some (.finish 0 0 o)
  | secondSending => some (.send 1 2)
  | secondSent o => some (.finish 1 2 o)
  | _ => none

/-- The attempt and the revision that the next attempt reads. -/
def awaits : Stage → Option (Nat × Nat)
  | fresh => some (0, 0)
  | unknown => some (1, 2)
  | _ => none

/-- An attempt has begun. -/
def tried : Stage → Bool
  | fresh => false
  | _ => true

/-- The event of the row. -/
def event : Stage → Option String
  | ackedFirst e | ackedSecond e => some e
  | _ => none

/-- The stage after an attempt begins. -/
def begun : Stage → Stage
  | fresh => firstSending
  | unknown => secondSending
  | stage => stage

/-- The stage after a send. -/
def sent (outcome : Option String) : Stage → Stage
  | firstSending => firstSent outcome
  | secondSending => secondSent outcome
  | stage => stage

/-- The stage after the verdict on a send. -/
def judged : Stage → Stage
  | firstSent (some e) => ackedFirst e
  | firstSent none => unknown
  | secondSent (some e) => ackedSecond e
  | secondSent none => failed
  | stage => stage

end Stage

/-- An invocation between its attempt and its verdict. -/
def AcceptancePc.isBusy : AcceptancePc → Bool
  | .send _ _ | .finish _ _ _ => true
  | _ => false

def AcceptancePc.isDone : AcceptancePc → Bool
  | .done _ => true
  | _ => false

/-- How many calls an invocation has left: five for a round, and five more while the first
attempt may be its own. -/
def AcceptancePc.fuel (tried : Bool) : AcceptancePc → Nat
  | .reserve => if tried then 5 else 10
  | .readState => if tried then 4 else 9
  | .begin_ attempt _ => if attempt = 0 then 8 else 3
  | .send attempt _ => if attempt = 0 then 7 else 2
  | .finish attempt _ _ => if attempt = 0 then 6 else 1
  | .done _ => 0

/-- Reading a list of invocations in which one was replaced. -/
theorem getElem?_set_some {α : Type} {xs : List α} {i j : Nat} {x y b : α} (hi : xs[i]? = some x)
    (h : (xs.set i y)[j]? = some b) : (j = i ∧ b = y) ∨ (j ≠ i ∧ xs[j]? = some b) := by
  rw [List.getElem?_set] at h
  by_cases hij : i = j
  · subst hij
    have hlt : i < xs.length := (List.getElem?_eq_some_iff.mp hi).1
    rw [if_pos rfl, if_pos hlt] at h
    exact Or.inl ⟨rfl, (Option.some.inj h).symm⟩
  · rw [if_neg hij] at h
    exact Or.inr ⟨fun hji => hij hji.symm, h⟩

theorem getElem?_set_self {α : Type} {xs : List α} {i : Nat} {x y : α} (hi : xs[i]? = some x) :
    (xs.set i y)[i]? = some y := by
  have hlt : i < xs.length := (List.getElem?_eq_some_iff.mp hi).1
  rw [List.getElem?_set, if_pos rfl, if_pos hlt]

theorem getElem?_set_other {α : Type} {xs : List α} {i j : Nat} {y b : α} (hij : j ≠ i)
    (h : xs[j]? = some b) : (xs.set i y)[j]? = some b := by
  rw [List.getElem?_set, if_neg (fun hh => hij hh.symm), h]

theorem AcceptancePc.fuel_mono (pc : AcceptancePc) {t t' : Bool} (h : t = true → t' = true) :
    pc.fuel t' ≤ pc.fuel t := by
  cases pc <;> cases t <;> cases t' <;> simp_all [AcceptancePc.fuel]

theorem AcceptancePc.fuel_pos (pc : AcceptancePc) (tried : Bool) (h : pc.isDone = false) :
    0 < pc.fuel tried := by
  cases pc with
  | done result => cases h
  | _ =>
    simp only [AcceptancePc.fuel]
    split <;> decide

section

variable [Externals]

/-- The key of the delivery of the acceptance. -/
def acceptanceKey (inbound : GatewayEnvelope) : Uuid × Direction × String :=
  (acceptanceId inbound, .outbound, "matrix")

/-- The delivery row of a stage. -/
structure StageRow (route : MatrixRoute) (inbound : GatewayEnvelope) (stage : Stage)
    (d : GatewayDeliveryRow) : Prop where
  key : d.key = acceptanceKey inbound
  owner : d.owner_runtime = some route.runtime_instance
  txn : d.txn_id = some (acceptanceTxn inbound)
  room : d.room_id = route.room_id
  event : d.event_id = stage.event
  columns : (d.phase, d.attempt, d.owner_revision) = stage.columns

/-- The store holds the delivery at a stage, and its envelope. -/
structure Reserved (route : MatrixRoute) (inbound : GatewayEnvelope) (stage : Stage) (db : Db) :
    Prop where
  inv : GatewayInv db
  row : ∃ d, db.gatewayDeliveries.get (acceptanceKey inbound) = some d ∧
    StageRow route inbound stage d
  envelope : ∃ e, db.gatewayEnvelopes.get (acceptanceId inbound) = some e ∧
    e.canonical_json = (acceptance inbound).canonical

/-- The store would take the reservation. -/
structure Unreserved (route : MatrixRoute) (inbound : GatewayEnvelope) (db : Db) : Prop where
  inv : GatewayInv db
  free : db.envelopeFree
    ((acceptance inbound).outboundRow route.generation route.runtime_instance) = true
  check : ((acceptance inbound).outboundRow route.generation route.runtime_instance).check = true

variable {route : MatrixRoute} {inbound : GatewayEnvelope} {stage : Stage} {db : Db}

/-- A row that somebody owns under the identity of the acceptance is its delivery. -/
theorem key_of_owned (h : GatewayInv db) {x : GatewayDeliveryRow}
    (hx : x ∈ db.gatewayDeliveries.rows) {owner : String}
    (hid : x.envelope_id = acceptanceId inbound) (howner : x.owner_runtime = some owner) :
    x.key = acceptanceKey inbound := by
  rw [h.owned_key hx howner, hid]
  rfl

theorem StageRow.id {d : GatewayDeliveryRow} (h : StageRow route inbound stage d) :
    d.envelope_id = acceptanceId inbound ∧ d.direction = .outbound ∧
      d.transport = "matrix" := by
  have hkey := h.key
  simpa [GatewayDeliveryRow.key, acceptanceKey] using hkey

/-- An envelope that is reserved is not reserved again, and its delivery is found. -/
theorem Reserved.reserve (h : Reserved route inbound stage db) (thread_root : Option String) :
    reserveOutbound (acceptance inbound) route.room_id thread_root (acceptanceTxn inbound)
      route.generation route.runtime_instance db = (.ok false, db) := by
  obtain ⟨d, hd, hrow⟩ := h.row
  obtain ⟨e, he, hcanonical⟩ := h.envelope
  have htaken : db.envelopeFree
      ((acceptance inbound).outboundRow route.generation route.runtime_instance) = false := by
    rw [Db.envelopeFree, List.all_eq_false]
    refine ⟨e, Table.mem_of_get he, ?_⟩
    have hid : e.envelope_id = acceptanceId inbound := Table.key_of_get he
    intro hne
    exact (of_decide_eq_true hne).1 hid
  have hvalid : db.reservedAs (acceptance inbound) route.room_id (acceptanceTxn inbound) = 1 := by
    have hany : (db.gatewayEnvelopes.rows.any fun e =>
        decide (e.envelope_id = (acceptance inbound).envelope_id ∧
          e.canonical_json = (acceptance inbound).canonical)) = true :=
      List.any_eq_true.mpr ⟨e, Table.mem_of_get he, decide_eq_true
        ⟨Table.key_of_get he, hcanonical⟩⟩
    rw [Db.reservedAs, hany]
    refine (Table.affected_eq_one_iff (k := acceptanceKey inbound) ?_).mpr ⟨d, hd, ?_⟩
    · intro x hx
      have hx := of_decide_eq_true (Bool.and_eq_true_iff.mp hx).1
      show (x.envelope_id, x.direction, x.transport) = _
      rw [hx.1, hx.2.1, hx.2.2.1]
      rfl
    · rw [Bool.and_true]
      exact decide_eq_true ⟨hrow.id.1, hrow.id.2.1, hrow.id.2.2, hrow.txn, hrow.room⟩
  simp only [reserveOutbound, Tx.commit, Tx.bind_apply, Tx.read_apply, htaken, Bool.false_and,
    Bool.false_eq_true, if_false, hvalid, decide_true, Tx.require_true, Tx.pure_apply]

/-- The first reservation stores the envelope and its delivery. -/
theorem Unreserved.reserve (h : Unreserved route inbound db) (thread_root : Option String) :
    ∃ db', reserveOutbound (acceptance inbound) route.room_id thread_root
        (acceptanceTxn inbound) route.generation route.runtime_instance db = (.ok true, db') ∧
      Reserved route inbound .fresh db' := by
  obtain ⟨en, de, hen, hde, hres⟩ := reserveOutbound_stores h.inv route.room_id thread_root
    (acceptanceTxn inbound) h.free h.check
  refine ⟨_, hres, h.inv.step (.inserted _ _ hen hde rfl rfl rfl rfl nofun rfl), ?_, ?_⟩
  · exact ⟨_, (Table.insert_puts hde).2 _ |>.trans (if_pos rfl), rfl, rfl, rfl, rfl, rfl, rfl⟩
  · exact ⟨_, (Table.insert_puts hen).2 _ |>.trans (if_pos rfl), rfl⟩

theorem Reserved.outboundState (h : Reserved route inbound stage db) :
    outboundState (acceptanceId inbound) route.runtime_instance db = some stage.columns := by
  obtain ⟨d, hd, hrow⟩ := h.row
  have hfind : (db.gatewayDeliveries.rows.find? fun x =>
      decide (x.envelope_id = acceptanceId inbound ∧ x.direction = .outbound ∧
        x.owner_runtime = some route.runtime_instance)) = some d := by
    cases hf : db.gatewayDeliveries.rows.find? fun x =>
        decide (x.envelope_id = acceptanceId inbound ∧ x.direction = .outbound ∧
          x.owner_runtime = some route.runtime_instance) with
    | none =>
      have hno := List.find?_eq_none.mp hf d (Table.mem_of_get hd)
      exact absurd (decide_eq_true ⟨hrow.id.1, hrow.id.2.1, hrow.owner⟩) hno
    | some x =>
      have hx := List.find?_some hf
      simp only [decide_eq_true_eq] at hx
      have hmem := List.mem_of_find?_eq_some hf
      have hkey := key_of_owned h.inv hmem hx.1 hx.2.2
      rw [db.gatewayDeliveries.eq_of_key_eq hmem (Table.mem_of_get hd)
        (hkey.trans hrow.key.symm)]
  rw [GuiguBridge.outboundState, hfind]
  exact congrArg some hrow.columns

/-- A statement that finds the delivery moves it to the stage of the row it writes. -/
theorem Reserved.write {stage' : Stage} {p : GatewayDeliveryRow → Bool}
    {f : GatewayDeliveryRow → GatewayDeliveryRow} {check : GatewayDeliveryRow → Bool}
    {hf : ∀ d, (f d).key = d.key} (h : Reserved route inbound stage db)
    (howner : ∀ d, (f d).owner_runtime = d.owner_runtime)
    (hchecks : ∀ d, check d = true → d.check = true)
    (hid : ∀ d, p d = true → d.envelope_id = acceptanceId inbound ∧
      d.owner_runtime = some route.runtime_instance)
    (hrow : ∀ d, StageRow route inbound stage d →
      p d = true ∧ check (f d) = true ∧ StageRow route inbound stage' (f d)) :
    ∃ db', updateDelivery p f check hf db = (.ok true, db') ∧
      Reserved route inbound stage' db' := by
  obtain ⟨d, hd, hstage⟩ := h.row
  obtain ⟨hp, hcheck, hstage'⟩ := hrow d hstage
  have hkey : ∀ x ∈ db.gatewayDeliveries.rows, p x = true → x.key = d.key := by
    intro x hx hpx
    rw [hstage.key]
    exact key_of_owned h.inv hx (hid x hpx).1 (hid x hpx).2
  rw [← hstage.key] at hd
  obtain ⟨t, hupd, hputs⟩ := updateDelivery_hit hd hkey hp hcheck
  refine ⟨_, hupd, ?_, ?_, h.envelope⟩
  · have hstep : GatewayStep db (updateDelivery p f check hf db).2 :=
      updateDelivery_gatewayStep howner hchecks
    rw [hupd] at hstep
    exact h.inv.step hstep
  · refine ⟨f d, ?_, hstage'⟩
    rw [← hstage.key]
    exact (hputs d.key).trans (if_pos rfl)

theorem Reserved.begin_hit {a r : Nat} (h : Reserved route inbound stage db)
    (hawaits : stage.awaits = some (a, r)) :
    ∃ db', beginOutboundAttempt (acceptanceId inbound) route.runtime_instance r
        (expectedPhase a).column db = (.ok true, db') ∧
      Reserved route inbound stage.begun db' := by
  refine h.write (fun _ => rfl) (fun _ hc => hc) ?_ ?_
  · intro d hp
    have hp := of_decide_eq_true (Bool.and_eq_true_iff.mp hp).1
    exact ⟨hp.1, hp.2.1⟩
  · intro d hd
    obtain ⟨hid, hdir, htransport⟩ := hd.id
    have hcol := hd.columns
    have hevent := hd.event
    cases stage <;> cases hawaits <;>
    · simp only [Stage.columns, Prod.mk.injEq] at hcol
      obtain ⟨hphase, hattempt, hrev⟩ := hcol
      refine ⟨?_, ?_, hd.key, hd.owner, hd.txn, hd.room, hd.event, ?_⟩
      · simp [GatewayDeliveryRow.ownedAt, hid, hd.owner, hrev, hdir, hphase, hattempt,
          expectedPhase]
      · simp [GatewayDeliveryRow.check, hdir, hd.txn, hevent, hphase, hattempt, Stage.event,
          DeliveryPhase.hasEvent]
      · simp [Stage.begun, Stage.columns, hphase, hattempt, hrev]

/-- An attempt that another one has overtaken finds no row. -/
theorem Reserved.begin_miss {a r : Nat} (h : Reserved route inbound stage db)
    (hread : (a = 0 ∧ r = 0) ∨ (a = 1 ∧ r = 2)) (hawaits : stage.awaits ≠ some (a, r)) :
    beginOutboundAttempt (acceptanceId inbound) route.runtime_instance r
      (expectedPhase a).column db = (.ok false, db) := by
  obtain ⟨d, hd, hrow⟩ := h.row
  rw [← hrow.key] at hd
  refine updateDelivery_miss hd ?_ ?_
  · intro x hx hpx
    have hpx := of_decide_eq_true (Bool.and_eq_true_iff.mp hpx).1
    rw [hrow.key]
    exact key_of_owned h.inv hx hpx.1 hpx.2.1
  · have hcol := hrow.columns
    rcases hread with ⟨rfl, rfl⟩ | ⟨rfl, rfl⟩ <;> cases stage <;>
    · simp only [Stage.columns, Prod.mk.injEq] at hcol
      obtain ⟨hphase, hattempt, hrev⟩ := hcol
      first
      | exact absurd rfl hawaits
      | simp [GatewayDeliveryRow.ownedAt, hrev, hphase, expectedPhase, DeliveryPhase.column]

/-- The verdict of the invocation that holds the attempt is always stored. -/
theorem Reserved.finish {a r : Nat} {o : Option String} (h : Reserved route inbound stage db)
    (hbusy : stage.busy = some (.finish a r o)) :
    ∃ db', finishOutbound (acceptanceId inbound) route.runtime_instance (r + 1)
        (match o with
          | some _ => DeliveryPhase.transportAcked
          | none => failurePhase a).column o db = (.ok true, db') ∧
      Reserved route inbound stage.judged db' := by
  refine h.write (fun _ => rfl) (fun _ hc => GatewayDeliveryRow.check_of_checkPhase hc) ?_ ?_
  · intro d hp
    have hp := of_decide_eq_true (Bool.and_eq_true_iff.mp hp).1
    exact ⟨hp.1, hp.2.1⟩
  · intro d hd
    obtain ⟨hid, hdir, htransport⟩ := hd.id
    have hcol := hd.columns
    have hevent := hd.event
    cases stage <;> cases hbusy <;> cases o <;>
    · simp only [Stage.columns, Prod.mk.injEq] at hcol
      obtain ⟨hphase, hattempt, hrev⟩ := hcol
      refine ⟨?_, ?_, hd.key, hd.owner, hd.txn, hd.room, ?_, ?_⟩
      · simp [GatewayDeliveryRow.ownedAt, hid, hd.owner, hrev, hdir]
      · simp [GatewayDeliveryRow.checkPhase, GatewayDeliveryRow.check,
          GatewayDeliveryRow.setPhase, DeliveryPhase.ofColumn_column, failurePhase, hdir,
          hd.txn, hevent, hattempt, Stage.event, DeliveryPhase.hasEvent]
      · simp [hevent, Stage.event, Stage.judged]
      · simp [GatewayDeliveryRow.setPhase, DeliveryPhase.ofColumn_column, failurePhase,
          Stage.judged, Stage.columns, hattempt, hrev]

/-! ### The joint invariant -/

/-- An invocation that will make the attempt with this reading, if nobody is faster. -/
def AcceptancePc.drives (a r : Nat) (pc : AcceptancePc) : Prop :=
  pc = .reserve ∨ pc = .readState ∨ pc = .begin_ a r

/-- The world at a stage: its store, its sends, and its invocations. -/
structure StageInv (route : MatrixRoute) (inbound : GatewayEnvelope) (w : AcceptanceWorld)
    (stage : Stage) (holder : Option Nat) : Prop where
  store : Reserved route inbound stage w.db
  sent : w.sent.map (·.outcome) = stage.outcomes
  /-- **Only one invocation is ever between its attempt and its verdict.** -/
  busy : ∀ (i : Nat) inv, w.invocations[i]? = some inv → inv.pc.isBusy = true →
    holder = some i ∧ stage.busy = some inv.pc
  held : ∀ pc, stage.busy = some pc →
    ∃ (i : Nat) (inv : _), holder = some i ∧ w.invocations[i]? = some inv ∧ inv.pc = pc
  begun : ∀ (i : Nat) inv a r, w.invocations[i]? = some inv → inv.pc = .begin_ a r →
    (a = 0 ∧ r = 0) ∨ (a = 1 ∧ r = 2)
  /-- An attempt that is due has an invocation that will make it. -/
  driven : ∀ a r, stage.awaits = some (a, r) →
    ∃ (i : Nat) (inv : _), w.invocations[i]? = some inv ∧ inv.pc.drives a r
  bounded : ∀ (i : Nat) inv, w.invocations[i]? = some inv → inv.pc.isDone = false →
    inv.steps + inv.pc.fuel stage.tried ≤ 10

/-- The joint invariant of delivery and invocations. -/
inductive AcceptanceInv (route : MatrixRoute) (inbound : GatewayEnvelope)
    (w : AcceptanceWorld) : Prop where
  | unreserved (hstore : Unreserved route inbound w.db) (hsent : w.sent = [])
      (hpcs : ∀ (i : Nat) inv, w.invocations[i]? = some inv → inv.pc = .reserve ∧ inv.steps = 0)
  | staged (stage : Stage) (holder : Option Nat) (h : StageInv route inbound w stage holder)

variable {w : AcceptanceWorld} {holder : Option Nat}

/-- An invocation that is not between attempt and verdict makes a call that leaves the
delivery where it is. -/
theorem StageInv.quiet (h : StageInv route inbound w stage holder) {i : Nat} {inv : Invocation}
    {pc : AcceptancePc} (hi : w.invocations[i]? = some inv) (hquiet : inv.pc.isBusy = false)
    (hquiet' : pc.isBusy = false)
    (hbegun : ∀ a r, pc = .begin_ a r → (a = 0 ∧ r = 0) ∨ (a = 1 ∧ r = 2))
    (hdrives : ∀ a r, stage.awaits = some (a, r) → inv.pc.drives a r → pc.drives a r)
    (hfuel : pc.isDone = false →
      inv.pc.isDone = false ∧ pc.fuel stage.tried + 1 ≤ inv.pc.fuel stage.tried) :
    StageInv route inbound
      { db := w.db, sent := w.sent,
        invocations := w.invocations.set i ⟨inv.thread_root, pc, inv.steps + 1⟩ }
      stage holder where
  store := h.store
  sent := h.sent
  busy := by
    intro j x hx hbusy
    rcases getElem?_set_some hi hx with ⟨rfl, rfl⟩ | ⟨-, hx⟩
    · rw [hquiet'] at hbusy
      cases hbusy
    · exact h.busy j x hx hbusy
  held := by
    intro p hp
    obtain ⟨j, x, hholder, hx, rfl⟩ := h.held p hp
    have hij : j ≠ i := by
      rintro rfl
      rw [hi] at hx
      cases hx
      have hnone : ∀ q : AcceptancePc, q.isBusy = false → stage.busy ≠ some q := by
        intro q hq
        cases stage <;> simp only [Stage.busy] <;> intro hh <;> cases hh <;> cases hq
      exact hnone inv.pc hquiet hp
    exact ⟨j, x, hholder, getElem?_set_other hij hx, rfl⟩
  begun := by
    intro j x a r hx hpc
    rcases getElem?_set_some hi hx with ⟨rfl, rfl⟩ | ⟨-, hx⟩
    · exact hbegun a r hpc
    · exact h.begun j x a r hx hpc
  driven := by
    intro a r hawaits
    obtain ⟨j, x, hx, hdrive⟩ := h.driven a r hawaits
    by_cases hij : j = i
    · subst hij
      rw [hi] at hx
      cases hx
      exact ⟨j, _, getElem?_set_self hi, hdrives a r hawaits hdrive⟩
    · exact ⟨j, x, getElem?_set_other hij hx, hdrive⟩
  bounded := by
    intro j x hx hdone
    rcases getElem?_set_some hi hx with ⟨rfl, rfl⟩ | ⟨-, hx⟩
    · obtain ⟨hopen, hless⟩ := hfuel hdone
      have hbound := h.bounded j inv hi hopen
      show inv.steps + 1 + pc.fuel stage.tried ≤ 10
      omega
    · exact h.bounded j x hx hdone

/-- The invocation that takes, holds or gives up the attempt moves the delivery. -/
theorem StageInv.act (h : StageInv route inbound w stage holder) {i : Nat} {inv : Invocation}
    {pc : AcceptancePc} {stage' : Stage} {db' : Db} {more : List Sent}
    (hi : w.invocations[i]? = some inv) (hstore : Reserved route inbound stage' db')
    (hsent : (w.sent ++ more).map (·.outcome) = stage'.outcomes)
    (hsole : ∀ (j : Nat) x, j ≠ i → w.invocations[j]? = some x → x.pc.isBusy = false)
    (hbusy : stage'.busy = if pc.isBusy then some pc else none)
    (hbegun : ∀ a r, pc ≠ .begin_ a r)
    (hdrives : ∀ a r, stage'.awaits = some (a, r) → pc.drives a r)
    (htried : stage.tried = true → stage'.tried = true) (hopen : inv.pc.isDone = false)
    (hfuel : pc.fuel stage'.tried + 1 ≤ inv.pc.fuel stage.tried) :
    StageInv route inbound
      { db := db', sent := w.sent ++ more,
        invocations := w.invocations.set i ⟨inv.thread_root, pc, inv.steps + 1⟩ }
      stage' (some i) where
  store := hstore
  sent := hsent
  busy := by
    intro j x hx hb
    rcases getElem?_set_some hi hx with ⟨rfl, rfl⟩ | ⟨hij, hx⟩
    · exact ⟨rfl, hbusy.trans (if_pos hb)⟩
    · rw [hsole j x hij hx] at hb
      cases hb
  held := by
    intro p hp
    rw [hbusy] at hp
    by_cases hb : pc.isBusy = true
    · rw [if_pos hb] at hp
      exact ⟨i, _, rfl, getElem?_set_self hi, Option.some.inj hp⟩
    · rw [if_neg hb] at hp
      cases hp
  begun := by
    intro j x a r hx hpc
    rcases getElem?_set_some hi hx with ⟨rfl, rfl⟩ | ⟨-, hx⟩
    · exact absurd hpc (hbegun a r)
    · exact h.begun j x a r hx hpc
  driven := fun a r hawaits => ⟨i, _, getElem?_set_self hi, hdrives a r hawaits⟩
  bounded := by
    intro j x hx hdone
    rcases getElem?_set_some hi hx with ⟨rfl, rfl⟩ | ⟨-, hx⟩
    · have hbound := h.bounded j inv hi hopen
      show inv.steps + 1 + pc.fuel stage'.tried ≤ 10
      omega
    · have hbound := h.bounded j x hx hdone
      have hmono := x.pc.fuel_mono htried
      omega

/-- No invocation but the one at `i` is between attempt and verdict. -/
theorem StageInv.sole (h : StageInv route inbound w stage holder) {i : Nat}
    (hholder : stage.busy = none ∨ holder = some i) (j : Nat) (x : Invocation) (hij : j ≠ i)
    (hx : w.invocations[j]? = some x) : x.pc.isBusy = false := by
  cases hb : x.pc.isBusy with
  | false => rfl
  | true =>
    obtain ⟨hj, hpc⟩ := h.busy j x hx hb
    rcases hholder with hnone | hi
    · rw [hnone] at hpc
      cases hpc
    · rw [hi] at hj
      exact absurd (Option.some.inj hj).symm hij

omit [Externals] in
/-- What reading the state leads to, stage by stage. -/
theorem afterState_columns (stage : Stage) :
    (∀ a r, afterState (some stage.columns) = .begin_ a r →
      (a = 0 ∧ r = 0 ∧ stage.tried = false) ∨ (a = 1 ∧ r = 2)) ∧
    (∀ a r, stage.awaits = some (a, r) → afterState (some stage.columns) = .begin_ a r) ∧
    (afterState (some stage.columns)).isBusy = false ∧
    ((afterState (some stage.columns)).isDone = false →
      (afterState (some stage.columns)).fuel stage.tried + 1 ≤
        AcceptancePc.readState.fuel stage.tried) := by
  cases stage <;>
    simp [afterState, Stage.columns, Stage.awaits, Stage.tried, AcceptancePc.isBusy,
      AcceptancePc.isDone, AcceptancePc.fuel]

/-- **Every call of every invocation keeps the invariant.** -/
theorem StageInv.advance (h : StageInv route inbound w stage holder) {i : Nat}
    {inv : Invocation} (hi : w.invocations[i]? = some inv) (outcome : Option String) :
    ∃ stage' holder', StageInv route inbound
      (w.move route inbound (.advance i outcome)) stage' holder' := by
  simp only [AcceptanceWorld.move, hi]
  cases hpc : inv.pc with
  | reserve =>
    simp only [AcceptancePc.advance, h.store.reserve inv.thread_root, List.append_nil]
    refine ⟨stage, holder, h.quiet hi (by rw [hpc]; rfl) rfl (by simp) ?_ ?_⟩
    · intro a r _ _
      exact Or.inr (Or.inl rfl)
    · intro _
      rw [hpc]
      exact ⟨rfl, by cases stage.tried <;> decide⟩
  | readState =>
    simp only [AcceptancePc.advance, h.store.outboundState, List.append_nil]
    obtain ⟨hbegin, hawaits, hbusy, hfuel⟩ := afterState_columns stage
    refine ⟨stage, holder, h.quiet hi (by rw [hpc]; rfl) hbusy ?_ ?_ ?_⟩
    · intro a r hread
      rcases hbegin a r hread with ⟨ha, hr, -⟩ | hread
      · exact Or.inl ⟨ha, hr⟩
      · exact Or.inr hread
    · intro a r hw _
      exact Or.inr (Or.inr (hawaits a r hw))
    · intro hopen
      rw [hpc]
      exact ⟨rfl, hfuel hopen⟩
  | begin_ a r =>
    have hread := h.begun i inv a r hi hpc
    by_cases hawaits : stage.awaits = some (a, r)
    · obtain ⟨db', hbegin, hstore⟩ := h.store.begin_hit hawaits
      simp only [AcceptancePc.advance, hbegin]
      refine ⟨stage.begun, some i, h.act hi hstore ?_ (h.sole (Or.inl ?_)) ?_ (by simp) ?_ ?_ ?_ ?_⟩
      · rw [List.append_nil, h.sent]
        cases stage <;> cases hawaits <;> rfl
      · cases stage <;> cases hawaits <;> rfl
      · cases stage <;> cases hawaits <;> rfl
      · cases stage <;> cases hawaits <;> rintro _ _ ⟨⟩
      · cases stage <;> cases hawaits <;> simp [Stage.begun, Stage.tried]
      · rw [hpc]
        rfl
      · rw [hpc]
        cases stage <;> cases hawaits <;> decide
    · simp only [AcceptancePc.advance, h.store.begin_miss hread hawaits, List.append_nil]
      refine ⟨stage, holder, h.quiet hi (by rw [hpc]; rfl) rfl (by simp) ?_ (by rintro ⟨⟩)⟩
      intro a' r' hw hdrive
      rw [hpc] at hdrive
      rcases hdrive with hd | hd | hd
      · cases hd
      · cases hd
      · cases hd
        exact absurd hw hawaits
  | send a r =>
    obtain ⟨hholder, hbusy⟩ := h.busy i inv hi (by rw [hpc]; rfl)
    rw [hpc] at hbusy
    simp only [AcceptancePc.advance]
    have hstore : Reserved route inbound (stage.sent outcome) w.db := by
      obtain ⟨d, hd, hrow⟩ := h.store.row
      refine ⟨h.store.inv, ⟨d, hd, hrow.key, hrow.owner, hrow.txn, hrow.room, ?_, ?_⟩,
        h.store.envelope⟩
      · rw [hrow.event]
        cases stage <;> cases hbusy <;> rfl
      · rw [hrow.columns]
        cases stage <;> cases hbusy <;> rfl
    refine ⟨stage.sent outcome, some i,
      h.act hi hstore ?_ (h.sole (Or.inr hholder)) ?_ (by simp) ?_ ?_ ?_ ?_⟩
    · rw [List.map_append, h.sent]
      cases stage <;> cases hbusy <;> rfl
    · cases stage <;> cases hbusy <;> rfl
    · cases stage <;> cases hbusy <;> rintro _ _ ⟨⟩
    · cases stage <;> cases hbusy <;> simp [Stage.sent, Stage.tried]
    · rw [hpc]
      rfl
    · rw [hpc]
      cases stage <;> cases hbusy <;> simp [AcceptancePc.fuel]
  | finish a r o =>
    obtain ⟨hholder, hbusy⟩ := h.busy i inv hi (by rw [hpc]; rfl)
    rw [hpc] at hbusy
    obtain ⟨db', hfinish, hstore⟩ := h.store.finish hbusy
    simp only [AcceptancePc.advance, hfinish]
    refine ⟨stage.judged, some i,
      h.act hi hstore ?_ (h.sole (Or.inr hholder)) ?_ ?_ ?_ ?_ ?_ ?_⟩
    · rw [List.append_nil, h.sent]
      cases stage <;> cases hbusy <;> cases o <;> rfl
    · cases stage <;> cases hbusy <;> cases o <;> rfl
    · intro a' r'
      cases stage <;> cases hbusy <;> cases o <;> rintro ⟨⟩
    · intro a' r' hw
      cases stage <;> cases hbusy <;> cases o <;>
        simp [Stage.judged, Stage.awaits, afterFinish, AcceptancePc.drives] at hw ⊢
    · cases stage <;> cases hbusy <;> cases o <;> simp [Stage.judged, Stage.tried]
    · rw [hpc]
      rfl
    · rw [hpc]
      cases stage <;> cases hbusy <;> cases o <;>
        simp [AcceptancePc.fuel, afterFinish, Stage.judged, Stage.tried]
  | done result =>
    simp only [AcceptancePc.advance, List.append_nil]
    refine ⟨stage, holder, h.quiet hi (by rw [hpc]; rfl) rfl (by simp) ?_ (by rintro ⟨⟩)⟩
    intro a r _ hdrive
    rw [hpc] at hdrive
    rcases hdrive with hd | hd | hd <;> cases hd

theorem Reserved.congr {db' : Db} (h : Reserved route inbound stage db)
    (henvelopes : db'.gatewayEnvelopes = db.gatewayEnvelopes)
    (hdeliveries : db'.gatewayDeliveries = db.gatewayDeliveries)
    (hartifacts : db'.gatewayArtifacts = db.gatewayArtifacts) :
    Reserved route inbound stage db' where
  inv := h.inv.congr henvelopes hdeliveries hartifacts
  row := by rw [hdeliveries]; exact h.row
  envelope := by rw [henvelopes]; exact h.envelope

theorem Unreserved.congr {db' : Db} (h : Unreserved route inbound db)
    (henvelopes : db'.gatewayEnvelopes = db.gatewayEnvelopes)
    (hdeliveries : db'.gatewayDeliveries = db.gatewayDeliveries)
    (hartifacts : db'.gatewayArtifacts = db.gatewayArtifacts) : Unreserved route inbound db' where
  inv := h.inv.congr henvelopes hdeliveries hartifacts
  free := by rw [Db.envelopeFree, henvelopes]; exact h.free
  check := h.check

omit [Externals] in
/-- An invocation that starts waits before its first call. -/
theorem getElem?_start {w : AcceptanceWorld} {thread_root : Option String} {j : Nat}
    {x : Invocation}
    (h : (w.invocations ++ [⟨thread_root, .reserve, 0⟩])[j]? = some x) :
    w.invocations[j]? = some x ∨ x = ⟨thread_root, .reserve, 0⟩ := by
  rw [List.getElem?_append] at h
  split at h
  · exact Or.inl h
  · have hmem := List.mem_of_getElem? h
    exact Or.inr (List.mem_singleton.mp hmem)

theorem StageInv.start (h : StageInv route inbound w stage holder)
    (thread_root : Option String) :
    StageInv route inbound (w.move route inbound (.start thread_root)) stage holder where
  store := h.store
  sent := h.sent
  busy := by
    intro j x hx hb
    rcases getElem?_start hx with hx | rfl
    · exact h.busy j x hx hb
    · cases hb
  held := by
    intro pc hpc
    obtain ⟨j, x, hholder, hx, rfl⟩ := h.held pc hpc
    have hlt : j < w.invocations.length := (List.getElem?_eq_some_iff.mp hx).1
    exact ⟨j, x, hholder, (List.getElem?_append_left hlt).trans hx, rfl⟩
  begun := by
    intro j x a r hx hpc
    rcases getElem?_start hx with hx | rfl
    · exact h.begun j x a r hx hpc
    · cases hpc
  driven := by
    intro a r hawaits
    obtain ⟨j, x, hx, hdrive⟩ := h.driven a r hawaits
    have hlt : j < w.invocations.length := (List.getElem?_eq_some_iff.mp hx).1
    exact ⟨j, x, (List.getElem?_append_left hlt).trans hx, hdrive⟩
  bounded := by
    intro j x hx hopen
    rcases getElem?_start hx with hx | rfl
    · exact h.bounded j x hx hopen
    · show 0 + AcceptancePc.fuel stage.tried .reserve ≤ 10
      cases stage.tried <;> decide

/-- The first call of all stores the reservation. -/
theorem AcceptanceInv.reserve (hstore : Unreserved route inbound w.db) (hsent : w.sent = [])
    (hpcs : ∀ (i : Nat) inv, w.invocations[i]? = some inv → inv.pc = .reserve ∧ inv.steps = 0)
    {i : Nat} {inv : Invocation} (hi : w.invocations[i]? = some inv) (outcome : Option String) :
    AcceptanceInv route inbound (w.move route inbound (.advance i outcome)) := by
  obtain ⟨db', hreserve, hreserved⟩ := hstore.reserve inv.thread_root
  simp only [AcceptanceWorld.move, hi, (hpcs i inv hi).1, AcceptancePc.advance, hreserve, hsent]
  refine .staged .fresh none
    { store := hreserved
      sent := rfl
      busy := ?_
      held := by rintro _ ⟨⟩
      begun := ?_
      driven := ?_
      bounded := ?_ }
  · intro j x hx hb
    rcases getElem?_set_some hi hx with ⟨rfl, rfl⟩ | ⟨-, hx⟩
    · cases hb
    · rw [(hpcs j x hx).1] at hb
      cases hb
  · intro j x a r hx hpc
    rcases getElem?_set_some hi hx with ⟨rfl, rfl⟩ | ⟨-, hx⟩
    · cases hpc
    · rw [(hpcs j x hx).1] at hpc
      cases hpc
  · intro a r _
    exact ⟨i, _, getElem?_set_self hi, Or.inr (Or.inl rfl)⟩
  · intro j x hx _
    rcases getElem?_set_some hi hx with ⟨rfl, rfl⟩ | ⟨-, hx⟩
    · show inv.steps + 1 + 9 ≤ 10
      rw [(hpcs j inv hi).2]
    · obtain ⟨hpc, hsteps⟩ := hpcs j x hx
      rw [hpc, hsteps]
      decide

/-- **Every move keeps the invariant.** -/
theorem AcceptanceInv.move (h : AcceptanceInv route inbound w) (m : AcceptanceMove) :
    AcceptanceInv route inbound (w.move route inbound m) := by
  cases m with
  | start thread_root =>
    cases h with
    | unreserved hstore hsent hpcs =>
      refine .unreserved hstore hsent ?_
      intro j x hx
      rcases getElem?_start hx with hx | rfl
      · exact hpcs j x hx
      · exact ⟨rfl, rfl⟩
    | staged stage holder h => exact .staged stage holder (h.start thread_root)
  | advance i outcome =>
    cases hi : w.invocations[i]? with
    | none =>
      simp only [AcceptanceWorld.move, hi]
      exact h
    | some inv =>
      cases h with
      | unreserved hstore hsent hpcs => exact AcceptanceInv.reserve hstore hsent hpcs hi outcome
      | staged stage holder h =>
        obtain ⟨stage', holder', h'⟩ := h.advance hi outcome
        exact .staged stage' holder' h'
  | elsewhere other =>
    cases h with
    | unreserved hstore hsent hpcs =>
      exact .unreserved (hstore.congr rfl rfl rfl) hsent hpcs
    | staged stage holder h =>
      exact .staged stage holder
        { store := h.store.congr rfl rfl rfl, sent := h.sent, busy := h.busy, held := h.held,
          begun := h.begun, driven := h.driven, bounded := h.bounded }

/-! ### What was sent -/

/-- The threads that the callers name. -/
def threadRoots (moves : List AcceptanceMove) : List (Option String) :=
  moves.filterMap fun
    | .start thread_root => some thread_root
    | _ => none

/-- Every send carries the transaction and the envelope of the acceptance, in the thread of the
invocation that made it. -/
structure SentInv (route : MatrixRoute) (inbound : GatewayEnvelope)
    (roots : List (Option String)) (w : AcceptanceWorld) : Prop where
  named : ∀ inv ∈ w.invocations, inv.thread_root ∈ roots
  sent : ∀ s ∈ w.sent, s.room_id = route.room_id ∧ s.txn_id = acceptanceTxn inbound ∧
    ∃ root ∈ roots, s.content = encodeContent (acceptance inbound) root

/-- What a call sends, if it sends anything. -/
theorem mem_advance_sent {pc : AcceptancePc} {root outcome : Option String} {s : Sent}
    (hs : s ∈ (pc.advance route inbound root outcome db).2.2) :
    s = ⟨route.room_id, acceptanceTxn inbound, encodeContent (acceptance inbound) root,
      outcome⟩ := by
  cases pc with
  | send a r => exact List.mem_singleton.mp hs
  | _ => cases hs

theorem SentInv.move {moves : List AcceptanceMove} (m : AcceptanceMove)
    (h : SentInv route inbound (threadRoots moves) w) :
    SentInv route inbound (threadRoots (moves ++ [m])) (w.move route inbound m) := by
  have hroots : ∀ root ∈ threadRoots moves, root ∈ threadRoots (moves ++ [m]) := by
    intro root hroot
    rw [threadRoots, List.filterMap_append]
    exact List.mem_append_left _ hroot
  have hsent : ∀ s ∈ w.sent, s.room_id = route.room_id ∧ s.txn_id = acceptanceTxn inbound ∧
      ∃ root ∈ threadRoots (moves ++ [m]),
        s.content = encodeContent (acceptance inbound) root := by
    intro s hs
    obtain ⟨hroom, htxn, root, hroot, hcontent⟩ := h.sent s hs
    exact ⟨hroom, htxn, root, hroots root hroot, hcontent⟩
  cases m with
  | start thread_root =>
    refine ⟨?_, hsent⟩
    intro inv hinv
    rcases List.mem_append.mp hinv with hinv | hinv
    · exact hroots _ (h.named inv hinv)
    · rw [List.mem_singleton.mp hinv, threadRoots, List.filterMap_append]
      exact List.mem_append_right _ (List.mem_singleton.mpr rfl)
  | advance i outcome =>
    cases hi : w.invocations[i]? with
    | none =>
      simp only [AcceptanceWorld.move, hi]
      exact ⟨fun inv hinv => hroots _ (h.named inv hinv), hsent⟩
    | some inv =>
      have hroot := hroots _ (h.named inv (List.mem_of_getElem? hi))
      simp only [AcceptanceWorld.move, hi]
      refine ⟨?_, ?_⟩
      · intro x hx
        rcases List.mem_or_eq_of_mem_set hx with hx | rfl
        · exact hroots _ (h.named x hx)
        · exact hroot
      · intro s hs
        rcases List.mem_append.mp hs with hs | hs
        · exact hsent s hs
        · rw [mem_advance_sent hs]
          exact ⟨rfl, rfl, inv.thread_root, hroot, rfl⟩
  | elsewhere other => exact ⟨fun inv hinv => hroots _ (h.named inv hinv), hsent⟩

theorem acceptanceRun_snoc (moves : List AcceptanceMove) (m : AcceptanceMove) :
    acceptanceRun route inbound db (moves ++ [m]) =
      (acceptanceRun route inbound db moves).move route inbound m := by
  simp [acceptanceRun, List.foldl_append]

theorem acceptanceRun_sent (moves : List AcceptanceMove) :
    SentInv route inbound (threadRoots moves) (acceptanceRun route inbound db moves) := by
  induction moves using List.reverseRecOn with
  | nil =>
    refine ⟨?_, ?_⟩
    · intro inv hinv
      cases hinv
    · intro s hs
      cases hs
  | append_singleton moves m ih =>
    rw [acceptanceRun_snoc]
    exact ih.move m

/-! ### Whole runs -/

theorem Unreserved.of_reserve {calls : List GatewayCall} {root : Option String}
    (h : (reserveOutbound (acceptance inbound) route.room_id root (acceptanceTxn inbound)
      route.generation route.runtime_instance (gatewayRun calls)).1 = .ok true) :
    Unreserved route inbound (gatewayRun calls) := by
  rcases reserveOutbound_cases (Prod.mk.eta (p := reserveOutbound (acceptance inbound)
    route.room_id root (acceptanceTxn inbound) route.generation route.runtime_instance
    (gatewayRun calls))).symm with ⟨-, hne⟩ | ⟨-, hfree, hcheck, -, -, -⟩
  · exact absurd h hne
  · exact ⟨gatewayRun_inv calls, hfree, hcheck⟩

theorem acceptanceRun_inv (hstore : Unreserved route inbound db) (moves : List AcceptanceMove) :
    AcceptanceInv route inbound (acceptanceRun route inbound db moves) := by
  refine foldl_invariant (AcceptanceInv route inbound) (fun w m h => h.move m) moves ?_
  exact .unreserved hstore rfl (fun i inv hi => by cases hi)

omit [Externals] in
/-- An attempt has at most one retry. -/
theorem Stage.outcomes_length (stage : Stage) : stage.outcomes.length ≤ 2 := by
  cases stage <;> simp [Stage.outcomes]

omit [Externals] in
/-- A delivery that nobody is at and nobody is due to has its verdict. -/
theorem Stage.settled (stage : Stage) (hbusy : stage.busy = none) (hawaits : stage.awaits = none) :
    stage.columns.1 =
      if stage.outcomes.any (·.isSome) then .transportAcked else .recoveryNeeded := by
  cases stage <;> simp_all [Stage.busy, Stage.awaits, Stage.columns, Stage.outcomes]

/-- With every invocation at its end, the delivery has its verdict. -/
theorem StageInv.settled (h : StageInv route inbound w stage holder)
    (hdone : ∀ inv ∈ w.invocations, inv.pc.isDone = true) :
    stage.busy = none ∧ stage.awaits = none := by
  constructor
  · cases hbusy : stage.busy with
    | none => rfl
    | some pc =>
      obtain ⟨i, inv, -, hi, hpc⟩ := h.held pc hbusy
      have hend := hdone inv (List.mem_of_getElem? hi)
      rw [hpc] at hend
      cases stage <;> cases hbusy <;> cases hend
  · cases hawaits : stage.awaits with
    | none => rfl
    | some ar =>
      obtain ⟨i, inv, hi, hdrives⟩ := h.driven ar.1 ar.2 hawaits
      have hend := hdone inv (List.mem_of_getElem? hi)
      rcases hdrives with hpc | hpc | hpc <;> rw [hpc] at hend <;> cases hend

/-- The statement about whole runs: at most two sends under one transaction, in the thread of
the invocation that made them; an invocation is at its end after ten calls; and with every
invocation at its end, the delivery is acknowledged if a send was, and given up otherwise. -/
structure AcceptanceDelivered (route : MatrixRoute) (inbound : GatewayEnvelope)
    (moves : List AcceptanceMove) (w : AcceptanceWorld) : Prop where
  sends : w.sent.length ≤ 2
  identical : ∀ s ∈ w.sent, s.room_id = route.room_id ∧ s.txn_id = acceptanceTxn inbound ∧
    ∃ root ∈ threadRoots moves, s.content = encodeContent (acceptance inbound) root
  same_thread : (∀ a ∈ threadRoots moves, ∀ b ∈ threadRoots moves, a = b) →
    ∀ s ∈ w.sent, ∀ s' ∈ w.sent, s.content = s'.content
  terminates : ∀ inv ∈ w.invocations, 10 ≤ inv.steps → inv.pc.isDone = true
  settled : w.invocations ≠ [] → (∀ inv ∈ w.invocations, inv.pc.isDone = true) →
    ∃ d, w.db.gatewayDeliveries.get (acceptanceKey inbound) = some d ∧
      d.phase = if w.sent.any (·.outcome.isSome) then .transportAcked else .recoveryNeeded

theorem StageInv.delivered (h : StageInv route inbound w stage holder)
    (hdone : ∀ inv ∈ w.invocations, inv.pc.isDone = true) :
    ∃ d, w.db.gatewayDeliveries.get (acceptanceKey inbound) = some d ∧
      d.phase = if w.sent.any (·.outcome.isSome) then .transportAcked else .recoveryNeeded := by
  obtain ⟨d, hd, hrow⟩ := h.store.row
  obtain ⟨hbusy, hawaits⟩ := h.settled hdone
  refine ⟨d, hd, ?_⟩
  have hphase : d.phase = stage.columns.1 := congrArg Prod.fst hrow.columns
  have hany : w.sent.any (·.outcome.isSome) = stage.outcomes.any (·.isSome) := by
    rw [← h.sent, List.any_map]
    rfl
  rw [hphase, hany]
  exact stage.settled hbusy hawaits

/-- The lengths of the lists of sends and of outcomes agree. -/
theorem StageInv.sends (h : StageInv route inbound w stage holder) : w.sent.length ≤ 2 := by
  have hlength := congrArg List.length h.sent
  rw [List.length_map] at hlength
  rw [hlength]
  exact stage.outcomes_length

/-- Ten calls leave no fuel. -/
theorem StageInv.terminates (h : StageInv route inbound w stage holder) {inv : Invocation}
    (hinv : inv ∈ w.invocations) (hsteps : 10 ≤ inv.steps) : inv.pc.isDone = true := by
  obtain ⟨i, hi⟩ := List.mem_iff_getElem?.mp hinv
  cases hdone : inv.pc.isDone with
  | true => rfl
  | false =>
    have hbound := h.bounded i inv hi hdone
    have hfuel := inv.pc.fuel_pos stage.tried hdone
    omega

/-- **However many invocations answer one request, in whatever order their calls fall and
whatever the sender answers, the acceptance is sent at most twice under one transaction, and
its delivery ends acknowledged or given up.** -/
theorem acceptance_delivery (route : MatrixRoute) (inbound : GatewayEnvelope)
    (calls : List GatewayCall) (root : Option String)
    (hstore : (reserveOutbound (acceptance inbound) route.room_id root (acceptanceTxn inbound)
      route.generation route.runtime_instance (gatewayRun calls)).1 = .ok true)
    (moves : List AcceptanceMove) :
    AcceptanceDelivered route inbound moves
      (acceptanceRun route inbound (gatewayRun calls) moves) := by
  have hinv := acceptanceRun_inv (Unreserved.of_reserve hstore) moves
  have hsent : SentInv route inbound (threadRoots moves)
      (acceptanceRun route inbound (gatewayRun calls) moves) := acceptanceRun_sent moves
  generalize acceptanceRun route inbound (gatewayRun calls) moves = w at hinv hsent
  refine
    { sends := ?_
      identical := hsent.sent
      same_thread := ?_
      terminates := ?_
      settled := ?_ }
  · cases hinv with
    | unreserved _ hnone _ =>
      rw [hnone]
      exact Nat.zero_le 2
    | staged stage holder h => exact h.sends
  · intro hone s hs s' hs'
    obtain ⟨-, -, a, ha, hcontent⟩ := hsent.sent s hs
    obtain ⟨-, -, b, hb, hcontent'⟩ := hsent.sent s' hs'
    rw [hcontent, hcontent', hone a ha b hb]
  · intro inv hmem hsteps
    cases hinv with
    | unreserved _ _ hpcs =>
      obtain ⟨i, hi⟩ := List.mem_iff_getElem?.mp hmem
      have hzero := (hpcs i inv hi).2
      omega
    | staged stage holder h => exact h.terminates hmem hsteps
  · intro hsome hdone
    cases hinv with
    | unreserved _ _ hpcs =>
      -- an invocation that has started has made its first call
      obtain ⟨inv, hmem⟩ := List.exists_mem_of_ne_nil _ hsome
      obtain ⟨i, hi⟩ := List.mem_iff_getElem?.mp hmem
      have hend := hdone inv hmem
      rw [(hpcs i inv hi).1] at hend
      cases hend
    | staged stage holder h => exact h.delivered hdone

/-! ### Two threads -/

/-- The sender fails once and the first caller goes no further; the request comes again in
another thread. -/
def twoThreads (a b : String) : List AcceptanceMove :=
  .start (some a) :: List.replicate 5 (.advance 0 none) ++
    .start (some b) :: List.replicate 4 (.advance 1 none)

/-- What is read and sent does not ask whether the attempt has its answer yet. -/
theorem Reserved.afterSend (h : Reserved route inbound .firstSending db) :
    Reserved route inbound (.firstSent none) db := by
  obtain ⟨d, hd, hrow⟩ := h.row
  exact ⟨h.inv, ⟨d, hd, hrow.key, hrow.owner, hrow.txn, hrow.room, hrow.event, hrow.columns⟩,
    h.envelope⟩

/-- The second caller makes the second attempt, and names its own thread. -/
theorem acceptanceRun_twoThreads (h : Unreserved route inbound db) (a b : String) :
    (acceptanceRun route inbound db (twoThreads a b)).sent.map (·.content) =
      [encodeContent (acceptance inbound) (some a),
        encodeContent (acceptance inbound) (some b)] := by
  obtain ⟨db₁, hreserve, h₁⟩ := h.reserve (some a)
  have hread₁ := h₁.outboundState
  obtain ⟨db₂, hbegin₁, h₂⟩ := h₁.begin_hit rfl
  obtain ⟨db₃, hfinish, h₃⟩ := h₂.afterSend.finish rfl
  have hagain := h₃.reserve (some b)
  have hread₂ := h₃.outboundState
  obtain ⟨db₄, hbegin₂, -⟩ := h₃.begin_hit rfl
  have hstate₁ : afterState (some Stage.fresh.columns) = .begin_ 0 0 := rfl
  have hstate₂ : afterState (some (Stage.firstSent none).judged.columns) = .begin_ 1 2 := rfl
  simp only [twoThreads, acceptanceRun, List.replicate, List.cons_append, List.nil_append,
    List.foldl_cons, List.foldl_nil, AcceptanceWorld.move, List.getElem?_cons_zero,
    List.getElem?_cons_succ, List.set_cons_zero, List.set_cons_succ, AcceptancePc.advance,
    hreserve, hread₁, hstate₁, hbegin₁, hfinish, afterFinish, if_true, hagain, hread₂, hstate₂,
    hbegin₂, List.append_nil, List.map_cons, List.map_nil]

end

/-- A request of a peer. -/
def someRequest : GatewayEnvelope :=
  { version := profile, envelope_id := 7, idempotency_key := "k", direction := .outbound,
    peer_id := "peer", sender := ⟨⟨1⟩, "peer"⟩, recipient := ⟨⟨2⟩, "peer"⟩,
    conversation_id := ⟨3⟩, correlation_id := 4, causal_seq := 0,
    created_at := "2026-01-01T00:00:00Z", deadline := none, kind := .request,
    content_type := "text/plain", payload := some [104, 105], payload_sha256 := zeroDigest,
    artifact := none, integrity := ⟨"sha256", zeroDigest⟩ }

def someRoute : MatrixRoute := ⟨"!room:test", 1, "runtime"⟩

/-- The empty store takes the acceptance. -/
theorem someRequest_unreserved : Unreserved someRoute someRequest (gatewayRun []) where
  inv := gatewayRun_inv []
  free := rfl
  check := by
    have hlength : 4 * (acceptance someRequest).toJson.render.length ≤ 524288 := by
      decide +kernel
    have hsize := (Reference.utf8ByteSize_bounds (acceptance someRequest).toJson.render).2
    have hcanonical : (acceptance someRequest).canonical.utf8ByteSize ≤ 524288 :=
      Nat.le_trans hsize hlength
    exact decide_eq_true ⟨by decide, hcanonical, by decide⟩

theorem someRequest_reserved :
    (reserveOutbound (acceptance someRequest) someRoute.room_id none (acceptanceTxn someRequest)
      someRoute.generation someRoute.runtime_instance (gatewayRun [])).1 = .ok true := by
  have hfree := someRequest_unreserved
  obtain ⟨db', hreserve, -⟩ := hfree.reserve none
  rw [hreserve]

theorem acceptance_delivery_twoThreads :
    AcceptanceDelivered someRoute someRequest (twoThreads "$a" "$b")
      (acceptanceRun someRoute someRequest (gatewayRun []) (twoThreads "$a" "$b")) :=
  acceptance_delivery someRoute someRequest [] none someRequest_reserved (twoThreads "$a" "$b")

/-- **The two sends of one acceptance name two threads.** -/
theorem acceptance_contents_differ :
    (reserveOutbound (acceptance someRequest) someRoute.room_id none (acceptanceTxn someRequest)
      someRoute.generation someRoute.runtime_instance (gatewayRun [])).1 = .ok true ∧
    ¬ ∀ s ∈ (acceptanceRun someRoute someRequest (gatewayRun []) (twoThreads "$a" "$b")).sent,
      ∀ s' ∈ (acceptanceRun someRoute someRequest (gatewayRun []) (twoThreads "$a" "$b")).sent,
        s.content = s'.content := by
  have hsent := acceptanceRun_twoThreads someRequest_unreserved "$a" "$b"
  generalize (acceptanceRun someRoute someRequest (gatewayRun []) (twoThreads "$a" "$b")).sent =
    sent at hsent
  refine ⟨someRequest_reserved, ?_⟩
  intro hsame
  obtain ⟨s, rest, rfl, hfirst, hrest⟩ := List.map_eq_cons_iff.mp hsent
  obtain ⟨s', rest', rfl, hsecond, -⟩ := List.map_eq_cons_iff.mp hrest
  have heq := hsame s List.mem_cons_self s' (List.mem_cons_of_mem _ List.mem_cons_self)
  rw [hfirst, hsecond] at heq
  simp [encodeContent] at heq

end GuiguBridge
