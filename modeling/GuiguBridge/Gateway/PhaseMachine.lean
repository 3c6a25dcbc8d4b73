import GuiguBridge.Gateway.Retention

/-!
# The phases of a delivery

`DeliveryPhase::can_transition` of `src/src/gateway.rs` says which phase may follow which.  No
statement asks it: `transition_delivery` writes the lower-cased `Debug` name of the phase and
leaves the rest to the `CHECK`s of the table, and `finish_outbound` writes the text it is given.

* `updateDelivery_owned` — the three ways a compare-and-set by owner and revision can end;
* `PhaseLaw` — what a call should do: change a phase only as the relation allows and with the
  next revision, change nothing for a stale caller, and make every allowed transition;
* `transitionAgrees`, `finishAgrees`, `GatewayCall.PhaseAgrees` — **the phases for which the
  statement and the relation agree**;
* `phase_machine_iff` — a run follows the law exactly when all of its calls agree.
-/

namespace GuiguBridge

open Relational

/-! ### A compare-and-set by owner and revision -/

section

variable {p : GatewayDeliveryRow → Bool} {f : GatewayDeliveryRow → GatewayDeliveryRow}
  {check : GatewayDeliveryRow → Bool} {hf : ∀ d, (f d).key = d.key} {db : Db}
  {envelope_id : Uuid} {owner : String} {revision : Nat}

/-- It finds no row, it finds one that the new values would spoil, or it writes one. -/
inductive OwnedWrite (p : GatewayDeliveryRow → Bool)
    (f : GatewayDeliveryRow → GatewayDeliveryRow) (check : GatewayDeliveryRow → Bool) (db : Db) :
    Except GatewayError Bool × Db → Prop where
  | missed (hnone : ∀ d ∈ db.gatewayDeliveries.rows, p d = false) :
      OwnedWrite p f check db (.ok false, db)
  | refused (d : GatewayDeliveryRow) (hd : d ∈ db.gatewayDeliveries.rows) (hp : p d = true)
      (hcheck : check (f d) = false) : OwnedWrite p f check db (.error (.sql .constraint), db)
  | written (d : GatewayDeliveryRow) (t : _) (hd : d ∈ db.gatewayDeliveries.rows)
      (hp : p d = true) (hcheck : check (f d) = true)
      (hputs : db.gatewayDeliveries.Puts d.key (f d) t) :
      OwnedWrite p f check db (.ok true, { db with gatewayDeliveries := t })

/-- The rows of one envelope that somebody owns are one row. -/
theorem GatewayInv.owned_unique (h : GatewayInv db) {d x : GatewayDeliveryRow}
    (hd : d ∈ db.gatewayDeliveries.rows) (hx : x ∈ db.gatewayDeliveries.rows)
    (hod : d.ownedAt envelope_id owner revision = true)
    (hox : x.ownedAt envelope_id owner revision = true) : x = d := by
  obtain ⟨hid, howner, -⟩ := of_decide_eq_true hod
  obtain ⟨hid', howner', -⟩ := of_decide_eq_true hox
  refine db.gatewayDeliveries.eq_of_key_eq hx hd ?_
  rw [h.owned_key hd howner, h.owned_key hx howner', hid, hid']

theorem updateDelivery_owned (h : GatewayInv db)
    (hp : ∀ d, p d = true → d.ownedAt envelope_id owner revision = true) :
    OwnedWrite p f check db (updateDelivery p f check hf db) := by
  by_cases hsome : ∃ d ∈ db.gatewayDeliveries.rows, p d = true
  · obtain ⟨d, hd, hpd⟩ := hsome
    have hget := Table.get_of_mem hd
    cases hcheck : check (f d) with
    | false =>
      rw [updateDelivery_refused hget hpd hcheck]
      exact .refused d hd hpd hcheck
    | true =>
      have hkey : ∀ x ∈ db.gatewayDeliveries.rows, p x = true → x.key = d.key := by
        intro x hx hpx
        rw [h.owned_unique hd hx (hp d hpd) (hp x hpx)]
      obtain ⟨t, hupd, hputs⟩ := updateDelivery_hit hget hkey hpd hcheck
      rw [hupd]
      exact .written d t hd hpd hcheck hputs
  · have hnone : ∀ d ∈ db.gatewayDeliveries.rows, p d = false := by
      intro d hd
      cases hpd : p d with
      | false => rfl
      | true => exact absurd ⟨d, hd, hpd⟩ hsome
    rw [updateDelivery_none hnone]
    exact .missed hnone

end

/-! ### The law -/

/-- A phase that changed, changed as the relation allows and with the next revision. -/
def PhasesAllowed (db db' : Db) : Prop :=
  ∀ d d', db.gatewayDeliveries.get d.key = some d →
    db'.gatewayDeliveries.get d.key = some d' → d'.phase ≠ d.phase →
      d.phase.canTransition d'.phase = true ∧ d'.owner_revision = d.owner_revision + 1

/-- Envelope, owner and revision of a compare-and-set. -/
def GatewayCall.expects : GatewayCall → Option (Uuid × String × Nat)
  | .transitionDelivery envelope_id _ owner revision => some (envelope_id, owner, revision)
  | .beginOutboundAttempt envelope_id owner revision _ => some (envelope_id, owner, revision)
  | .finishOutbound envelope_id owner revision _ _ => some (envelope_id, owner, revision)
  | _ => none

section

variable [Externals]

/-- What a call should do to the deliveries. -/
structure PhaseLaw (db : Db) (call : GatewayCall) : Prop where
  allowed : PhasesAllowed db (gatewayStep db call)
  stale : ∀ envelope_id owner revision, call.expects = some (envelope_id, owner, revision) →
    (∀ d ∈ db.gatewayDeliveries.rows, d.ownedAt envelope_id owner revision = false) →
      gatewayStep db call = db
  complete : ∀ envelope_id phase owner revision,
    call = .transitionDelivery envelope_id phase owner revision →
      ∀ d ∈ db.gatewayDeliveries.rows, d.ownedAt envelope_id owner revision = true →
        d.phase.canTransition phase = true →
          (transitionDelivery envelope_id phase owner revision db).1 = .ok true ∧
            ∃ d', (gatewayStep db call).gatewayDeliveries.get d.key = some d' ∧ d'.phase = phase

end

/-- The phases for which `transition_delivery` does what `can_transition`
says.  The text of a phase with two words is not one of the column; of the other three, the
`CHECK`s see only whether the row has an event. -/
def transitionAgrees (current next : DeliveryPhase) : Bool :=
  match next with
  | .pending => current ∉ [DeliveryPhase.sendUnknown, .recoveryNeeded]
  | .sendUnknown => current ∉ [DeliveryPhase.pending]
  | .transportAcked => current ∉ [DeliveryPhase.pending, .sendUnknown]
  | .taskAccepted => current ∉ [DeliveryPhase.transportAcked]
  | .terminal => current ∉ [DeliveryPhase.transportAcked, .stale]
  | .stale => current ∉ [DeliveryPhase.pending, .terminal]
  | .recoveryNeeded => current ∉ [DeliveryPhase.pending, .sendUnknown, .transportAcked]

/-- A verdict that the table takes moves the delivery as `can_transition` says. -/
def finishAgrees (text : String) (event_id : Option String) (d : GatewayDeliveryRow) : Bool :=
  match DeliveryPhase.ofColumn text with
  | none => true
  | some phase =>
    (event_id <|> d.event_id).isSome != phase.hasEvent ||
      decide (phase = d.phase) || d.phase.canTransition phase

/-- The calls that follow the law: what they find, or what they ask for, is agreed. -/
def GatewayCall.PhaseAgrees (db : Db) : GatewayCall → Prop
  | .transitionDelivery envelope_id phase owner revision =>
    ∀ d ∈ db.gatewayDeliveries.rows, d.ownedAt envelope_id owner revision = true →
      transitionAgrees d.phase phase = true
  | .finishOutbound envelope_id owner revision phase event_id =>
    ∀ d ∈ db.gatewayDeliveries.rows, d.ownedAt envelope_id owner revision = true →
      finishAgrees phase event_id d = true
  | _ => True

/-! ### Rows -/

/-- The phases that `transition_delivery` can write into a row in phase `current`. -/
def writable (current next : DeliveryPhase) : Bool :=
  (DeliveryPhase.ofColumn next.debugLower).isSome && (current.hasEvent == next.hasEvent)

/-- The column has no text of two words. -/
theorem ofColumn_debugLower_eq (phase : DeliveryPhase) :
    DeliveryPhase.ofColumn phase.debugLower =
      if phase ∈ [DeliveryPhase.sendUnknown, .transportAcked, .taskAccepted, .recoveryNeeded]
      then none else some phase := by
  cases phase <;> rfl

theorem ofColumn_debugLower {phase : DeliveryPhase}
    (h : (DeliveryPhase.ofColumn phase.debugLower).isSome = true) :
    DeliveryPhase.ofColumn phase.debugLower = some phase := by
  rw [ofColumn_debugLower_eq] at h ⊢
  split_ifs at h ⊢
  · cases h
  · rfl

/-- Agreement is: what can be written is allowed, and what cannot is not. -/
theorem transitionAgrees_iff (current next : DeliveryPhase) :
    transitionAgrees current next = true ↔
      if writable current next then next ≠ current → current.canTransition next = true
      else current.canTransition next = false := by
  rw [writable, ofColumn_debugLower_eq]
  cases current <;> cases next <;> decide

/-- An outbound delivery that passes its checks has an event exactly in the phases for it. -/
theorem GatewayDeliveryRow.event_of_check {d : GatewayDeliveryRow} (h : d.check = true)
    (hdir : d.direction = .outbound) :
    d.attempt ≤ 2 ∧ d.txn_id.isSome = true ∧ d.event_id.isSome = d.phase.hasEvent := by
  simp only [GatewayDeliveryRow.check, hdir, Bool.and_eq_true, decide_eq_true_eq, beq_iff_eq] at h
  exact h

theorem checkPhase_setPhase {d : GatewayDeliveryRow} {phase : DeliveryPhase}
    (h : d.check = true) (hdir : d.direction = .outbound) :
    (d.setPhase phase.debugLower).checkPhase phase.debugLower = writable d.phase phase := by
  obtain ⟨hattempt, htxn, hevent⟩ := d.event_of_check h hdir
  cases hcolumn : DeliveryPhase.ofColumn phase.debugLower with
  | none => simp [GatewayDeliveryRow.checkPhase, writable, hcolumn]
  | some q =>
    have hq : q = phase := by
      have hphase := ofColumn_debugLower (Option.isSome_of_eq_some hcolumn)
      rw [hcolumn] at hphase
      exact Option.some.inj hphase
    subst hq
    simp [GatewayDeliveryRow.checkPhase, writable, hcolumn, GatewayDeliveryRow.setPhase,
      GatewayDeliveryRow.check, hdir, hattempt, htxn, hevent]

/-! ### The law and the agreement -/

theorem PhasesAllowed.of_same {db db' : Db}
    (h : ∀ k d', db'.gatewayDeliveries.get k = some d' →
      db.gatewayDeliveries.get k = some d' ∨ db.gatewayDeliveries.get k = none) :
    PhasesAllowed db db' := by
  intro d d' hd hd' hne
  rcases h d.key d' hd' with hsame | hnone
  · rw [hd] at hsame
    cases hsame
    exact absurd rfl hne
  · rw [hd] at hnone
    cases hnone

/-- One row was written: the law is about that row. -/
theorem phasesAllowed_written {db : Db} {d row : GatewayDeliveryRow} {t : _}
    (hd : d ∈ db.gatewayDeliveries.rows) (hputs : db.gatewayDeliveries.Puts d.key row t)
    (hrev : row.owner_revision = d.owner_revision + 1) :
    PhasesAllowed db { db with gatewayDeliveries := t } ↔
      (row.phase ≠ d.phase → d.phase.canTransition row.phase = true) := by
  have hget := Table.get_of_mem hd
  constructor
  · intro h hne
    exact (h d row hget ((hputs d.key).trans (if_pos rfl)) hne).1
  · intro h x x' hx hx' hne
    rw [show t.get x.key = _ from hputs x.key] at hx'
    by_cases hk : x.key = d.key
    · rw [if_pos hk] at hx'
      cases hx'
      rw [hk, hget] at hx
      cases hx
      exact ⟨h hne, hrev⟩
    · rw [if_neg hk, hx] at hx'
      cases hx'
      exact absurd rfl hne

section

variable [Externals] {db : Db}

/-- A call that is no compare-and-set and writes no phase follows the law. -/
theorem PhaseLaw.of_no_expects {call : GatewayCall} (hexpects : call.expects = none)
    (hsame : ∀ k d', (gatewayStep db call).gatewayDeliveries.get k = some d' →
      db.gatewayDeliveries.get k = some d' ∨ db.gatewayDeliveries.get k = none) :
    PhaseLaw db call where
  allowed := PhasesAllowed.of_same hsame
  stale := by
    intro envelope_id owner revision h
    rw [hexpects] at h
    cases h
  complete := by
    intro envelope_id phase owner revision h
    rw [h] at hexpects
    cases hexpects

omit [Externals] in
theorem GatewayInv.owned_outbound (h : GatewayInv db) {d : GatewayDeliveryRow}
    (hd : d ∈ db.gatewayDeliveries.rows) {envelope_id : Uuid} {owner : String} {revision : Nat}
    (howned : d.ownedAt envelope_id owner revision = true) : d.direction = .outbound := by
  obtain ⟨-, howner, -⟩ := of_decide_eq_true howned
  exact congrArg (fun k => k.2.1) (h.owned_key hd howner)

/-- `transition_delivery` follows the law exactly at the phases that agree. -/
theorem phaseLaw_transition (h : GatewayInv db) (envelope_id : Uuid) (phase : DeliveryPhase)
    (owner : String) (revision : Nat) :
    PhaseLaw db (.transitionDelivery envelope_id phase owner revision) ↔
      (GatewayCall.transitionDelivery envelope_id phase owner revision).PhaseAgrees db := by
  have hwrite : OwnedWrite (GatewayDeliveryRow.ownedAt envelope_id owner revision)
      (GatewayDeliveryRow.setPhase phase.debugLower)
      (GatewayDeliveryRow.checkPhase phase.debugLower) db
      (transitionDelivery envelope_id phase owner revision db) :=
    updateDelivery_owned h fun _ hp => hp
  have hstep : gatewayStep db (.transitionDelivery envelope_id phase owner revision) =
      (transitionDelivery envelope_id phase owner revision db).2 := rfl
  generalize hresult : transitionDelivery envelope_id phase owner revision db = result at *
  cases hwrite with
  | missed hnone =>
    refine iff_of_true ⟨?_, fun _ _ _ _ _ => hstep, ?_⟩ ?_
    · rw [hstep]
      exact PhasesAllowed.of_same fun k d' hd' => Or.inl hd'
    · intro id q o r hcall d hd howned
      cases hcall
      rw [hnone d hd] at howned
      cases howned
    · intro d hd howned
      rw [hnone d hd] at howned
      cases howned
  | refused d hd hp hcheck =>
    have hdir := h.owned_outbound hd hp
    rw [checkPhase_setPhase (h.checked d hd) hdir] at hcheck
    have hagrees := transitionAgrees_iff d.phase phase
    rw [hcheck, if_neg Bool.false_ne_true] at hagrees
    constructor
    · intro hlaw x hx hox
      rw [h.owned_unique hd hx hp hox, hagrees]
      cases hcan : d.phase.canTransition phase with
      | false => rfl
      | true =>
        have hdone := (hlaw.complete _ _ _ _ rfl d hd hp hcan).1
        rw [hresult] at hdone
        cases hdone
    · intro hall
      have hcannot := hagrees.mp (hall d hd hp)
      refine ⟨?_, fun _ _ _ _ _ => hstep, ?_⟩
      · rw [hstep]
        exact PhasesAllowed.of_same fun k d' hd' => Or.inl hd'
      · intro id q o r hcall x hx hox hcan
        cases hcall
        rw [h.owned_unique hd hx hp hox, hcannot] at hcan
        cases hcan
  | written d t hd hp hcheck hputs =>
    have hdir := h.owned_outbound hd hp
    rw [checkPhase_setPhase (h.checked d hd) hdir] at hcheck
    have hagrees := transitionAgrees_iff d.phase phase
    rw [hcheck, if_pos rfl] at hagrees
    have hphase : (d.setPhase phase.debugLower).phase = phase := by
      have hcolumn := ofColumn_debugLower (Bool.and_eq_true_iff.mp hcheck).1
      simp [GatewayDeliveryRow.setPhase, hcolumn]
    have hallowed := phasesAllowed_written hd hputs rfl
    rw [hphase] at hallowed
    constructor
    · intro hlaw x hx hox
      rw [h.owned_unique hd hx hp hox, hagrees]
      have hlaw := hlaw.allowed
      rw [hstep] at hlaw
      exact hallowed.mp hlaw
    · intro hall
      refine ⟨?_, ?_, ?_⟩
      · rw [hstep]
        exact hallowed.mpr (hagrees.mp (hall d hd hp))
      · intro id o r hexpects hnone
        cases hexpects
        rw [hnone d hd] at hp
        cases hp
      · intro id q o r hcall x hx hox _
        cases hcall
        rw [hresult, h.owned_unique hd hx hp hox, hstep]
        exact ⟨rfl, _, (hputs d.key).trans (if_pos rfl), hphase⟩

/-- A new attempt keeps the phase. -/
theorem phaseLaw_begin (h : GatewayInv db) (envelope_id : Uuid) (owner : String)
    (revision : Nat) (expected_phase : String) :
    PhaseLaw db (.beginOutboundAttempt envelope_id owner revision expected_phase) := by
  have hwrite : OwnedWrite _ _ _ db
      (beginOutboundAttempt envelope_id owner revision expected_phase db) :=
    updateDelivery_owned h fun _ hp => (Bool.and_eq_true_iff.mp hp).1
  have hstep : gatewayStep db (.beginOutboundAttempt envelope_id owner revision expected_phase) =
      (beginOutboundAttempt envelope_id owner revision expected_phase db).2 := rfl
  generalize beginOutboundAttempt envelope_id owner revision expected_phase db = result at *
  refine ⟨?_, ?_, fun _ _ _ _ hcall => by cases hcall⟩
  · rw [hstep]
    cases hwrite with
    | missed hnone => exact PhasesAllowed.of_same fun k d' hd' => Or.inl hd'
    | refused d hd hp hcheck => exact PhasesAllowed.of_same fun k d' hd' => Or.inl hd'
    | written d t hd hp hcheck hputs =>
      exact (phasesAllowed_written hd hputs rfl).mpr fun hne => absurd rfl hne
  · intro id o r hexpects hnone
    cases hexpects
    rw [hstep]
    cases hwrite with
    | missed _ => rfl
    | refused d hd hp hcheck => rfl
    | written d t hd hp hcheck hputs =>
      have howned := (Bool.and_eq_true_iff.mp hp).1
      rw [hnone d hd] at howned
      cases howned

omit [Externals] in
/-- The checks of a verdict, and what it means for them to hold. -/
theorem finishAgrees_iff {d : GatewayDeliveryRow} (h : d.check = true)
    (hdir : d.direction = .outbound) (text : String) (event_id : Option String) :
    finishAgrees text event_id d = true ↔
      if ({ d.setPhase text with event_id := event_id <|> d.event_id } :
          GatewayDeliveryRow).checkPhase text then
        (d.setPhase text).phase ≠ d.phase → d.phase.canTransition (d.setPhase text).phase = true
      else True := by
  obtain ⟨hattempt, htxn, -⟩ := d.event_of_check h hdir
  cases hcolumn : DeliveryPhase.ofColumn text with
  | none => simp [finishAgrees, GatewayDeliveryRow.checkPhase, hcolumn]
  | some phase =>
    have hcheck : ({ d.setPhase text with event_id := event_id <|> d.event_id } :
        GatewayDeliveryRow).checkPhase text =
          ((event_id <|> d.event_id).isSome == phase.hasEvent) := by
      simp [GatewayDeliveryRow.checkPhase, hcolumn, GatewayDeliveryRow.setPhase,
        GatewayDeliveryRow.check, hdir, hattempt, htxn]
    have hphase : (d.setPhase text).phase = phase := by
      simp [GatewayDeliveryRow.setPhase, hcolumn]
    rw [hcheck, hphase]
    simp only [finishAgrees, hcolumn]
    cases (event_id <|> d.event_id).isSome <;> cases phase.hasEvent <;>
      by_cases hp : phase = d.phase <;> simp [hp]

/-- `finish_outbound` follows the law exactly for the verdicts that agree. -/
theorem phaseLaw_finish (h : GatewayInv db) (envelope_id : Uuid) (owner : String)
    (revision : Nat) (phase : String) (event_id : Option String) :
    PhaseLaw db (.finishOutbound envelope_id owner revision phase event_id) ↔
      (GatewayCall.finishOutbound envelope_id owner revision phase event_id).PhaseAgrees db := by
  have hwrite : OwnedWrite
      (fun d => d.ownedAt envelope_id owner revision && decide (d.direction = .outbound))
      (fun d => { d.setPhase phase with event_id := event_id <|> d.event_id })
      (GatewayDeliveryRow.checkPhase phase) db
      (finishOutbound envelope_id owner revision phase event_id db) :=
    updateDelivery_owned h fun _ hp => (Bool.and_eq_true_iff.mp hp).1
  have hstep : gatewayStep db (.finishOutbound envelope_id owner revision phase event_id) =
      (finishOutbound envelope_id owner revision phase event_id db).2 := rfl
  generalize finishOutbound envelope_id owner revision phase event_id db = result at *
  cases hwrite with
  | missed hnone =>
    refine iff_of_true ⟨?_, fun _ _ _ _ _ => hstep, fun _ _ _ _ hcall => by cases hcall⟩ ?_
    · rw [hstep]
      exact PhasesAllowed.of_same fun k d' hd' => Or.inl hd'
    · intro d hd howned
      have hdir := h.owned_outbound hd howned
      have hno := hnone d hd
      rw [howned, hdir] at hno
      cases hno
  | refused d hd hp hcheck =>
    have howned := (Bool.and_eq_true_iff.mp hp).1
    have hdir := h.owned_outbound hd howned
    have hagrees := finishAgrees_iff (h.checked d hd) hdir phase event_id
    rw [if_neg (Bool.eq_false_iff.mp hcheck)] at hagrees
    refine iff_of_true ⟨?_, fun _ _ _ _ _ => hstep, fun _ _ _ _ hcall => by cases hcall⟩ ?_
    · rw [hstep]
      exact PhasesAllowed.of_same fun k d' hd' => Or.inl hd'
    · intro x hx hox
      rw [h.owned_unique hd hx howned hox]
      exact hagrees.mpr trivial
  | written d t hd hp hcheck hputs =>
    have howned := (Bool.and_eq_true_iff.mp hp).1
    have hdir := h.owned_outbound hd howned
    have hagrees := finishAgrees_iff (h.checked d hd) hdir phase event_id
    rw [if_pos hcheck] at hagrees
    have hallowed := phasesAllowed_written hd hputs rfl
    constructor
    · intro hlaw x hx hox
      rw [h.owned_unique hd hx howned hox, hagrees]
      have hlaw := hlaw.allowed
      rw [hstep] at hlaw
      exact hallowed.mp hlaw
    · intro hall
      refine ⟨?_, ?_, fun _ _ _ _ hcall => by cases hcall⟩
      · rw [hstep]
        exact hallowed.mpr (hagrees.mp (hall d hd howned))
      · intro id o r hexpects hnone
        cases hexpects
        rw [hnone d hd] at howned
        cases howned

omit [Externals] in
/-- A row that is there after an insertion was there, or its place was free. -/
theorem get_of_insert {t u : Table GatewayDeliveryRow.key} {r d : GatewayDeliveryRow}
    {k : Uuid × Direction × String} (hins : t.insert r = some u) (hget : u.get k = some d) :
    t.get k = some d ∨ t.get k = none := by
  obtain ⟨hfree, hputs⟩ := Table.insert_puts hins
  rw [hputs k] at hget
  by_cases hk : k = r.key
  · rw [hk]
    exact Or.inr hfree
  · rw [if_neg hk] at hget
    exact Or.inl hget

theorem deleteCleanup_deliveries {envelope_id : Uuid} {owner : String} {revision : Nat}
    {now : String} {k : Uuid × Direction × String} {d : GatewayDeliveryRow}
    (hget : (deleteCleanup envelope_id owner revision now db).2.gatewayDeliveries.get k =
      some d) : db.gatewayDeliveries.get k = some d := by
  unfold deleteCleanup at hget
  cases hfound : db.gatewayEnvelopes.get envelope_id with
  | none =>
    rw [hfound] at hget
    exact hget
  | some r =>
    rw [hfound] at hget
    dsimp only at hget
    by_cases hdel : r.deletable owner revision now db = true
    · rw [if_pos hdel] at hget
      have hmem := (Table.mem_deleteWhere.1 (Table.mem_of_get hget)).1
      rw [← Table.key_of_get hget]
      exact Table.get_of_mem hmem
    · rw [if_neg hdel] at hget
      exact hget

/-- **A call follows the law exactly when it agrees.** -/
theorem phaseLaw_iff (h : GatewayInv db) (call : GatewayCall) :
    PhaseLaw db call ↔ call.PhaseAgrees db := by
  cases call with
  | transitionDelivery envelope_id phase owner revision =>
    exact phaseLaw_transition h envelope_id phase owner revision
  | finishOutbound envelope_id owner revision phase event_id =>
    exact phaseLaw_finish h envelope_id owner revision phase event_id
  | beginOutboundAttempt envelope_id owner revision expected_phase =>
    exact iff_of_true (phaseLaw_begin h envelope_id owner revision expected_phase) trivial
  | admitTaskReady envelope conversation_id now runtime_instance sender_user event_id room_id
      thread_root generation =>
    refine iff_of_true (PhaseLaw.of_no_expects rfl ?_) trivial
    intro k d hget
    rcases admitTaskReady_cases (Prod.mk.eta (p := admitTaskReady envelope conversation_id now
      runtime_instance sender_user event_id room_id thread_root generation db)).symm with
      ⟨hdb, -⟩ | ⟨-, hstep⟩
    · rw [gatewayStep, hdb] at hget
      exact Or.inl hget
    · exact get_of_insert hstep.delivery hget
  | reserveOutbound envelope room_id thread_root txn_id generation owner =>
    refine iff_of_true (PhaseLaw.of_no_expects rfl ?_) trivial
    intro k d hget
    rcases reserveOutbound_cases (Prod.mk.eta (p := reserveOutbound envelope room_id thread_root
      txn_id generation owner db)).symm with ⟨hdb, -⟩ | ⟨-, -, -, -, hdelivery, -⟩
    · rw [gatewayStep, hdb] at hget
      exact Or.inl hget
    · exact get_of_insert hdelivery hget
  | claimCleanup owner now picked =>
    exact iff_of_true (PhaseLaw.of_no_expects rfl fun _ _ hget => Or.inl hget) trivial
  | deleteCleanup envelope_id owner revision now =>
    exact iff_of_true
      (PhaseLaw.of_no_expects rfl fun _ _ hget => Or.inl (deleteCleanup_deliveries hget)) trivial
  | refused => exact iff_of_true (PhaseLaw.of_no_expects rfl fun _ _ hget => Or.inl hget) trivial
  | elsewhere other =>
    exact iff_of_true (PhaseLaw.of_no_expects rfl fun _ _ hget => Or.inl hget) trivial

/-- **Every call of a run follows the law if and only if every call of it agrees.** -/
theorem phase_machine_iff (calls : List GatewayCall) :
    (∀ pre call, pre ++ [call] <+: calls → PhaseLaw (gatewayRun pre) call) ↔
      ∀ pre call, pre ++ [call] <+: calls → call.PhaseAgrees (gatewayRun pre) := by
  constructor
  · intro h pre call hpre
    exact (phaseLaw_iff (gatewayRun_inv pre) call).mp (h pre call hpre)
  · intro h pre call hpre
    exact (phaseLaw_iff (gatewayRun_inv pre) call).mpr (h pre call hpre)

end

/-- A delivery is reserved, and its owner asks for the phase after a send without answer. -/
def unknownSend : List GatewayCall :=
  [floodCall 0, .transitionDelivery (BitVec.ofNat 128 0) .sendUnknown "runtime" 0]

theorem floodCall_step (i : Nat) (db : Db) :
    gatewayStep db (floodCall i) = (reserveOutbound (floodEnvelope i) "!room:test" none
      (Externals.uuidText (BitVec.ofNat 128 i)) 1 "runtime" db).2 := rfl

/-- **The column knows no `sendunknown`.** -/
theorem unknownSend_refused :
    ¬ ∀ pre call, pre ++ [call] <+: unknownSend → PhaseLaw (gatewayRun pre) call := by
  intro h
  have hlaw := h [floodCall 0] _ (List.prefix_refl _)
  have hagrees := (phaseLaw_iff (gatewayRun_inv [floodCall 0]) _).mp hlaw
  obtain ⟨en, de, -, hde, hres⟩ := reserveOutbound_stores (gatewayRun_inv []) "!room:test" none
    (Externals.uuidText (BitVec.ofNat 128 0)) rfl (floodRow_check 0)
  have hrun : gatewayRun [floodCall 0] =
      { gatewayRun [] with gatewayEnvelopes := en, gatewayDeliveries := de } := by
    have hsnoc : gatewayRun [floodCall 0] = gatewayStep (gatewayRun []) (floodCall 0) :=
      gatewayRun_snoc [] (floodCall 0)
    rw [hsnoc, floodCall_step, hres]
  have hmem : (floodEnvelope 0).outboundDelivery "!room:test" none
      (Externals.uuidText (BitVec.ofNat 128 0)) "runtime" ∈
        (gatewayRun [floodCall 0]).gatewayDeliveries.rows := by
    rw [hrun]
    exact (Table.mem_insert hde).mpr (Or.inr rfl)
  have hno := hagrees _ hmem (decide_eq_true ⟨rfl, rfl, rfl⟩)
  exact absurd hno (by decide)

end GuiguBridge
