import GuiguBridge.Acp.JsonRpc

/-!
# The three shapes of a message

Which values `jsonrpc::parse` takes for a request, a notification or a response, and what it
makes of the envelopes that the bridge itself builds (`src/src/acp/jsonrpc.rs`).

* `Shape` — the documented shapes: a response has an id, an outcome and **no method member**;
* `Mistyped` — an object with an id, an outcome and a method that is not a string.  The reader
  looks at a method only through `as_str`, so that it takes such an object for a response;
* `parse_ok_iff` — a value is read when it has a shape or is mistyped, and as nothing else;
* `parse_shapes_iff` — **the reader follows the documented shapes except on mistyped objects**,
  and undoes the four builders.
-/

namespace GuiguBridge

namespace Acp

/-! ### The documented shapes -/

/-- The id that a value stands for: an `int64` or a string. -/
inductive IdOf : Value → RequestId → Prop where
  | number (n : Number) (id : Int) (hid : n.asI64 = some id) : IdOf (.number n) (.number id)
  | string (text : String) : IdOf (.string text) (.string text)

/-- A well-formed error object; its message is kept within the bound. -/
structure ErrorOf (object : String → Option Value) (e : JsonRpcErrorObject) : Prop where
  code : ∃ v, object "code" = some v ∧ v.asI64 = some e.code
  message : ∃ text, object "message" = some (.string text) ∧ e.message = bounded text
  data : e.data = object "data"

/-- Exactly one of `result` and `error`. -/
inductive OutcomeOf (object : String → Option Value) :
    Except JsonRpcErrorObject Value → Prop where
  | result (v : Value) (hresult : object "result" = some v) (herror : object "error" = none) :
      OutcomeOf object (.ok v)
  | error (v : Value) (inner : String → Option Value) (e : JsonRpcErrorObject)
      (hresult : object "result" = none) (herror : object "error" = some v)
      (hv : v.asObject = some inner) (he : ErrorOf inner e) : OutcomeOf object (.error e)

/-- The three shapes. -/
inductive Shape (object : String → Option Value) : JsonRpcMessage → Prop where
  | request (v : Value) (id : RequestId) (method : String) (hid : object "id" = some v)
      (hv : IdOf v id) (hmethod : object "method" = some (.string method)) :
      Shape object (.request id method ((object "params").getD .null))
  | notification (method : String) (hid : object "id" = none)
      (hmethod : object "method" = some (.string method)) :
      Shape object (.notification method ((object "params").getD .null))
  | response (v : Value) (id : RequestId) (outcome : Except JsonRpcErrorObject Value)
      (hid : object "id" = some v) (hv : IdOf v id) (hmethod : object "method" = none)
      (houtcome : OutcomeOf object outcome) : Shape object (.response id outcome)

/-- A value of a documented shape. -/
def HasShape (v : Value) (m : JsonRpcMessage) : Prop :=
  ∃ object, v.asObject = some object ∧ Shape object m

/-- An object that would be a response if it did not have a method, which is not a string. -/
def Mistyped (v : Value) (m : JsonRpcMessage) : Prop :=
  ∃ object idValue id methodValue outcome, v.asObject = some object ∧
    object "id" = some idValue ∧ IdOf idValue id ∧
    object "method" = some methodValue ∧ methodValue.asStr = none ∧
    OutcomeOf object outcome ∧ m = .response id outcome

/-! ### The parts of a message -/

theorem Value.asStr_eq_some {v : Value} {text : String} :
    v.asStr = some text ↔ v = .string text := by
  cases v <;> simp [Value.asStr]

theorem fromValue_ok_iff {v : Value} {id : RequestId} :
    RequestId.fromValue v = .ok id ↔ IdOf v id := by
  constructor
  · intro h
    unfold RequestId.fromValue at h
    split at h
    · next n =>
      split at h
      · next i hi =>
        cases h
        exact .number n i hi
      · cases h
    · next text =>
      cases h
      exact .string text
    · cases h
  · intro h
    cases h with
    | number n i hi => rw [RequestId.fromValue, hi]
    | string text => rfl

theorem readError_ok_iff {v : Value} {e : JsonRpcErrorObject} :
    readError v = .ok e ↔ ∃ inner, v.asObject = some inner ∧ ErrorOf inner e := by
  constructor
  · intro h
    unfold readError at h
    split at h
    · cases h
    · next inner hinner =>
      split at h
      · cases h
      · next code hcode =>
        split at h
        · cases h
        · next message hmessage =>
          cases h
          obtain ⟨v, hv, hi⟩ := Option.bind_eq_some_iff.mp hcode
          obtain ⟨w, hw, hs⟩ := Option.bind_eq_some_iff.mp hmessage
          rw [Value.asStr_eq_some.1 hs] at hw
          exact ⟨inner, hinner, ⟨v, hv, hi⟩, ⟨message, hw, rfl⟩, rfl⟩
  · rintro ⟨inner, hinner, ⟨v, hv, hi⟩, ⟨text, htext, hmessage⟩, hdata⟩
    have hcode : (inner "code").bind Value.asI64 = some e.code := by rw [hv]; exact hi
    have hstr : (inner "message").bind Value.asStr = some text := by rw [htext]; rfl
    obtain ⟨code, message, data⟩ := e
    simp only at hcode hmessage hdata
    simp only [readError, hinner, hcode, hstr, hmessage, hdata]

theorem readOutcome_ok_iff {object : String → Option Value}
    {outcome : Except JsonRpcErrorObject Value} :
    readOutcome object = .ok outcome ↔ OutcomeOf object outcome := by
  constructor
  · intro h
    unfold readOutcome at h
    split at h
    · next v hresult herror =>
      cases h
      exact .result v hresult herror
    · next v hresult herror =>
      cases he : readError v with
      | error problem =>
        rw [he] at h
        cases h
      | ok e =>
        rw [he] at h
        cases h
        obtain ⟨inner, hinner, he⟩ := readError_ok_iff.1 he
        exact .error v inner e hresult herror hinner he
    · cases h
  · intro h
    cases h with
    | result v hresult herror => rw [readOutcome, hresult, herror]
    | error v inner e hresult herror hinner he =>
      have hread := readError_ok_iff.2 ⟨inner, hinner, he⟩
      rw [readOutcome, hresult, herror]
      show (readError v).map Except.error = _
      rw [hread]
      rfl

/-! ### The reader -/

/-- What the reader does when the id of an object is readable, by its method. -/
theorem parse_of_id {v : Value} {object : String → Option Value} {id : Option RequestId}
    (hobject : v.asObject = some object) : readId object = .ok id →
    parse v = match (object "method").bind Value.asStr, id with
      | some method, none => .ok (.notification method ((object "params").getD .null))
      | some method, some id => .ok (.request id method ((object "params").getD .null))
      | none, some id => (readOutcome object).map (.response id)
      | none, none => .error .unrecognisedShape := by
  intro hid
  cases hmethod : (object "method").bind Value.asStr <;> cases id <;>
    simp only [parse, hobject, hid, hmethod]

theorem readId_ok_iff {object : String → Option Value} {id : Option RequestId} :
    readId object = .ok id ↔
      (object "id" = none ∧ id = none) ∨
        ∃ v i, object "id" = some v ∧ IdOf v i ∧ id = some i := by
  unfold readId
  cases object "id" with
  | none =>
    constructor
    · intro h
      cases h
      exact .inl ⟨rfl, rfl⟩
    · rintro (⟨-, rfl⟩ | ⟨v, i, hv, -⟩)
      · rfl
      · cases hv
  | some v =>
    constructor
    · intro h
      replace h : (RequestId.fromValue v).map some = .ok id := h
      cases hi : RequestId.fromValue v with
      | error problem =>
        rw [hi] at h
        cases h
      | ok i =>
        rw [hi] at h
        cases h
        exact .inr ⟨v, i, rfl, fromValue_ok_iff.1 hi, rfl⟩
    · rintro (⟨hv, -⟩ | ⟨w, i, hw, hi, rfl⟩)
      · cases hv
      · cases hw
        show (RequestId.fromValue v).map some = _
        rw [fromValue_ok_iff.2 hi]
        rfl

/-- **A value is read when it has a shape or is mistyped**, and as nothing else. -/
theorem parse_ok_iff {v : Value} {m : JsonRpcMessage} :
    parse v = .ok m ↔ HasShape v m ∨ Mistyped v m := by
  constructor
  · intro h
    cases hobject : v.asObject with
    | none =>
      rw [parse, hobject] at h
      cases h
    | some object =>
      cases hread : readId object with
      | error problem =>
        rw [parse, hobject] at h
        simp only [hread] at h
        cases h
      | ok id =>
        rw [parse_of_id hobject hread] at h
        obtain ⟨hid, rfl⟩ | ⟨w, i, hid, hi, rfl⟩ := readId_ok_iff.1 hread
        · cases hmethod : (object "method").bind Value.asStr with
          | none =>
            rw [hmethod] at h
            cases h
          | some method =>
            rw [hmethod] at h
            cases h
            obtain ⟨x, hx, hs⟩ := Option.bind_eq_some_iff.mp hmethod
            rw [Value.asStr_eq_some.1 hs] at hx
            exact .inl ⟨object, hobject, .notification method hid hx⟩
        · cases hmethod : (object "method").bind Value.asStr with
          | none =>
            rw [hmethod] at h
            cases hout : readOutcome object with
            | error problem =>
              rw [hout] at h
              cases h
            | ok outcome =>
              rw [hout] at h
              cases h
              have houtcome := readOutcome_ok_iff.1 hout
              cases hx : object "method" with
              | none => exact .inl ⟨object, hobject, .response w i outcome hid hi hx houtcome⟩
              | some x =>
                rw [hx] at hmethod
                exact .inr ⟨object, w, i, x, outcome, hobject, hid, hi, hx, hmethod, houtcome, rfl⟩
          | some method =>
            rw [hmethod] at h
            cases h
            obtain ⟨x, hx, hs⟩ := Option.bind_eq_some_iff.mp hmethod
            rw [Value.asStr_eq_some.1 hs] at hx
            exact .inl ⟨object, hobject, .request w i method hid hi hx⟩
  · rintro (⟨object, hobject, hshape⟩ |
      ⟨object, w, i, x, outcome, hobject, hid, hi, hx, hstr, houtcome, rfl⟩)
    · cases hshape with
      | request w i method hid hi hmethod =>
        rw [parse_of_id hobject (readId_ok_iff.2 (.inr ⟨w, i, hid, hi, rfl⟩)), hmethod]
        rfl
      | notification method hid hmethod =>
        rw [parse_of_id hobject (readId_ok_iff.2 (.inl ⟨hid, rfl⟩)), hmethod]
        rfl
      | response w i outcome hid hi hmethod houtcome =>
        rw [parse_of_id hobject (readId_ok_iff.2 (.inr ⟨w, i, hid, hi, rfl⟩)), hmethod,
          readOutcome_ok_iff.2 houtcome]
        rfl
    · have hmethod : (object "method").bind Value.asStr = none := by rw [hx]; exact hstr
      rw [parse_of_id hobject (readId_ok_iff.2 (.inr ⟨w, i, hid, hi, rfl⟩)), hmethod,
        readOutcome_ok_iff.2 houtcome]
      rfl

/-- No mistyped object has a shape. -/
theorem Mistyped.not_hasShape {v : Value} {m m' : JsonRpcMessage} (h : Mistyped v m) :
    ¬ HasShape v m' := by
  obtain ⟨object, -, -, x, -, hobject, -, -, hx, hstr, -⟩ := h
  rintro ⟨object', hobject', hshape⟩
  rw [hobject] at hobject'
  cases hobject'
  have hstring : ∀ method, object "method" ≠ some (.string method) := by
    intro method hmethod
    rw [hx] at hmethod
    cases hmethod
    cases hstr
  cases hshape with
  | request w i method hid hi hmethod => exact hstring method hmethod
  | notification method hid hmethod => exact hstring method hmethod
  | response w i outcome hid hi hmethod houtcome =>
    rw [hx] at hmethod
    cases hmethod

/-! ### The builders -/

/-- An integer of the type `i64`. -/
def Int64 (n : Int) : Prop := -9223372036854775808 ≤ n ∧ n ≤ 9223372036854775807

/-- An id that the bridge can hold. -/
def RequestId.Held : RequestId → Prop
  | .number id => Int64 id
  | .string _ => True

theorem Value.asI64_int {n : Int} (h : Int64 n) : (Value.int n).asI64 = some n := by
  unfold Value.int
  split
  · next hn =>
    have hle : n.toNat ≤ 9223372036854775807 := by
      have := h.2
      omega
    show (if n.toNat ≤ 9223372036854775807 then some (n.toNat : Int) else none) = some n
    rw [if_pos hle, Int.toNat_of_nonneg hn]
  · rfl

theorem IdOf.value {id : RequestId} (h : id.Held) : IdOf id.value id := by
  cases id with
  | number n =>
    have hread := Value.asI64_int h
    unfold RequestId.value Value.int at *
    exact .number _ n hread
  | string text => exact .string text

theorem parse_requestEnvelope {id : Int} (hid : Int64 id) (method : String) (params : Value) :
    parse (requestEnvelope id method params) = .ok (.request (.number id) method params) := by
  have hheld : (RequestId.number id).Held := hid
  have h : IdOf (.int id) (.number id) := IdOf.value hheld
  exact parse_ok_iff.2 (.inl ⟨_, rfl, .request (.int id) _ method rfl h rfl⟩)

theorem parse_notificationEnvelope (method : String) (params : Value) :
    parse (notificationEnvelope method params) = .ok (.notification method params) :=
  parse_ok_iff.2 (.inl ⟨_, rfl, .notification method rfl rfl⟩)

theorem parse_successEnvelope {id : RequestId} (hid : id.Held) (result : Value) :
    parse (successEnvelope id result) = .ok (.response id (.ok result)) :=
  parse_ok_iff.2 (.inl ⟨_, rfl, .response id.value id _ rfl (IdOf.value hid) rfl
    (.result result rfl rfl)⟩)

theorem bounded_short {text : String} (h : text.utf8ByteSize ≤ maxDetailBytes) :
    bounded text = text := if_pos h

theorem parse_failureEnvelope {id : RequestId} (hid : id.Held) {error : JsonRpcErrorObject}
    (hcode : Int64 error.code) (hmessage : error.message.utf8ByteSize ≤ maxDetailBytes) :
    parse (failureEnvelope id error) = .ok (.response id (.error error)) := by
  refine parse_ok_iff.2 (.inl ⟨_, rfl, .response id.value id _ rfl (IdOf.value hid) rfl
    (.error _ _ error rfl rfl rfl ⟨⟨_, rfl, Value.asI64_int hcode⟩,
      ⟨error.message, rfl, (bounded_short hmessage).symm⟩, ?_⟩)⟩)
  obtain ⟨code, message, data⟩ := error
  cases data with
  | none => rfl
  | some data => rfl

/-- **The reader follows the documented shapes except on mistyped objects**, and undoes the
four builders on every id, method, params, result and error within the bound. -/
theorem parse_shapes_iff (v : Value) :
    ((∀ m, parse v = .ok m ↔ HasShape v m) ↔ ¬ ∃ m, Mistyped v m) ∧
    (∀ id method params, Int64 id →
      parse (requestEnvelope id method params) = .ok (.request (.number id) method params)) ∧
    (∀ method params,
      parse (notificationEnvelope method params) = .ok (.notification method params)) ∧
    (∀ (id : RequestId) result, id.Held →
      parse (successEnvelope id result) = .ok (.response id (.ok result))) ∧
    ∀ (id : RequestId) (error : JsonRpcErrorObject), id.Held → Int64 error.code →
      error.message.utf8ByteSize ≤ maxDetailBytes →
      parse (failureEnvelope id error) = .ok (.response id (.error error)) := by
  refine ⟨⟨?_, ?_⟩, fun id method params hid => parse_requestEnvelope hid method params,
    parse_notificationEnvelope, fun id result hid => parse_successEnvelope hid result,
    fun id error hid hcode hmessage => parse_failureEnvelope hid hcode hmessage⟩
  · rintro h ⟨m, hm⟩
    exact hm.not_hasShape ((h m).mp (parse_ok_iff.2 (.inr hm)))
  · intro h m
    rw [parse_ok_iff]
    exact or_iff_left fun hm => h ⟨m, hm⟩

/-- A method that is a number makes a response of an object that has a method. -/
theorem parse_number_method : ¬ ∀ v m, parse v = .ok m ↔ HasShape v m := by
  intro h
  have hmistyped : Mistyped
      (.object [("id", .int 1), ("method", .int 5), ("result", .object [])])
      (.response (.number 1) (.ok (.object []))) :=
    ⟨_, .int 1, .number 1, .int 5, .ok (.object []), rfl, rfl, .number _ 1 rfl, rfl, rfl,
      .result _ rfl rfl, rfl⟩
  exact hmistyped.not_hasShape ((h _ _).mp (parse_ok_iff.2 (.inr hmistyped)))

end Acp

end GuiguBridge
