import GuiguBridge.Lib.Text

/-!
# The Matrix router

Which agent a message of a room is for, and what of it the agent gets (`src/src/matrix/router.rs`).
-/

namespace GuiguBridge

/-- A validated plain-text event. -/
structure InboundMatrixEvent where
  event_id : String
  room_id : String
  thread_root : Option String
  sender : String
  body : String
  deriving DecidableEq

structure RoutePolicy where
  aliases : String → Option String
  room_targets : String → Option String
  direct_targets : String → Option (List String)

inductive RouteError where
  | noRoute | ambiguous | forbidden | duplicate | target | bus | identity | workflow
  deriving DecidableEq

/-- The alias of a message `@alias: text`, and all that follows the colon. -/
def addressed (body : String) : Option (String × List Char) :=
  match Text.splitOnce ':' body.toList with
  | some (head, rest) =>
    (Text.stripChar '@' (Text.trim head)).map fun name => (String.ofList name, rest)
  | none => none

/-- `select_target`. -/
def selectTarget (event : InboundMatrixEvent) (policy : RoutePolicy) :
    Except RouteError (String × String) :=
  match addressed event.body with
  | some (name, rest) =>
    match policy.aliases name with
    | some agent_id => .ok (agent_id, String.ofList (Text.trimStart rest))
    | none => .error .noRoute
  | none =>
    match policy.room_targets event.room_id with
    | some agent_id => .ok (agent_id, event.body)
    | none =>
      match policy.direct_targets event.room_id with
      | some [agent_id] => .ok (agent_id, event.body)
      | some [] | none => .error .noRoute
      | some _ => .error .ambiguous

/-- What the agent of a routed message gets. -/
theorem selectTarget_text {event : InboundMatrixEvent} {policy : RoutePolicy}
    {agent_id text : String} (h : selectTarget event policy = .ok (agent_id, text)) :
    text = match addressed event.body with
      | some (_, rest) => String.ofList (Text.trimStart rest)
      | none => event.body := by
  unfold selectTarget at h
  cases haddressed : addressed event.body with
  | some found =>
    obtain ⟨name, rest⟩ := found
    rw [haddressed] at h
    dsimp only at h
    split at h
    · cases h
      rfl
    · cases h
  | none =>
    rw [haddressed] at h
    dsimp only at h
    split at h
    · cases h
      rfl
    · split at h <;> cases h
      rfl

end GuiguBridge
