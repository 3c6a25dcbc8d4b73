import Mathlib.Data.BitVec

/-!
# The data contract: identities, instants, tasks and their events

The values every other module passes around, under the names of `src/src/models`.

* `Uuid` and the identifier newtypes — a `TaskId` can never stand where a `DeliveryId` is
  meant;
* `DateTime` — an instant as whole seconds plus a fraction that may name a leap second,
  ordered seconds first;
* `TaskStatus`, `TaskEventPayload`, `TaskEvent` — the immutable event log entry;
* `AgentTask` — the task row, and `NewTask`, a task as its creator builds it: **the version
  of a new task is 0**, and the structure carries that.
-/

namespace GuiguBridge

/-- A UUID as its 128 bits. -/
abbrev Uuid := BitVec 128

structure TaskId where
  uuid : Uuid
  deriving DecidableEq, Inhabited

structure EventId where
  uuid : Uuid
  deriving DecidableEq, Inhabited

structure DeliveryId where
  uuid : Uuid
  deriving DecidableEq, Inhabited

structure EndpointId where
  uuid : Uuid
  deriving DecidableEq, Inhabited

structure ConversationId where
  uuid : Uuid
  deriving DecidableEq, Inhabited

structure MessageId where
  uuid : Uuid
  deriving DecidableEq, Inhabited

/-! ### Instants -/

/-- `DateTime<Utc>`: seconds since the epoch and nanoseconds within the second.  A fraction
of one whole second and more stands for a leap second, which only follows second 59. -/
structure DateTime where
  secs : Int
  frac : Nat
  frac_lt : frac < 2000000000
  leap : 1000000000 ≤ frac → secs % 60 = 59
  deriving DecidableEq

namespace DateTime

/-- The instant `n` whole seconds after the epoch. -/
def ofSecs (n : Int) : DateTime := ⟨n, 0, by decide, by omega⟩

instance : Inhabited DateTime := ⟨ofSecs 0⟩

instance : LE DateTime :=
  ⟨fun a b => a.secs < b.secs ∨ (a.secs = b.secs ∧ a.frac ≤ b.frac)⟩

instance (a b : DateTime) : Decidable (a ≤ b) :=
  inferInstanceAs (Decidable (a.secs < b.secs ∨ (a.secs = b.secs ∧ a.frac ≤ b.frac)))

end DateTime

/-- `std::time::Duration`, in nanoseconds. -/
abbrev Duration := Nat

/-! ### Tasks and events -/

inductive TaskStatus where
  | queued | dispatched | running | completed | failed | timedOut | cancelled
  deriving DecidableEq

/-- The four statuses no later event follows. -/
def TaskStatus.isTerminal : TaskStatus → Bool
  | .completed | .failed | .timedOut | .cancelled => true
  | .queued | .dispatched | .running => false

inductive TaskEventPayload where
  | queued
  | dispatched (delivery_id : DeliveryId) (attempt : UInt32)
  | running (started_at : DateTime)
  | completed (output : String)
  | failed (error : String)
  | timedOut (deadline : DateTime)
  | cancelled (reason : String)
  deriving DecidableEq

structure TaskEvent where
  id : EventId
  task_id : TaskId
  seq : Nat
  status : TaskStatus
  timestamp : DateTime
  payload : TaskEventPayload
  deriving DecidableEq

/-- `Priority`: a value in `0..=10`. -/
structure Priority where
  value : Nat
  value_le : value ≤ 10
  deriving DecidableEq

/-- `Priority::DEFAULT`. -/
def Priority.default : Priority := ⟨5, by decide⟩

structure AgentTask where
  task_id : TaskId
  root_task_id : TaskId
  parent_task_id : Option TaskId
  from_agent : EndpointId
  to_agent : EndpointId
  conversation_id : ConversationId
  reply_to : Option MessageId
  text : String
  priority : Priority
  depth : UInt32
  hops : UInt32
  deadline : Option DateTime
  version : Nat
  deriving DecidableEq

/-- A task as every creator in the source builds it: the optimistic-concurrency version is
`0` at creation. -/
structure NewTask extends AgentTask where
  version_zero : version = 0
  deriving DecidableEq

end GuiguBridge
