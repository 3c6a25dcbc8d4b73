import GuiguBridge.Storage.Workflow

/-!
# Gateway envelopes

The bounded envelope that two bridges exchange over a Matrix room (`src/src/gateway.rs`).

* `GatewayEnvelope` and `validate` — the envelope, and what a peer may put into it;
* `GatewayEnvelope.canonical` — its JSON text, the bytes that the store retains;
* `fromUtf8Lossy` — the text of a payload, one replacement character for each run of bytes
  that is no character;
* `DeliveryPhase.canTransition` — the phases of a delivery, and `debugLower`, **the spelling of
  a phase that one of the writers uses**, which the column does not know for every phase.
-/

namespace GuiguBridge

open Relational

/-- `PROFILE`. -/
def profile : String := "a2a-matrix/1"

/-- `MAX_INLINE_BYTES`. -/
def maxInlineBytes : Nat := 262144

/-- `RETAINED_BYTES_HIGH`. -/
def retainedBytesHigh : Nat := 67108864

inductive EnvelopeKind where
  | request | ack | acceptance | status | cancel | artifact | error | retry
  deriving DecidableEq

/-- `format!("{:?}", kind).to_lowercase()`, which is also the name serde writes. -/
def EnvelopeKind.name : EnvelopeKind → String
  | .request => "request"
  | .ack => "ack"
  | .acceptance => "acceptance"
  | .status => "status"
  | .cancel => "cancel"
  | .artifact => "artifact"
  | .error => "error"
  | .retry => "retry"

def Direction.name : Direction → String
  | .inbound => "inbound"
  | .outbound => "outbound"

structure EndpointRef where
  endpoint_id : EndpointId
  peer_id : String
  deriving DecidableEq

structure ArtifactMeta where
  artifact_id : Uuid
  media_type : String
  byte_len : Nat
  sha256 : String
  deriving DecidableEq

structure Integrity where
  algorithm : String
  digest : String
  deriving DecidableEq

structure GatewayEnvelope where
  version : String
  envelope_id : Uuid
  idempotency_key : String
  direction : Direction
  peer_id : String
  sender : EndpointRef
  recipient : EndpointRef
  conversation_id : ConversationId
  correlation_id : Uuid
  causal_seq : UInt64
  created_at : String
  deadline : Option String
  kind : EnvelopeKind
  content_type : String
  payload : Option (List UInt8)
  payload_sha256 : String
  artifact : Option ArtifactMeta
  integrity : Integrity
  deriving DecidableEq

inductive EnvelopeError where
  | version | bounds | shape | peer
  deriving DecidableEq

namespace GatewayEnvelope

/-- Which of payload and artifact a kind carries. -/
def shapeOk (envelope : GatewayEnvelope) : Bool :=
  match envelope.kind with
  | .request => envelope.payload.isSome != envelope.artifact.isSome
  | .ack | .acceptance | .retry => !(envelope.payload.isSome || envelope.artifact.isSome)
  | .artifact => envelope.payload.isSome && envelope.artifact.isSome
  | .status | .cancel | .error => true

/-- `GatewayEnvelope::validate`.  A wrong peer is already out of bounds, so its own error is
never reported. -/
def validate (envelope : GatewayEnvelope) : Except EnvelopeError Unit :=
  if envelope.version ≠ profile then .error .version
  else if envelope.idempotency_key.isEmpty ∨ 128 < envelope.idempotency_key.utf8ByteSize ∨
      envelope.peer_id.isEmpty ∨ 128 < envelope.peer_id.utf8ByteSize ∨
      envelope.sender.peer_id ≠ envelope.peer_id ∨
      envelope.recipient.peer_id ≠ envelope.peer_id ∨
      128 < envelope.content_type.utf8ByteSize ∨
      envelope.payload.any (maxInlineBytes < ·.length) then .error .bounds
  else if envelope.sender.peer_id ≠ envelope.peer_id ∨
      envelope.recipient.peer_id ≠ envelope.peer_id then .error .peer
  else if envelope.shapeOk = false then .error .shape
  else if envelope.artifact.any (maxInlineBytes < ·.byte_len) then .error .bounds
  else .ok ()

end GatewayEnvelope

/-! ### The canonical text -/

section

variable [Externals]

def uuidJson (uuid : Uuid) : Json := .str (Externals.uuidText uuid)

def EndpointRef.toJson (ref : EndpointRef) : Json :=
  .obj [("endpoint_id", uuidJson ref.endpoint_id.uuid), ("peer_id", .str ref.peer_id)]

def ArtifactMeta.toJson (artifact : ArtifactMeta) : Json :=
  .obj [("artifact_id", uuidJson artifact.artifact_id),
    ("media_type", .str artifact.media_type), ("byte_len", .num artifact.byte_len),
    ("sha256", .str artifact.sha256)]

/-- `None` is `null`. -/
def optionJson {α : Type} (f : α → Json) : Option α → Json
  | none => .null
  | some a => f a

/-- `Serialize` of a `GatewayEnvelope`: the fields in the order of their declaration. -/
def GatewayEnvelope.toJson (envelope : GatewayEnvelope) : Json :=
  .obj [("version", .str envelope.version), ("envelope_id", uuidJson envelope.envelope_id),
    ("idempotency_key", .str envelope.idempotency_key),
    ("direction", .str envelope.direction.name), ("peer_id", .str envelope.peer_id),
    ("sender", envelope.sender.toJson), ("recipient", envelope.recipient.toJson),
    ("conversation_id", uuidJson envelope.conversation_id.uuid),
    ("correlation_id", uuidJson envelope.correlation_id),
    ("causal_seq", .num envelope.causal_seq.toNat), ("created_at", .str envelope.created_at),
    ("deadline", optionJson .str envelope.deadline), ("kind", .str envelope.kind.name),
    ("content_type", .str envelope.content_type),
    ("payload", optionJson (fun bytes => .arr (bytes.map fun b => .num b.toNat))
      envelope.payload),
    ("payload_sha256", .str envelope.payload_sha256),
    ("artifact", optionJson ArtifactMeta.toJson envelope.artifact),
    ("integrity", .obj [("algorithm", .str envelope.integrity.algorithm),
      ("digest", .str envelope.integrity.digest)])]

/-- `serde_json::to_vec` of the envelope, as the text it is. -/
def GatewayEnvelope.canonical (envelope : GatewayEnvelope) : String :=
  Externals.jsonText envelope.toJson

/-- `GatewayEnvelope::encoded_len`. -/
def GatewayEnvelope.encodedLen (envelope : GatewayEnvelope) : Nat :=
  envelope.canonical.utf8ByteSize

end

/-! ### The text of a payload -/

def replacementChar : Char := Char.ofNat 0xfffd

/-- A byte that continues a character. -/
def isContinuation (b : Nat) : Bool := 0x80 ≤ b && b ≤ 0xbf

/-- The second byte that may follow the first byte of a three-byte character. -/
def secondOfThree (b c : Nat) : Bool :=
  if b = 0xe0 then 0xa0 ≤ c && c ≤ 0xbf
  else if b = 0xed then 0x80 ≤ c && c ≤ 0x9f
  else isContinuation c

/-- The same of a four-byte character. -/
def secondOfFour (b c : Nat) : Bool :=
  if b = 0xf0 then 0x90 ≤ c && c ≤ 0xbf
  else if b = 0xf4 then 0x80 ≤ c && c ≤ 0x8f
  else isContinuation c

/-- The character at the front of a byte string and the number of bytes it takes.  Bytes that
are no character count as one up to the byte that spoils them. -/
def lossyFront (bytes : List Nat) : Char × Nat :=
  let b := bytes.getD 0 0
  let c := bytes.getD 1 0
  let d := bytes.getD 2 0
  let e := bytes.getD 3 0
  if b < 0x80 then (Char.ofNat b, 1)
  else if 0xc2 ≤ b ∧ b ≤ 0xdf then
    if isContinuation c then (Char.ofNat (64 * (b - 0xc0) + (c - 0x80)), 2)
    else (replacementChar, 1)
  else if 0xe0 ≤ b ∧ b ≤ 0xef then
    if !secondOfThree b c then (replacementChar, 1)
    else if !isContinuation d then (replacementChar, 2)
    else (Char.ofNat (4096 * (b - 0xe0) + 64 * (c - 0x80) + (d - 0x80)), 3)
  else if 0xf0 ≤ b ∧ b ≤ 0xf4 then
    if !secondOfFour b c then (replacementChar, 1)
    else if !isContinuation d then (replacementChar, 2)
    else if !isContinuation e then (replacementChar, 3)
    else (Char.ofNat (262144 * (b - 0xf0) + 4096 * (c - 0x80) + 64 * (d - 0x80) + (e - 0x80)), 4)
  else (replacementChar, 1)

/-- The characters of a byte string; every step takes at least one byte, so its length is fuel
enough. -/
def lossyChars : Nat → List Nat → List Char
  | 0, _ => []
  | _ + 1, [] => []
  | fuel + 1, bytes => (lossyFront bytes).1 :: lossyChars fuel (bytes.drop (lossyFront bytes).2)

/-- `String::from_utf8_lossy`. -/
def fromUtf8Lossy (bytes : List UInt8) : String :=
  String.ofList (lossyChars bytes.length (bytes.map (·.toNat)))

/-! ### Phases of a delivery -/

namespace DeliveryPhase

/-- The text of the `phase` column. -/
def column : DeliveryPhase → String
  | .pending => "pending"
  | .sendUnknown => "send_unknown"
  | .transportAcked => "transport_acked"
  | .taskAccepted => "task_accepted"
  | .terminal => "terminal"
  | .stale => "stale"
  | .recoveryNeeded => "recovery_needed"

/-- `format!("{phase:?}").to_lowercase()`. -/
def debugLower : DeliveryPhase → String
  | .pending => "pending"
  | .sendUnknown => "sendunknown"
  | .transportAcked => "transportacked"
  | .taskAccepted => "taskaccepted"
  | .terminal => "terminal"
  | .stale => "stale"
  | .recoveryNeeded => "recoveryneeded"

def all : List DeliveryPhase :=
  [.pending, .sendUnknown, .transportAcked, .taskAccepted, .terminal, .stale, .recoveryNeeded]

/-- The phase of a column text; the `CHECK` of the column refuses every other text. -/
def ofColumn (text : String) : Option DeliveryPhase := all.find? fun phase => phase.column = text

/-- `DeliveryPhase::can_transition`. -/
def canTransition : DeliveryPhase → DeliveryPhase → Bool
  | .pending, .sendUnknown | .pending, .transportAcked | .pending, .stale
  | .pending, .recoveryNeeded => true
  | .sendUnknown, .transportAcked | .sendUnknown, .recoveryNeeded => true
  | .transportAcked, .taskAccepted | .transportAcked, .stale
  | .transportAcked, .recoveryNeeded => true
  | .taskAccepted, .terminal | .taskAccepted, .stale => true
  | _, _ => false

theorem ofColumn_column (phase : DeliveryPhase) : ofColumn phase.column = some phase := by
  cases phase <;> decide

end DeliveryPhase

end GuiguBridge
