import GuiguBridge.Acp.JsonRpc
import GuiguBridge.Lib.Correlation

/-!
# The transport: one child, one loop, and the callers

Callers send requests and wait for their own replies; one loop owns the child and its pipes
(`src/src/acp/transport.rs`).  A step is one event: a caller calls, gets its slot in the channel
or gives up; the loop takes one branch of its `select!`, routes one frame, or is over.  The order
of the events is arbitrary, so the preference of `biased` is one order among them.

* `Transport` — the counter, the channel, what is pending, the stream and the phase of the loop;
* `route`, `accumulate`, `failAll`, `sweepAbandoned` — the functions of the loop;
* `Transport.step`, `transportAt` — one event, and any number of them;
* `Transport.ledger`, `TransportInv.step` — **the transport refines the ledger of requests**;
* `requests_correlated` — **exactly once, by the first response after the request was written**.
-/

namespace GuiguBridge

namespace Acp

open Correlation

/-! ### What the loop keeps -/

/-- `OUTGOING_CAPACITY`. -/
def OUTGOING_CAPACITY : Nat := 8

/-- `TRUNCATION_MARKER`. -/
def TRUNCATION_MARKER : String := "…[truncated]"

structure TransportLimits where
  max_frame_bytes : Nat
  max_output_bytes : Nat
  deriving DecidableEq

inductive Phase where
  | spawn | initialise | authenticate | session | prompt | shutdown
  deriving DecidableEq

/-- `AcpError`, as far as the loop makes it. -/
inductive TransportError where
  | streamBackpressure
  | exited (phase : Phase) (detail : String)
  | transportClosed
  | frame (source : FrameError)
  | protocol (source : ProtocolError)
  | schema (method detail : String)
  | agent (source : JsonRpcErrorObject)

structure CompletedRequest where
  result : Value
  streamed_text : String

abbrev Completion := Except TransportError CompletedRequest

/-- `Outgoing::Request`; the responder is named by the id. -/
structure Request where
  id : Int
  phase : Phase
  method : String
  params : Value
  updates : Bool
  durable_updates : Bool

inductive Outgoing where
  | request (r : Request)
  | shutdown
  | notification (method : String) (params : Value)
  | cancel (id : Int)

structure Pending where
  id : Int
  phase : Phase
  session : Option String
  output : String
  output_truncated : Bool
  updates : Bool
  durable_updates : Bool

/-- Where the loop is. -/
inductive LoopPhase where
  | sweeping
  | selecting
  | routing
  | exiting (detail : String)
  | terminating
  | ended
  deriving DecidableEq

/-- What happens to a request: it is accepted by the channel, abandoned by its caller, written
to the child, answered by the child, or completed at its caller. -/
abbrev TransportEvent := Event Int (Except JsonRpcErrorObject Value) Completion

structure Transport where
  next_id : Int
  alive : Bool
  /-- The callers that wait for a slot of the channel. -/
  calling : List Request
  outgoing : List Outgoing
  pending : List Pending
  /-- The ids whose reply receivers are closed. -/
  gone : List Int
  frames : FrameReader
  /-- What was written to the child. -/
  stdin : List Value
  phase : LoopPhase
  log : List TransportEvent

/-- `AcpTransport::spawn`. -/
def Transport.spawned (limits : TransportLimits) : Transport :=
  { next_id := 0, alive := true, calling := [], outgoing := [], pending := [], gone := [],
    frames := ⟨[], limits.max_frame_bytes⟩, stdin := [], phase := .sweeping, log := [] }

/-- `prompt_session`. -/
def promptSession (method : String) (params : Value) : Option String :=
  if method ≠ METHOD_SESSION_PROMPT then none
  else
    match (params.get "sessionId").bind Value.asStr with
    | none => none
    | some session =>
      if session.isEmpty || decide (session.utf8ByteSize > 256) then none else some session

/-- `describe_exit`. -/
def describeExit : Option Int → String
  | some code => "status " ++ toString code
  | none => "signal or unknown"

/-- `frame_failure`. -/
def frameFailure : FrameError → TransportError
  | .io => .transportClosed
  | source => .frame source

/-- The entry of a request that was written. -/
def Request.pending (r : Request) : Pending :=
  { id := r.id, phase := r.phase, session := promptSession r.method r.params, output := "",
    output_truncated := false, updates := r.updates, durable_updates := r.durable_updates }

/-- What a response makes of the request. -/
def answer (outcome : Except JsonRpcErrorObject Value) (output : String) : Completion :=
  match outcome with
  | .ok result => .ok ⟨result, output⟩
  | .error source => .error (.agent source)

namespace Transport

def note (event : TransportEvent) (t : Transport) : Transport := { t with log := t.log ++ [event] }

/-- `framing::write_frame`, when it succeeds. -/
def writeFrame (value : Value) (t : Transport) : Transport :=
  { t with stdin := t.stdin ++ [value] }

/-- The responder is used or dropped: the caller sees `result`, unless its receiver is closed. -/
def complete (id : Int) (result : Completion) (t : Transport) : Transport :=
  if id ∈ t.gone then t else t.note (.completed id result)

/-- Several responders in turn. -/
def completeAll (results : List (Int × Completion)) (t : Transport) : Transport :=
  results.foldl (fun t r => t.complete r.1 r.2) t

/-- `fail_all`. -/
def failAll (failure : Phase → TransportError) (t : Transport) : Transport :=
  completeAll (t.pending.map fun entry => (entry.id, .error (failure entry.phase)))
    { t with pending := [] }

/-- `fail_all`, and out of the loop. -/
def stopped (failure : Phase → TransportError) (t : Transport) : Transport :=
  { t.failAll failure with phase := .terminating }

/-- `sweep_abandoned`. -/
def sweepAbandoned (t : Transport) : Transport :=
  { t with pending := t.pending.filter fun entry => decide (entry.id ∉ t.gone) }

/-- `pending.remove`. -/
def remove (id : Int) (t : Transport) : Transport :=
  { t with pending := t.pending.filter fun entry => decide (entry.id ≠ id) }

/-- `pending.insert`. -/
def insert (entry : Pending) (t : Transport) : Transport :=
  { t with pending := (t.remove entry.id).pending ++ [entry] }

end Transport

/-! ### Routing -/

/-- What the other ends of the channels and of the pipe do with one frame. -/
structure RouteAnswers where
  displayed : Int → Bool
  durable : Int → Bool
  written : Bool

/-- The display lane is full or gone, and there is no durable one. -/
def Pending.overflows (answers : RouteAnswers) (session_id : String) (entry : Pending) : Bool :=
  decide (entry.session = some session_id) && entry.updates && !answers.displayed entry.id &&
    !entry.durable_updates

/-- The owner of the durable lane has stopped. -/
def Pending.breaks (answers : RouteAnswers) (session_id : String) (entry : Pending) : Bool :=
  decide (entry.session = some session_id) && entry.durable_updates && !answers.durable entry.id

/-- A chunk goes to the text of the turn, as far as there is room. -/
def Pending.extend (max_output_bytes : Nat) (session_id text : String) (entry : Pending) :
    Pending :=
  if entry.session ≠ some session_id then entry
  else if entry.output.utf8ByteSize + text.utf8ByteSize ≤ max_output_bytes then
    { entry with output := entry.output ++ text }
  else if entry.output_truncated then entry
  else { entry with output := entry.output ++ TRUNCATION_MARKER, output_truncated := true }

/-- The entries that a chunk of `session_id` reaches, with it. -/
def extendAll (limits : TransportLimits) (answers : RouteAnswers) (session_id text : String)
    (pending : List Pending) : List Pending :=
  (pending.filter fun entry => !entry.overflows answers session_id).map
    (Pending.extend limits.max_output_bytes session_id text)

/-- The requests that a chunk ends, because its lane is full. -/
def overflowed (answers : RouteAnswers) (session_id : String) (pending : List Pending) :
    List (Int × Completion) :=
  (pending.filter (Pending.overflows answers session_id)).map fun entry =>
    (entry.id, .error .streamBackpressure)

/-- A chunk of `session_id`. -/
def accumulateText (limits : TransportLimits) (answers : RouteAnswers) (session_id text : String)
    (t : Transport) : Except TransportError Transport :=
  if t.pending.any (Pending.breaks answers session_id) then
    .error (.schema METHOD_SESSION_PROMPT "durable output owner stopped")
  else
    .ok (Transport.completeAll (overflowed answers session_id t.pending)
      { t with pending := extendAll limits answers session_id text t.pending })

/-- `accumulate`. -/
def accumulate [WireCrates] (limits : TransportLimits) (answers : RouteAnswers) (params : Value)
    (t : Transport) : Except TransportError Transport :=
  match WireCrates.sessionNotification params with
  | none => .ok t
  | some notification =>
    match notification.update with
    | .other => .ok t
    | .agentMessageChunk content =>
      match content.asText with
      | none => .ok t
      | some text => accumulateText limits answers notification.session_id text t

/-- A response goes to the entry under its number. -/
def routeResponse (numeric : Int) (outcome : Except JsonRpcErrorObject Value) (t : Transport) :
    Transport :=
  match t.pending.find? fun entry => decide (entry.id = numeric) with
  | none => t.note (.responded numeric outcome)
  | some entry =>
    ((t.note (.responded numeric outcome)).remove numeric).complete numeric
      (answer outcome entry.output)

/-- `route`. -/
def route [WireCrates] (limits : TransportLimits) (answers : RouteAnswers) (value : Value)
    (t : Transport) : Except TransportError Transport :=
  match parse value with
  | .error source => .error (.protocol source)
  | .ok (.response id outcome) =>
    match id.asNumber with
    | none => .ok t
    | some numeric => .ok (routeResponse numeric outcome t)
  | .ok (.notification method params) =>
    if method = METHOD_SESSION_UPDATE then accumulate limits answers params t else .ok t
  | .ok (.request id method params) =>
    if answers.written then .ok (t.writeFrame (agentRequestResponse id method params))
    else .error (.frame .io)

/-! ### The steps -/

/-- What happens next. -/
inductive TransportInput where
  | call (phase : Phase) (method : String) (params : Value) (updates durable_updates : Bool)
  | send (id : Int)
  | abandon (id : Int)
  | cancel (id : Int)
  | notify (method : String) (params : Value)
  | shutdown
  | sweep
  | closed (code : Option Int)
  | bytes (chunk : Bytes)
  | readFailed
  | receive (written : Bool)
  | hungUp
  | stderr
  | exited (code : Option (Option Int)) (remainder : Option Bytes)
  | frame (answers : RouteAnswers)
  | reaped

namespace Transport

/-- A message for which the channel has a slot. -/
def enqueue (message : Outgoing) (t : Transport) : Transport :=
  if t.phase ≠ .ended ∧ t.outgoing.length < OUTGOING_CAPACITY then
    { t with outgoing := t.outgoing ++ [message] }
  else t

/-- `request` and `request_stream_with_durable`, up to the send. -/
def call (phase : Phase) (method : String) (params : Value) (updates durable_updates : Bool)
    (t : Transport) : Transport :=
  if t.alive then
    { t with next_id := t.next_id + 1
             calling := t.calling ++ [⟨t.next_id + 1, phase, method, params, updates,
               durable_updates⟩] }
  else t

/-- The send of a caller: the request is in the channel, or the channel is gone. -/
def send (id : Int) (t : Transport) : Transport :=
  match t.calling.find? fun r => decide (r.id = id) with
  | none => t
  | some r =>
    if t.phase = .ended then { t with calling := t.calling.filter fun r => decide (r.id ≠ id) }
    else if t.outgoing.length < OUTGOING_CAPACITY then
      { t with calling := t.calling.filter fun r => decide (r.id ≠ id)
               outgoing := t.outgoing ++ [.request r]
               log := t.log ++ [.accepted id] }
    else t

/-- A caller times out or is dropped, while it waits for its slot or for its reply. -/
def abandon (id : Int) (t : Transport) : Transport :=
  if 0 < id ∧ id ≤ t.next_id then
    { t with calling := t.calling.filter fun r => decide (r.id ≠ id)
             gone := id :: t.gone
             log := t.log ++ [.abandoned id] }
  else t

/-- `RequestGuard::drop`: the receiver is closed by then. -/
def cancel (id : Int) (t : Transport) : Transport :=
  if id ∈ t.gone then t.enqueue (.cancel id) else t

/-- A message of the channel. -/
def handle (written : Bool) (message : Outgoing) (t : Transport) : Transport :=
  match message with
  | .request r =>
    if written then
      ((t.writeFrame (requestEnvelope r.id r.method r.params)).note (.wrote r.id)).insert r.pending
    else (t.complete r.id (.error (.frame .io))).stopped fun _ => .transportClosed
  | .cancel id => t.remove id
  | .notification method params =>
    if written then t.writeFrame (notificationEnvelope method params) else t
  | .shutdown => t.stopped fun phase => .exited phase "the transport was shut down"

/-- `outgoing.recv()`. -/
def receive (written : Bool) (t : Transport) : Transport :=
  match t.outgoing with
  | [] => t
  | message :: rest => { t with outgoing := rest, phase := .sweeping }.handle written message

/-- The end of stdout. -/
def closed (code : Option Int) (t : Transport) : Transport :=
  match t.frames.finish with
  | .error source => t.stopped fun _ => frameFailure source
  | .ok () => t.stopped fun phase => .exited phase (match code with
      | some code => describeExit (some code)
      | none => "the backend closed its output stream")

/-- The child is gone; what is left of stdout is routed. -/
def exited (code : Option (Option Int)) (remainder : Option Bytes) (t : Transport) : Transport :=
  match remainder with
  | none => t.stopped fun _ => .transportClosed
  | some bytes =>
    { t with frames := t.frames.push bytes
             phase := .exiting (match code with
               | some code => describeExit code
               | none => "unknown") }

/-- One turn of the loop over the frames of a chunk, or of the remainder. -/
def routeNext [WireCrates] (limits : TransportLimits) (answers : RouteAnswers) (t : Transport) :
    Transport :=
  match t.frames.nextFrame with
  | (.ok (some value), frames) =>
    match route limits answers value { t with frames := frames } with
    | .ok t => t
    | .error _ => ({ t with frames := frames }).stopped fun _ => .transportClosed
  | (.ok none, frames) =>
    match t.phase with
    | .exiting detail =>
      match frames.finish with
      | .error source => ({ t with frames := frames }).stopped fun _ => frameFailure source
      | .ok () => ({ t with frames := frames }).stopped fun phase => .exited phase detail
    | _ => { t with frames := frames, phase := .sweeping }
  | (.error source, frames) => ({ t with frames := frames }).stopped fun _ => frameFailure source

/-- The child is reaped and `run_loop` returns; the receiver goes, and with it every responder
that is still in the channel. -/
def reaped (t : Transport) : Transport :=
  completeAll (t.outgoing.filterMap fun
      | .request r => some (r.id, .error .transportClosed)
      | _ => none)
    { t with alive := false, outgoing := [], phase := .ended }

/-- The loop is at its `select!`. -/
def atSelect (t : Transport) (next : Transport) : Transport :=
  if t.phase = .selecting then next else t

/-- The loop is at a frame. -/
def atFrame (t : Transport) (next : Transport) : Transport :=
  match t.phase with
  | .routing | .exiting _ => next
  | _ => t

/-- **One event.** -/
def step [WireCrates] (limits : TransportLimits) (t : Transport) (input : TransportInput) :
    Transport :=
  match input with
  | .call phase method params updates durable_updates =>
    t.call phase method params updates durable_updates
  | .send id => t.send id
  | .abandon id => t.abandon id
  | .cancel id => t.cancel id
  | .notify method params => t.enqueue (.notification method params)
  | .shutdown => t.enqueue .shutdown
  | .sweep =>
    if t.phase = .sweeping then { t.sweepAbandoned with phase := .selecting } else t
  | .closed code => t.atSelect (t.closed code)
  | .bytes chunk => t.atSelect { t with frames := t.frames.push chunk, phase := .routing }
  | .readFailed => t.atSelect (t.stopped fun _ => .transportClosed)
  | .receive written => t.atSelect (t.receive written)
  | .hungUp =>
    t.atSelect (if t.outgoing.isEmpty then
      t.stopped fun phase => .exited phase "the transport was shut down" else t)
  | .stderr => t.atSelect { t with phase := .sweeping }
  | .exited code remainder => t.atSelect (t.exited code remainder)
  | .frame answers => t.atFrame (t.routeNext limits answers)
  | .reaped => if t.phase = .terminating then t.reaped else t

end Transport

/-- The transport after some events. -/
def transportAt [WireCrates] (limits : TransportLimits) (inputs : List TransportInput) :
    Transport :=
  inputs.foldl (Transport.step limits) (Transport.spawned limits)

/-! ### The ledger of the requests -/

/-- The request of a message. -/
def Outgoing.requestId : Outgoing → Option Int
  | .request r => some r.id
  | _ => none

/-- A completion that is the response. -/
def Answers (outcome : Except JsonRpcErrorObject Value) (result : Completion) : Prop :=
  ∃ text, result = answer outcome text

/-- The transport, as far as it is about who waits for what. -/
def Transport.ledger (t : Transport) : Ledger Int (Except JsonRpcErrorObject Value) Completion where
  issued := {id | 0 < id ∧ id ≤ t.next_id}
  calling := t.calling.map (·.id)
  queued := t.outgoing.filterMap Outgoing.requestId
  pending := t.pending.map (·.id)
  gone := t.gone
  log := t.log

abbrev TransportLedger := Ledger Int (Except JsonRpcErrorObject Value) Completion

abbrev LedgerStep (l l' : TransportLedger) : Prop := Ledger.Step Answers l l'

/-- One move of the ledger, or none. -/
def Moves (t t' : Transport) : Prop := t'.ledger = t.ledger ∨ LedgerStep t.ledger t'.ledger

theorem answer_answers (outcome : Except JsonRpcErrorObject Value) (text : String) :
    Answers outcome (answer outcome text) := ⟨text, rfl⟩

/-- An error of the transport is no response. -/
theorem error_not_answers {error : TransportError} (h : ∀ source, error ≠ .agent source)
    (outcome : Except JsonRpcErrorObject Value) : ¬ Answers outcome (.error error) := by
  intro hanswers
  obtain ⟨text, hresult⟩ := hanswers
  cases outcome with
  | ok result => cases hresult
  | error source => exact h source (Except.error.inj hresult)

namespace Transport

theorem completeAll_eq (results : List (Int × Completion)) (t : Transport) :
    completeAll results t = { t with log := t.log ++ completions t.gone results } := by
  induction results generalizing t with
  | nil => simp [completeAll, completions]
  | cons r results ih =>
    show completeAll results (t.complete r.1 r.2) = _
    rw [ih]
    unfold complete
    by_cases hgone : r.1 ∈ t.gone
    · simp [completions, hgone]
    · simp [completions, hgone, note]

theorem complete_eq (id : Int) (result : Completion) (t : Transport) :
    t.complete id result = completeAll [(id, result)] t := rfl

/-- The failures of all that is pending. -/
def failures (failure : Phase → TransportError) (t : Transport) : List (Int × Completion) :=
  t.pending.map fun entry => (entry.id, .error (failure entry.phase))

theorem failures_keys (failure : Phase → TransportError) (t : Transport) :
    (t.failures failure).map (·.1) = t.pending.map (·.id) := by
  unfold failures
  rw [List.map_map]
  rfl

theorem stopped_eq (failure : Phase → TransportError) (t : Transport) :
    t.stopped failure = { t with pending := [], phase := .terminating,
                                 log := t.log ++ completions t.gone (t.failures failure) } := by
  unfold stopped failAll
  rw [completeAll_eq]
  rfl

end Transport

/-! ### Each event is a move of the ledger -/

section Refinement

variable {t : Transport}

theorem leaves_refl (gone : List Int) (results : List (Int × Completion)) (keys : List Int) :
    Ledger.Leaves gone results keys keys :=
  ⟨List.Sublist.refl _, fun _ h hnot => absurd h hnot⟩

/-- All that is pending fails. -/
theorem stopped_moves (hinv : Ledger.Inv Answers t.ledger) {failure : Phase → TransportError}
    (hfailure : ∀ phase source, failure phase ≠ .agent source) : Moves t (t.stopped failure) := by
  refine Or.inr ?_
  rw [Transport.stopped_eq]
  have hkeys := Transport.failures_keys failure t
  refine Ledger.Step.settle t.ledger t.ledger.queued [] (t.failures failure)
    (leaves_refl _ _ _) ⟨List.nil_sublist _, ?_⟩ ?_ ?_ ?_
  · intro k hk _
    rw [hkeys]
    exact Or.inr hk
  · rw [hkeys]
    exact (List.nodup_append.mp (List.nodup_append.mp hinv.nodup).2.1).2.1
  · intro k hk
    rw [hkeys] at hk
    exact Or.inr ⟨hk, List.not_mem_nil⟩
  · intro r hr o
    obtain ⟨entry, -, rfl⟩ := List.mem_map.mp hr
    exact error_not_answers (hfailure entry.phase) o

/-- Entries whose callers are gone are dropped. -/
theorem dropped_moves {keep : Pending → Bool}
    (h : ∀ entry ∈ t.pending, keep entry = false → entry.id ∈ t.gone) :
    LedgerStep t.ledger { t.ledger with pending := (t.pending.filter keep).map (·.id) } := by
  have hleft : ∀ k ∈ t.ledger.pending, k ∉ (t.pending.filter keep).map (·.id) →
      k ∈ t.ledger.gone ∨ k ∈ ([] : List (Int × Completion)).map (·.1) := by
    intro k hk hnot
    obtain ⟨entry, hentry, rfl⟩ := List.mem_map.mp hk
    refine Or.inl (h entry hentry ?_)
    rw [Bool.eq_false_iff]
    intro hkeep
    exact hnot (List.mem_map_of_mem (List.mem_filter.mpr ⟨hentry, hkeep⟩))
  have hstep : LedgerStep t.ledger _ := Ledger.Step.settle t.ledger t.ledger.queued
    ((t.pending.filter keep).map (·.id)) [] (leaves_refl _ _ _)
    ⟨List.filter_sublist.map _, hleft⟩ List.nodup_nil (fun _ hk => absurd hk List.not_mem_nil)
    fun _ hr => absurd hr List.not_mem_nil
  have hlog : t.ledger.log ++ completions t.ledger.gone [] = t.ledger.log := List.append_nil _
  rw [hlog] at hstep
  exact hstep

/-- What every event keeps. -/
structure TransportInv (t : Transport) : Prop where
  ledger : Ledger.Inv Answers t.ledger
  next_id : 0 ≤ t.next_id
  cancels : ∀ id, .cancel id ∈ t.outgoing → id ∈ t.gone
  emptied : t.phase = .terminating ∨ t.phase = .ended → t.pending = []
  ended : t.phase = .ended → t.outgoing = []

theorem Moves.inv {t' : Transport} (hmoves : Moves t t') (h : Ledger.Inv Answers t.ledger) :
    Ledger.Inv Answers t'.ledger := by
  rcases hmoves with hsame | hstep
  · rw [hsame]
    exact h
  · exact h.step hstep

theorem inv_spawned (limits : TransportLimits) : TransportInv (Transport.spawned limits) where
  ledger := by
    have hempty : (Transport.spawned limits).ledger = Ledger.empty := by
      unfold Transport.ledger Transport.spawned Ledger.empty
      congr 1
      ext id
      simp only [Set.mem_ofPred_eq, Set.mem_empty_iff_false, iff_false]
      omega
    rw [hempty]
    exact Ledger.inv_empty
  next_id := Int.le_refl 0
  cancels := fun _ h => absurd h List.not_mem_nil
  emptied := fun _ => rfl
  ended := fun _ => rfl

/-- The loop is over. -/
theorem TransportInv.stopped (h : TransportInv t) {failure : Phase → TransportError}
    (hfailure : ∀ phase source, failure phase ≠ .agent source) :
    TransportInv (t.stopped failure) := by
  have hmoves := stopped_moves h.ledger hfailure
  have hledger := hmoves.inv h.ledger
  rw [Transport.stopped_eq] at hledger ⊢
  exact ⟨hledger, h.next_id, h.cancels, fun _ => rfl, nofun⟩

/-- A step that only moves the stream and the loop. -/
theorem TransportInv.moved (h : TransportInv t) (frames : FrameReader) (stdin : List Value)
    {phase : LoopPhase} (hphase : phase ≠ .terminating ∧ phase ≠ .ended) :
    TransportInv { t with frames := frames, stdin := stdin, phase := phase } where
  ledger := h.ledger
  next_id := h.next_id
  cancels := h.cancels
  emptied := fun hover => hover.elim (fun hp => absurd hp hphase.1) fun hp => absurd hp hphase.2
  ended := fun hended => absurd hended hphase.2

/-! ### The callers -/

theorem TransportInv.call (h : TransportInv t) (phase : Phase) (method : String) (params : Value)
    (updates durable_updates : Bool) :
    TransportInv (t.call phase method params updates durable_updates) := by
  have hnext := h.next_id
  unfold Transport.call
  split
  · have hfresh : t.next_id + 1 ∉ t.ledger.issued := by
      intro hmem
      have hle : t.next_id + 1 ≤ t.next_id := hmem.2
      omega
    have hissued : insert (t.next_id + 1) t.ledger.issued =
        {id | 0 < id ∧ id ≤ t.next_id + 1} := by
      ext id
      simp only [Transport.ledger, Set.mem_insert_iff, Set.mem_ofPred_eq]
      omega
    have hstep := h.ledger.issue hfresh
    rw [hissued] at hstep
    refine ⟨?_, ?_, h.cancels, h.emptied, h.ended⟩
    · simpa [Transport.ledger] using hstep
    · show 0 ≤ t.next_id + 1
      omega
  · exact h

theorem filter_ids (requests : List Request) (id : Int) :
    (requests.filter fun r => decide (r.id ≠ id)).map (·.id) =
      (requests.map (·.id)).filter fun j => decide (j ≠ id) := by
  rw [List.filter_map]
  rfl

theorem TransportInv.send (h : TransportInv t) (id : Int) : TransportInv (t.send id) := by
  unfold Transport.send
  split
  · exact h
  · rename_i r hfound
    have hr := List.mem_of_find?_eq_some hfound
    have hid : r.id = id := by
      have hp := List.find?_some hfound
      rw [decide_eq_true_eq] at hp
      exact hp
    split
    · have hledger := h.ledger.refuse id
      refine ⟨?_, h.next_id, h.cancels, h.emptied, h.ended⟩
      unfold Transport.ledger at hledger ⊢
      rw [filter_ids]
      exact hledger
    · rename_i hopen
      split
      · have hcalling : id ∈ t.ledger.calling := by
          rw [← hid]
          exact List.mem_map_of_mem hr
        have hledger := h.ledger.accept hcalling
        refine ⟨?_, h.next_id, ?_, h.emptied, fun hended => absurd hended hopen⟩
        · have hqueue : (t.outgoing ++ [Outgoing.request r]).filterMap Outgoing.requestId =
              t.outgoing.filterMap Outgoing.requestId ++ [id] := by
            rw [List.filterMap_append, ← hid]
            rfl
          unfold Transport.ledger at hledger ⊢
          rw [filter_ids, hqueue]
          exact hledger
        · intro j hj
          rcases List.mem_append.mp hj with hold | hnew
          · exact h.cancels j hold
          · cases List.mem_singleton.mp hnew
      · exact h

theorem TransportInv.abandon (h : TransportInv t) (id : Int) : TransportInv (t.abandon id) := by
  unfold Transport.abandon
  split
  · have hledger := h.ledger.abandon id
    refine ⟨?_, h.next_id, fun j hj => List.mem_cons_of_mem _ (h.cancels j hj), h.emptied, h.ended⟩
    unfold Transport.ledger at hledger ⊢
    rw [filter_ids]
    exact hledger
  · exact h

/-- A message that is no request. -/
theorem TransportInv.enqueue (h : TransportInv t) {message : Outgoing}
    (hmessage : message.requestId = none)
    (hcancel : ∀ id, message = .cancel id → id ∈ t.gone) : TransportInv (t.enqueue message) := by
  unfold Transport.enqueue
  split
  · rename_i hopen
    have hledger : ({ t with outgoing := t.outgoing ++ [message] } : Transport).ledger =
        t.ledger := by
      simp [Transport.ledger, hmessage]
    refine ⟨?_, h.next_id, ?_, h.emptied, fun hended => absurd hended hopen.1⟩
    · rw [hledger]
      exact h.ledger
    · intro id hid
      rcases List.mem_append.mp hid with hold | hnew
      · exact h.cancels id hold
      · exact hcancel id (List.mem_singleton.mp hnew).symm
  · exact h

/-! ### The loop -/

theorem TransportInv.sweep (h : TransportInv t) :
    TransportInv { t.sweepAbandoned with phase := .selecting } := by
  have hdropped : ∀ entry ∈ t.pending, decide (entry.id ∉ t.gone) = false → entry.id ∈ t.gone := by
    intro entry _ hkeep
    rw [decide_eq_false_iff_not] at hkeep
    exact Classical.not_not.mp hkeep
  exact ⟨h.ledger.step (dropped_moves hdropped), h.next_id, h.cancels, nofun, nofun⟩

/-- The keys of the pending requests are distinct. -/
theorem TransportInv.pending_nodup (h : TransportInv t) : (t.pending.map (·.id)).Nodup :=
  (List.nodup_append.mp (List.nodup_append.mp h.ledger.nodup).2.1).2.1

/-- A request that is written becomes pending. -/
theorem TransportInv.write (h : TransportInv t) {r : Request} {rest : List Outgoing}
    (hqueue : t.outgoing = .request r :: rest) (stdin : List Value) :
    TransportInv ((({ t with outgoing := rest, phase := .sweeping, stdin := stdin } :
      Transport).note (.wrote r.id)).insert r.pending) := by
  have hqueued : t.ledger.queued = r.id :: rest.filterMap Outgoing.requestId := by
    unfold Transport.ledger
    rw [hqueue]
    rfl
  have hnodup := h.ledger.nodup
  rw [List.nodup_append, List.nodup_append] at hnodup
  have hnew : ∀ entry ∈ t.pending, entry.id ≠ r.id := by
    intro entry hentry hsame
    have hr : r.id ∈ t.ledger.queued := by
      rw [hqueued]
      exact List.mem_cons_self
    exact hnodup.2.1.2.2 r.id hr entry.id (List.mem_map_of_mem hentry) hsame.symm
  have hpending : (t.pending.filter fun entry => decide (entry.id ≠ r.id)) = t.pending := by
    rw [List.filter_eq_self]
    intro entry hentry
    exact decide_eq_true (hnew entry hentry)
  have hledger := h.ledger.write hqueued
  refine ⟨?_, h.next_id, ?_, nofun, nofun⟩
  · have hsame : (((({ t with outgoing := rest, phase := .sweeping, stdin := stdin } :
        Transport).note (.wrote r.id)).insert r.pending).pending).map (·.id) =
        t.pending.map (·.id) ++ [r.id] := by
      show ((t.pending.filter fun entry => decide (entry.id ≠ r.id)) ++ [r.pending]).map (·.id) = _
      rw [hpending, List.map_append]
      rfl
    show Ledger.Inv Answers { t.ledger with
      queued := rest.filterMap Outgoing.requestId
      pending := _
      log := t.log ++ [.wrote r.id] }
    rw [hsame]
    exact hledger
  · intro id hid
    apply h.cancels id
    rw [hqueue]
    exact List.mem_cons_of_mem _ hid

/-- A message that is no request leaves the channel. -/
theorem TransportInv.taken (h : TransportInv t) {message : Outgoing} {rest : List Outgoing}
    (hqueue : t.outgoing = message :: rest) (hmessage : message.requestId = none) :
    TransportInv { t with outgoing := rest, phase := .sweeping } := by
  have hledger : ({ t with outgoing := rest, phase := .sweeping } : Transport).ledger =
      t.ledger := by
    simp [Transport.ledger, hqueue, hmessage]
  refine ⟨?_, h.next_id, ?_, nofun, nofun⟩
  · rw [hledger]
    exact h.ledger
  · intro id hid
    apply h.cancels id
    rw [hqueue]
    exact List.mem_cons_of_mem _ hid

/-- The entry of a caller that gave up is removed. -/
theorem TransportInv.remove (h : TransportInv t) {id : Int} (hgone : id ∈ t.gone) :
    TransportInv (t.remove id) := by
  have hdropped : ∀ entry ∈ t.pending, decide (entry.id ≠ id) = false → entry.id ∈ t.gone := by
    intro entry _ hkeep
    rw [decide_eq_false_iff_not] at hkeep
    rw [Classical.not_not.mp hkeep]
    exact hgone
  refine ⟨h.ledger.step (dropped_moves hdropped), h.next_id, h.cancels, ?_, h.ended⟩
  intro hover
  show t.pending.filter _ = []
  rw [h.emptied hover]
  rfl

/-- A request that cannot be written fails, and all that is pending with it. -/
theorem TransportInv.unwritten (h : TransportInv t) {r : Request} {rest : List Outgoing}
    (hqueue : t.outgoing = .request r :: rest) :
    TransportInv ((({ t with outgoing := rest, phase := .sweeping } :
      Transport).complete r.id (.error (.frame .io))).stopped fun _ => .transportClosed) := by
  have hqueued : t.ledger.queued = r.id :: rest.filterMap Outgoing.requestId := by
    unfold Transport.ledger
    rw [hqueue]
    rfl
  have hnodup := h.ledger.nodup
  rw [List.nodup_append, List.nodup_append, hqueued] at hnodup
  obtain ⟨-, ⟨hq, hp, hqp⟩, -⟩ := hnodup
  rw [List.nodup_cons] at hq
  have hkeys := Transport.failures_keys (fun _ => .transportClosed) t
  have hpending : t.ledger.pending = t.pending.map (·.id) := rfl
  have hmem : ∀ k, k ∈ ((r.id, .error (.frame .io)) ::
      t.failures fun _ => .transportClosed).map (·.1) ↔ k = r.id ∨ k ∈ t.pending.map (·.id) := by
    intro k
    rw [List.map_cons, List.mem_cons, hkeys]
  have hstep : LedgerStep t.ledger _ := Ledger.Step.settle t.ledger
    (rest.filterMap Outgoing.requestId) []
    ((r.id, .error (.frame .io)) :: t.failures fun _ => .transportClosed)
    ⟨?_, ?_⟩ ⟨List.nil_sublist _, ?_⟩ ?_ ?_ ?_
  · have hledger := h.ledger.step hstep
    rw [Transport.stopped_eq, Transport.complete_eq, Transport.completeAll_eq]
    refine ⟨?_, h.next_id, ?_, fun _ => rfl, nofun⟩
    · have hlog : t.log ++ completions t.gone [(r.id, .error (.frame .io))] ++
          completions t.gone (t.failures fun _ => .transportClosed) = t.log ++ completions t.gone
            ((r.id, .error (.frame .io)) :: t.failures fun _ => .transportClosed) := by
        rw [List.append_assoc]
        apply congrArg (t.log ++ ·)
        unfold completions
        rw [← List.map_append, ← List.filter_append]
        rfl
      show Ledger.Inv Answers { t.ledger with
        queued := rest.filterMap Outgoing.requestId
        pending := []
        log := t.log ++ completions t.gone [(r.id, .error (.frame .io))] ++
          completions t.gone (t.failures fun _ => .transportClosed) }
      rw [hlog]
      exact hledger
    · intro id hid
      apply h.cancels id
      rw [hqueue]
      exact List.mem_cons_of_mem _ hid
  · rw [hqueued]
    exact List.sublist_cons_self _ _
  · intro k hk hnot
    rw [hqueued] at hk
    rcases List.mem_cons.mp hk with rfl | hrest
    · exact Or.inr ((hmem _).mpr (Or.inl rfl))
    · exact absurd hrest hnot
  · intro k hk _
    exact Or.inr ((hmem k).mpr (Or.inr hk))
  · rw [List.map_cons, List.nodup_cons, hkeys]
    refine ⟨?_, hp⟩
    intro hk
    exact hqp r.id List.mem_cons_self r.id hk rfl
  · intro k hk
    rcases (hmem k).mp hk with rfl | hold
    · rw [hqueued]
      exact Or.inl ⟨List.mem_cons_self, hq.1⟩
    · exact Or.inr ⟨hold, List.not_mem_nil⟩
  · intro x hx o
    rcases List.mem_cons.mp hx with rfl | hfailure
    · exact error_not_answers (fun _ hagent => TransportError.noConfusion hagent) o
    · obtain ⟨entry, -, rfl⟩ := List.mem_map.mp hfailure
      exact error_not_answers (fun _ hagent => TransportError.noConfusion hagent) o

/-! ### Frames -/

theorem extend_id (max_output_bytes : Nat) (session_id text : String) (entry : Pending) :
    (entry.extend max_output_bytes session_id text).id = entry.id := by
  unfold Pending.extend
  split
  · rfl
  · split
    · rfl
    · split
      · rfl
      · rfl

theorem extendAll_ids (limits : TransportLimits) (answers : RouteAnswers)
    (session_id text : String) (pending : List Pending) :
    (extendAll limits answers session_id text pending).map (·.id) =
      (pending.filter fun entry => !entry.overflows answers session_id).map (·.id) := by
  unfold extendAll
  rw [List.map_map]
  apply List.map_congr_left
  intro entry _
  exact extend_id limits.max_output_bytes session_id text entry

theorem overflowed_keys (answers : RouteAnswers) (session_id : String) (pending : List Pending) :
    (overflowed answers session_id pending).map (·.1) =
      (pending.filter (Pending.overflows answers session_id)).map (·.id) := by
  unfold overflowed
  rw [List.map_map]
  rfl

/-- Two entries under one key are one entry. -/
theorem TransportInv.entry_unique (h : TransportInv t) {a b : Pending} (ha : a ∈ t.pending)
    (hb : b ∈ t.pending) (hsame : a.id = b.id) : a = b :=
  List.inj_on_of_nodup_map h.pending_nodup ha hb hsame

/-- A chunk of text. -/
theorem TransportInv.accumulateText (h : TransportInv t) {limits : TransportLimits}
    {answers : RouteAnswers} {session_id text : String} {t' : Transport}
    (hresult : Acp.accumulateText limits answers session_id text t = .ok t') :
    TransportInv t' := by
  unfold Acp.accumulateText at hresult
  split at hresult
  · cases hresult
  · obtain rfl := Except.ok.inj hresult
    rw [Transport.completeAll_eq]
    have hkeys := overflowed_keys answers session_id t.pending
    have hids := extendAll_ids limits answers session_id text t.pending
    have hstep : LedgerStep t.ledger _ := Ledger.Step.settle t.ledger t.ledger.queued
      ((extendAll limits answers session_id text t.pending).map (·.id))
      (overflowed answers session_id t.pending) (leaves_refl _ _ _) ⟨?_, ?_⟩ ?_ ?_ ?_
    · refine ⟨h.ledger.step hstep, h.next_id, h.cancels, ?_, h.ended⟩
      intro hover
      show extendAll limits answers session_id text t.pending = []
      rw [h.emptied hover]
      rfl
    · rw [hids]
      exact List.filter_sublist.map _
    · intro k hk hnot
      obtain ⟨entry, hentry, rfl⟩ := List.mem_map.mp hk
      rw [hids] at hnot
      rw [hkeys]
      refine Or.inr (List.mem_map_of_mem (List.mem_filter.mpr ⟨hentry, ?_⟩))
      by_contra hfits
      apply hnot
      refine List.mem_map_of_mem (List.mem_filter.mpr ⟨hentry, ?_⟩)
      rw [Bool.not_eq_true] at hfits
      rw [hfits]
      rfl
    · rw [hkeys]
      exact h.pending_nodup.sublist (List.filter_sublist.map _)
    · intro k hk
      rw [hkeys] at hk
      obtain ⟨entry, hentry, rfl⟩ := List.mem_map.mp hk
      rw [List.mem_filter] at hentry
      refine Or.inr ⟨List.mem_map_of_mem hentry.1, ?_⟩
      intro hkept
      rw [hids] at hkept
      obtain ⟨other, hother, hsame⟩ := List.mem_map.mp hkept
      rw [List.mem_filter] at hother
      obtain rfl := h.entry_unique hother.1 hentry.1 hsame
      rw [hentry.2] at hother
      exact absurd hother.2 (by decide)
    · intro r hr o
      obtain ⟨entry, -, rfl⟩ := List.mem_map.mp hr
      exact error_not_answers (fun _ hagent => TransportError.noConfusion hagent) o

/-- A response. -/
theorem TransportInv.routeResponse (h : TransportInv t) (numeric : Int)
    (outcome : Except JsonRpcErrorObject Value) :
    TransportInv (Acp.routeResponse numeric outcome t) := by
  unfold Acp.routeResponse
  cases hfound : t.pending.find? fun entry => decide (entry.id = numeric) with
  | none =>
    have hout : numeric ∉ t.ledger.pending := by
      intro hmem
      obtain ⟨entry, hentry, hid⟩ := List.mem_map.mp hmem
      have hnot := List.find?_eq_none.mp hfound entry hentry
      rw [decide_eq_true_eq] at hnot
      exact hnot hid
    have hfilter : (t.ledger.pending.filter fun j => decide (j ≠ numeric)) = t.ledger.pending := by
      rw [List.filter_eq_self]
      intro j hj
      rw [decide_eq_true_eq]
      rintro rfl
      exact hout hj
    have hledger := h.ledger.respond numeric (answer_answers outcome "")
    rw [hfilter, if_neg fun hc => hout hc.1] at hledger
    exact ⟨hledger, h.next_id, h.cancels, h.emptied, h.ended⟩
  | some entry =>
    have hentry := List.mem_of_find?_eq_some hfound
    have hid : entry.id = numeric := by
      have hp := List.find?_some hfound
      rw [decide_eq_true_eq] at hp
      exact hp
    have hin : numeric ∈ t.ledger.pending := by
      rw [← hid]
      exact List.mem_map_of_mem hentry
    have hledger := h.ledger.respond numeric (answer_answers outcome entry.output)
    have hids : (t.pending.filter fun entry => decide (entry.id ≠ numeric)).map (·.id) =
        (t.pending.map (·.id)).filter fun j => decide (j ≠ numeric) := by
      rw [List.filter_map]
      rfl
    dsimp only
    rw [Transport.complete_eq, Transport.completeAll_eq]
    refine ⟨?_, h.next_id, h.cancels, ?_, h.ended⟩
    · have hlog : (t.log ++ [.responded numeric outcome]) ++
          completions t.gone [(numeric, answer outcome entry.output)] =
          t.log ++ .responded numeric outcome :: if numeric ∈ t.ledger.pending ∧
            numeric ∉ t.gone then [.completed numeric (answer outcome entry.output)] else [] := by
        rw [List.append_assoc]
        apply congrArg (t.log ++ ·)
        by_cases hgone : numeric ∈ t.gone
        · simp [completions, hgone]
        · simp [completions, hgone, hin]
      show Ledger.Inv Answers { t.ledger with
        pending := (t.pending.filter fun entry => decide (entry.id ≠ numeric)).map (·.id)
        log := (t.log ++ [.responded numeric outcome]) ++
          completions t.gone [(numeric, answer outcome entry.output)] }
      rw [hids, hlog]
      exact hledger
    · intro hover
      show t.pending.filter _ = []
      rw [h.emptied hover]
      rfl

/-- What a frame does when it is routed. -/
theorem TransportInv.route [WireCrates] (h : TransportInv t) {limits : TransportLimits}
    {answers : RouteAnswers} {value : Value} {t' : Transport}
    (hresult : Acp.route limits answers value t = .ok t') : TransportInv t' := by
  unfold Acp.route at hresult
  split at hresult
  · cases hresult
  · split at hresult
    · obtain rfl := Except.ok.inj hresult
      exact h
    · obtain rfl := Except.ok.inj hresult
      exact h.routeResponse _ _
  · split at hresult
    · unfold Acp.accumulate at hresult
      split at hresult
      · obtain rfl := Except.ok.inj hresult
        exact h
      · split at hresult
        · obtain rfl := Except.ok.inj hresult
          exact h
        · split at hresult
          · obtain rfl := Except.ok.inj hresult
            exact h
          · exact h.accumulateText hresult
    · obtain rfl := Except.ok.inj hresult
      exact h
  · split at hresult
    · obtain rfl := Except.ok.inj hresult
      exact ⟨h.ledger, h.next_id, h.cancels, h.emptied, h.ended⟩
    · cases hresult

theorem frameFailure_ne (source : FrameError) (error : JsonRpcErrorObject) :
    frameFailure source ≠ .agent error := by
  intro hagent
  cases source with
  | _ => cases hagent

theorem TransportInv.routeNext [WireCrates] (h : TransportInv t) (limits : TransportLimits)
    (answers : RouteAnswers) : TransportInv (t.routeNext limits answers) := by
  have hframes : ∀ frames, TransportInv { t with frames := frames } :=
    fun frames => ⟨h.ledger, h.next_id, h.cancels, h.emptied, h.ended⟩
  unfold Transport.routeNext
  split
  · rename_i value frames hnext
    cases hroute : Acp.route limits answers value { t with frames := frames } with
    | ok t' => exact (hframes frames).route hroute
    | error error =>
      exact (hframes frames).stopped fun _ _ hagent => TransportError.noConfusion hagent
  · rename_i frames hnext
    split
    · split
      · exact (hframes frames).stopped fun _ => frameFailure_ne _
      · exact (hframes frames).stopped fun _ _ hagent => TransportError.noConfusion hagent
    · exact h.moved frames t.stdin ⟨nofun, nofun⟩
  · rename_i source frames hnext
    exact (hframes frames).stopped fun _ => frameFailure_ne source

/-! ### The end -/

theorem TransportInv.closed (h : TransportInv t) (code : Option Int) :
    TransportInv (t.closed code) := by
  unfold Transport.closed
  split
  · exact h.stopped fun _ => frameFailure_ne _
  · exact h.stopped fun _ _ hagent => TransportError.noConfusion hagent

theorem TransportInv.exited (h : TransportInv t) (code : Option (Option Int))
    (remainder : Option Bytes) : TransportInv (t.exited code remainder) := by
  unfold Transport.exited
  split
  · exact h.stopped fun _ _ hagent => TransportError.noConfusion hagent
  · exact h.moved _ t.stdin ⟨nofun, nofun⟩

theorem TransportInv.handle (h : TransportInv t) {message : Outgoing} {rest : List Outgoing}
    (hqueue : t.outgoing = message :: rest) (written : Bool) :
    TransportInv (({ t with outgoing := rest, phase := .sweeping } : Transport).handle written
      message) := by
  cases message with
  | request r =>
    unfold Transport.handle
    dsimp only
    split
    · exact h.write hqueue _
    · exact h.unwritten hqueue
  | cancel id =>
    have hgone : id ∈ t.gone := by
      apply h.cancels
      rw [hqueue]
      exact List.mem_cons_self
    exact (h.taken hqueue rfl).remove hgone
  | notification method params =>
    have htaken := h.taken hqueue rfl
    unfold Transport.handle
    dsimp only
    split
    · exact ⟨htaken.ledger, htaken.next_id, htaken.cancels, htaken.emptied, htaken.ended⟩
    · exact htaken
  | shutdown =>
    exact (h.taken hqueue rfl).stopped fun _ _ hagent => TransportError.noConfusion hagent

/-- The requests that are still in the channel when it goes. -/
def Transport.unread (t : Transport) : List (Int × Completion) :=
  t.outgoing.filterMap fun
    | .request r => some (r.id, .error .transportClosed)
    | _ => none

theorem unread_keys (t : Transport) : t.unread.map (·.1) = t.ledger.queued := by
  unfold Transport.unread Transport.ledger
  rw [List.map_filterMap]
  apply List.filterMap_congr
  intro message _
  cases message with
  | _ => rfl

/-- **The end of `run_loop`.** -/
theorem TransportInv.reaped (h : TransportInv t) (hover : t.phase = .terminating) :
    TransportInv t.reaped := by
  have hreaped : t.reaped = { t with alive := false, outgoing := [], phase := .ended,
                                     log := t.log ++ completions t.gone t.unread } :=
    Transport.completeAll_eq t.unread _
  have hkeys := unread_keys t
  have hnodup : t.ledger.queued.Nodup :=
    (List.nodup_append.mp (List.nodup_append.mp h.ledger.nodup).2.1).1
  have hstep : LedgerStep t.ledger _ := Ledger.Step.settle t.ledger [] t.ledger.pending t.unread
    ⟨List.nil_sublist _, ?_⟩ (leaves_refl _ _ _) ?_ ?_ ?_
  · rw [hreaped]
    exact ⟨h.ledger.step hstep, h.next_id, fun _ hid => absurd hid List.not_mem_nil,
      fun _ => h.emptied (Or.inl hover), fun _ => rfl⟩
  · intro k hk _
    rw [hkeys]
    exact Or.inr hk
  · rw [hkeys]
    exact hnodup
  · intro k hk
    rw [hkeys] at hk
    exact Or.inl ⟨hk, List.not_mem_nil⟩
  · intro r hr o
    obtain ⟨message, -, hmessage⟩ := List.mem_filterMap.mp hr
    cases message with
    | request request =>
      obtain rfl := Option.some.inj hmessage
      exact error_not_answers (fun _ hagent => TransportError.noConfusion hagent) o
    | _ => cases hmessage

/-- **The step lemma.** -/
theorem TransportInv.step [WireCrates] (h : TransportInv t) (limits : TransportLimits)
    (input : TransportInput) : TransportInv (t.step limits input) := by
  have hselect : ∀ next, TransportInv next → TransportInv (t.atSelect next) := by
    intro next hnext
    unfold Transport.atSelect
    split
    · exact hnext
    · exact h
  cases input with
  | call phase method params updates durable_updates =>
    exact h.call phase method params updates durable_updates
  | send id => exact h.send id
  | abandon id => exact h.abandon id
  | cancel id =>
    show TransportInv (t.cancel id)
    unfold Transport.cancel
    split
    · rename_i hgone
      apply h.enqueue rfl
      intro j hj
      rw [← Outgoing.cancel.inj hj]
      exact hgone
    · exact h
  | notify method params => exact h.enqueue rfl nofun
  | shutdown => exact h.enqueue rfl nofun
  | sweep =>
    show TransportInv (if t.phase = .sweeping then _ else t)
    split
    · exact h.sweep
    · exact h
  | closed code => exact hselect _ (h.closed code)
  | bytes chunk => exact hselect _ (h.moved _ t.stdin ⟨nofun, nofun⟩)
  | readFailed =>
    exact hselect _ (h.stopped fun _ _ hagent => TransportError.noConfusion hagent)
  | receive written =>
    apply hselect
    unfold Transport.receive
    split
    · exact h
    · rename_i message rest hqueue
      exact h.handle hqueue written
  | hungUp =>
    apply hselect
    split
    · exact h.stopped fun _ _ hagent => TransportError.noConfusion hagent
    · exact h
  | stderr => exact hselect _ (h.moved t.frames t.stdin ⟨nofun, nofun⟩)
  | exited code remainder => exact hselect _ (h.exited code remainder)
  | frame answers =>
    show TransportInv (t.atFrame (t.routeNext limits answers))
    unfold Transport.atFrame
    split
    · exact h.routeNext limits answers
    · exact h.routeNext limits answers
    · exact h
  | reaped =>
    show TransportInv (if t.phase = .terminating then t.reaped else t)
    split
    · rename_i hover
      exact h.reaped hover
    · exact h

end Refinement

/-- **The run lemma.** -/
theorem transport_inv [WireCrates] (limits : TransportLimits) (inputs : List TransportInput) :
    TransportInv (transportAt limits inputs) :=
  Relational.foldl_invariant TransportInv (fun _ input h => h.step limits input) inputs
    (inv_spawned limits)

/-- **Requests and responses are correlated.**  In every run no id is accepted, written or
completed twice, and every accepted request is in the channel, pending, completed or abandoned by
its caller.  A completion that is a response is the first one under its id since the request was
written, and the first response to a written request completes it unless it was completed or its
caller gave up.  When the loop has ended, nothing is in the channel or pending, so every accepted
request is completed or abandoned. -/
theorem requests_correlated [WireCrates] (limits : TransportLimits)
    (inputs : List TransportInput) :
    let t := transportAt limits inputs
    (acceptedKeys t.log).Nodup ∧ (wroteKeys t.log).Nodup ∧
    (Correlation.completedKeys t.log).Nodup ∧
    (∀ id, .accepted id ∈ t.log → id ∈ t.ledger.queued ∨ id ∈ t.ledger.pending ∨
      id ∈ Correlation.completedKeys t.log ∨ .abandoned id ∈ t.log) ∧
    Correlated Answers t.log ∧ Answered Answers t.log ∧
    (t.phase = .terminating ∨ t.phase = .ended → t.pending = []) ∧
    (t.phase = .ended → t.outgoing = [] ∧
      ∀ id, .accepted id ∈ t.log →
        id ∈ Correlation.completedKeys t.log ∨ .abandoned id ∈ t.log) := by
  intro t
  have h : TransportInv t := transport_inv limits inputs
  refine ⟨h.ledger.accepted_once, h.ledger.wrote_once, h.ledger.completed_once,
    h.ledger.accounted, h.ledger.correlated, h.ledger.answered, h.emptied, ?_⟩
  intro hended
  refine ⟨h.ended hended, ?_⟩
  intro id hid
  have hpending : t.ledger.pending = [] := by
    show t.pending.map (·.id) = []
    rw [h.emptied (Or.inr hended)]
    rfl
  have hqueued : t.ledger.queued = [] := by
    show t.outgoing.filterMap Outgoing.requestId = []
    rw [h.ended hended]
    rfl
  rcases h.ledger.accounted id hid with hq | hp | hother
  · rw [hqueued] at hq
    exact absurd hq List.not_mem_nil
  · rw [hpending] at hp
    exact absurd hp List.not_mem_nil
  · exact hother

end Acp

end GuiguBridge
