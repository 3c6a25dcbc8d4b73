import GuiguBridge.Acp.OutputFiles
import GuiguBridge.Externals

/-!
# Sessions across deliveries, deaths and restarts

A conversation keeps its session with the agent: `deliver_inner` resumes the stored session or
records a new one, and a turn looks the session up again (`src/src/acp/session.rs`,
`src/src/acp/dispatcher.rs`).

* `StoredSession`, `upsertSession`, `setState` — the table `sessions` and its two constraints;
* `compatibilityHash`, `liveSessionWithWorkspaces`, `liveSession` — the two lookups;
* `AcpDispatcher`, `SessionWorld` — the configuration and the client of every endpoint;
* `recordSession`, `deliverInner`, `startTurn`, `promptInner`, `finishTurn` — the code paths;
* `SessionInv` — **at most one live session a key**, and every stored id one that can be resumed;
* `Kept` — what every statement leaves of the rows there are;
* `afterAll_kept` — **a live session of a key stays that key's session over every run**.
-/

namespace GuiguBridge

open Relational

/-! ### The rows -/

inductive SessionState where
  | ready | prompting | closed
  deriving DecidableEq

structure StoredSession where
  session_id : String
  endpoint_id : EndpointId
  conversation_id : ConversationId
  cwd : String
  additional_directories : String
  compatibility_version : Nat
  compatibility_hash : String
  backend_id : String
  protocol_version : Nat
  state : SessionState
  created_at : DateTime
  updated_at : DateTime
  deriving DecidableEq

/-- `PRIMARY KEY (session_id, endpoint_id)`. -/
def StoredSession.key (s : StoredSession) : String × EndpointId := (s.session_id, s.endpoint_id)

/-- A row that the partial index `sessions_live` holds. -/
def StoredSession.isLive (s : StoredSession) (endpoint : EndpointId)
    (conversation : ConversationId) (cwd : String) : Bool :=
  decide (s.endpoint_id = endpoint ∧ s.conversation_id = conversation ∧ s.cwd = cwd ∧
    s.state ≠ .closed)

abbrev SessionTable := Table StoredSession.key

/-- `CREATE UNIQUE INDEX sessions_live`. -/
def sessionsLive (t : SessionTable) : Bool :=
  t.rows.all fun a => t.rows.all fun b =>
    !(decide (a.state ≠ .closed) && b.isLive a.endpoint_id a.conversation_id a.cwd) || decide (a = b)

/-- The errors of `storage::StorageError` that the session store raises itself. -/
inductive SessionStorageError where
  | malformed (field detail : String)
  | duplicate
  | integrityViolation (detail : String)
  | notFound (entity id : String)
  deriving DecidableEq

inductive AcpError where
  | unsupportedAddress | spawn | timeout | streamBackpressure | recoveryNeeded | exited
  | transportClosed | unsupportedProtocol | authentication | frame | protocol
  | schema (method detail : String)
  | sessionId (detail : String)
  | storage (source : SessionStorageError)
  deriving DecidableEq

def MAX_SESSION_ID_BYTES : Nat := 256

def PROTOCOL_VERSION : Nat := 1

/-- `to_be_bytes` of an integer of `width` bytes. -/
def bigEndian (width n : Nat) : Bytes :=
  (List.range width).reverse.map fun i => UInt8.ofNat (n >>> (8 * i))

/-- `compatibility_hash`. -/
def compatibilityHash [HashCrates] (backend_id : String) (protocol : Nat) (cwd : String)
    (roots : List String) : String :=
  HashCrates.sha256 (([utf8 backend_id, bigEndian 2 protocol, utf8 cwd] ++ roots.map utf8).flatMap
    fun value => bigEndian 8 value.length ++ value)

/-- `serde_json::to_string(additional_directories)`. -/
def directoriesText [Externals] (additional_directories : List String) : String :=
  Externals.jsonText (.arr (additional_directories.map .str))

/-- `StoredSession::new_with_workspaces`. -/
def StoredSession.newWithWorkspaces [Externals] [HashCrates] (session_id : String)
    (endpoint_id : EndpointId) (conversation_id : ConversationId) (cwd : String)
    (additional_directories : List String) (backend_id : String) (now : DateTime) :
    Except SessionStorageError StoredSession :=
  if session_id.isEmpty || decide (session_id.utf8ByteSize > MAX_SESSION_ID_BYTES) then
    .error (.malformed "sessions.session_id" "session id is empty or too long")
  else
    .ok { session_id, endpoint_id, conversation_id, cwd,
          additional_directories := directoriesText additional_directories,
          compatibility_version := 1,
          compatibility_hash :=
            compatibilityHash backend_id PROTOCOL_VERSION cwd additional_directories,
          backend_id, protocol_version := PROTOCOL_VERSION, state := .ready,
          created_at := now, updated_at := now }

/-! ### The session store -/

/-- `live_session`. -/
def liveSession (t : SessionTable) (endpoint : EndpointId) (conversation : ConversationId)
    (cwd : String) : Option StoredSession :=
  t.rows.find? fun s => s.isLive endpoint conversation cwd

/-- `SELECT_LIVE_SESSION`: the directories, and either the hash or the columns of a row from before
the hash. -/
def selectsLive [Externals] [HashCrates] (endpoint : EndpointId) (conversation : ConversationId)
    (cwd : String) (additional_directories : List String) (backend_id : String)
    (s : StoredSession) : Bool :=
  s.isLive endpoint conversation cwd &&
    decide (s.additional_directories = directoriesText additional_directories) &&
    (decide (s.compatibility_version = 1) && decide (s.compatibility_hash =
        compatibilityHash backend_id PROTOCOL_VERSION cwd additional_directories) ||
      decide (s.compatibility_version = 0 ∧ s.additional_directories = "[]" ∧
        s.backend_id = backend_id ∧ s.protocol_version = PROTOCOL_VERSION))

/-- `live_session_with_workspaces`. -/
def liveSessionWithWorkspaces [Externals] [HashCrates] (t : SessionTable) (endpoint : EndpointId)
    (conversation : ConversationId) (cwd : String) (additional_directories : List String)
    (backend_id : String) : Option StoredSession :=
  t.rows.find? (selectsLive endpoint conversation cwd additional_directories backend_id)

/-- `SET backend_id = excluded.backend_id, …`; `created_at` and the directories stay. -/
def StoredSession.refresh (excluded s : StoredSession) : StoredSession :=
  { s with
    backend_id := excluded.backend_id
    protocol_version := excluded.protocol_version
    compatibility_version := excluded.compatibility_version
    compatibility_hash := excluded.compatibility_hash
    state := excluded.state
    updated_at := excluded.updated_at }

/-- The statement was refused by the partial index, or it stands. -/
def liveChecked (t : SessionTable) : Except SessionStorageError SessionTable :=
  if sessionsLive t then .ok t else .error .duplicate

/-- `upsert_session`. -/
def upsertSession (t : SessionTable) (session : StoredSession) :
    Except SessionStorageError SessionTable :=
  match t.get session.key with
  | none =>
    match t.insert session with
    | some t' => liveChecked t'
    | none => .error .duplicate
  | some s =>
    if s.conversation_id = session.conversation_id ∧ s.cwd = session.cwd ∧
        s.additional_directories = session.additional_directories then
      liveChecked (t.updateWhere (fun r => decide (r.key = session.key)) session.refresh)
    else
      .error (.integrityViolation "sessions.session_id is bound to another conversation or cwd")

/-- `SET state = ?, updated_at = ?`. -/
def StoredSession.mark (state : SessionState) (now : DateTime) (s : StoredSession) :
    StoredSession :=
  { s with state := state, updated_at := now }

/-- `set_state`. -/
def setState (t : SessionTable) (session_id : String) (endpoint : EndpointId)
    (state : SessionState) (now : DateTime) : Except SessionStorageError SessionTable :=
  if t.affected (fun r => decide (r.key = (session_id, endpoint))) = 1 then
    liveChecked (t.updateWhere (fun r => decide (r.key = (session_id, endpoint)))
      (StoredSession.mark state now))
  else .error (.notFound "session" session_id)

/-! ### The agent and its dispatcher -/

structure AcpClient where
  backend_id : String
  is_alive : Bool
  deriving DecidableEq

/-- The dispatcher of an endpoint: its configuration, and the slot of its client. -/
structure AcpDispatcher where
  cwd : String
  additional_directories : List String
  client : Option AcpClient

structure SessionWorld where
  sessions : SessionTable
  dispatchers : EndpointId → AcpDispatcher

/-- How the agent answers during one call: the identity that a child started now negotiates, the id
of a new session, and the id that a resumed session echoes, if it echoes one. -/
structure AgentReplies where
  spawned : Except AcpError String
  created : Except AcpError String
  resumed : String → Except AcpError (Option String)

/-- `validate_session_id`. -/
def validateSessionId (session_id : String) : Except AcpError String :=
  if session_id.isEmpty then .error (.sessionId "the session id is empty")
  else if session_id.utf8ByteSize > MAX_SESSION_ID_BYTES then
    .error (.sessionId "the session id exceeds 256 bytes")
  else .ok session_id

/-- `new_session_with_workspaces`. -/
def newSession (agent : AgentReplies) : Except AcpError String := do
  let session_id ← agent.created
  validateSessionId session_id

/-- `resume_session_with_workspaces`. -/
def resumeSession (agent : AgentReplies) (session_id : String) : Except AcpError String := do
  let requested ← validateSessionId session_id
  match ← agent.resumed requested with
  | none => pure requested
  | some session_id =>
    let returned ← validateSessionId session_id
    if returned ≠ requested then
      .error (.sessionId "resume answered with a different session id")
    else pure requested

/-- The client in the slot, if it is alive. -/
def AcpDispatcher.aliveClient (d : AcpDispatcher) : Option AcpClient :=
  d.client.filter (·.is_alive)

/-- `ensure_client`. -/
def AcpDispatcher.ensureClient (d : AcpDispatcher) (agent : AgentReplies) :
    Except AcpError AcpClient :=
  match d.aliveClient with
  | some client => .ok client
  | none => agent.spawned.map fun backend_id => ⟨backend_id, true⟩

namespace SessionWorld

/-- Put a client into the slot of an endpoint. -/
def connect (w : SessionWorld) (endpoint : EndpointId) (client : Option AcpClient) : SessionWorld :=
  { w with
    dispatchers := fun e =>
      if e = endpoint then { w.dispatchers e with client := client } else w.dispatchers e }

/-- `lookup_backend`: nothing when no client is alive. -/
def lookupBackend (w : SessionWorld) (endpoint : EndpointId) : String :=
  ((w.dispatchers endpoint).aliveClient.map (·.backend_id)).getD ""

end SessionWorld

/-- A delivery as `deliver_inner` sees it; `prepared` and `acknowledged` are the outcomes of the
records of the delivery itself. -/
structure DeliverySession where
  endpoint : EndpointId
  conversation : ConversationId
  agent : AgentReplies
  now : DateTime
  prepared : Except AcpError Unit
  acknowledged : Except AcpError Unit

/-- A turn as `start_turn` and `prompt_inner` see it: `slot` is what the slot of the client holds
when it is read again after the lookup and `slot_after` when the prompt has returned, `output` is
the preparation of the durable output, `streams` and `prompts` what the agent makes of the prompt
in a session. -/
structure TurnSession (Turn : Type) where
  endpoint : EndpointId
  conversation : ConversationId
  agent : AgentReplies
  slot : Option AcpClient
  slot_after : Option AcpClient
  now : DateTime
  ready_at : DateTime
  output : Except AcpError Unit
  streams : String → Except AcpError Unit
  prompts : String → Except AcpError Turn

namespace SessionWorld

variable [Externals] [HashCrates] {Turn : Type}

/-- The session that a turn looks up. -/
def turnSession (w : SessionWorld) (endpoint : EndpointId) (conversation : ConversationId) :
    Option StoredSession :=
  let d := w.dispatchers endpoint
  liveSessionWithWorkspaces w.sessions endpoint conversation d.cwd d.additional_directories
    (w.lookupBackend endpoint)

/-- The session that a delivery resumes. -/
def existingSession (w : SessionWorld) (endpoint : EndpointId) (conversation : ConversationId)
    (client : AcpClient) : Option StoredSession :=
  let d := w.dispatchers endpoint
  match liveSessionWithWorkspaces w.sessions endpoint conversation d.cwd d.additional_directories
      client.backend_id with
  | some session => some session
  | none => liveSession w.sessions endpoint conversation d.cwd

/-- The session of `deliver_inner` under its gate: resumed or created. -/
def acceptedSession (w : SessionWorld) (r : DeliverySession) (client : AcpClient) :
    Except AcpError String :=
  match w.existingSession r.endpoint r.conversation client with
  | some stored => resumeSession r.agent stored.session_id
  | none => newSession r.agent

/-- The record of a session that the agent accepted. -/
def recordAccepted (w : SessionWorld) (r : DeliverySession) (client : AcpClient)
    (session_id : String) : Except SessionStorageError SessionTable := do
  let d := w.dispatchers r.endpoint
  let stored ← StoredSession.newWithWorkspaces session_id r.endpoint r.conversation d.cwd
    d.additional_directories client.backend_id r.now
  upsertSession w.sessions stored

/-- `deliver_inner` between the two records of the delivery. -/
def recordSession (w : SessionWorld) (r : DeliverySession) : Except AcpError String × SessionWorld :=
  match (w.dispatchers r.endpoint).ensureClient r.agent with
  | .error e => (.error e, w)
  | .ok client =>
    let w := w.connect r.endpoint (some client)
    match w.acceptedSession r client with
    | .error e => (.error e, w)
    | .ok session_id =>
      match w.recordAccepted r client session_id with
      | .error source => (.error (.storage source), w)
      | .ok sessions => (.ok session_id, { w with sessions := sessions })

/-- `deliver_inner`. -/
def deliverInner (w : SessionWorld) (r : DeliverySession) : Except AcpError String × SessionWorld :=
  match r.prepared with
  | .error e => (.error e, w)
  | .ok () =>
    match w.recordSession r with
    | (.error e, w) => (.error e, w)
    | (.ok session_id, w) => (r.acknowledged.map fun _ => session_id, w)

omit [Externals] [HashCrates] in
/-- A new client resumes the session of a turn that cannot go on. -/
def recover (w : SessionWorld) (endpoint : EndpointId) (agent : AgentReplies)
    (session_id : String) : AcpError × SessionWorld :=
  match (w.dispatchers endpoint).ensureClient agent with
  | .error e => (e, w)
  | .ok client =>
    match resumeSession agent session_id with
    | .error e => (e, w.connect endpoint (some client))
    | .ok _ => (.recoveryNeeded, w.connect endpoint (some client))

/-- `start_turn`; the answer is the session that the turn was started in. -/
def startTurn (w : SessionWorld) (t : TurnSession Turn) : Except AcpError String × SessionWorld :=
  match w.turnSession t.endpoint t.conversation with
  | none => (.error (.sessionId "no live session for this delivery"), w)
  | some stored =>
    let w := w.connect t.endpoint t.slot
    match (w.dispatchers t.endpoint).aliveClient with
    | none =>
      (.error (w.recover t.endpoint t.agent stored.session_id).1,
        (w.recover t.endpoint t.agent stored.session_id).2)
    | some _ =>
      match setState w.sessions stored.session_id t.endpoint .prompting t.now with
      | .error source => (.error (.storage source), w)
      | .ok sessions =>
        match t.output with
        | .error e => (.error e, { w with sessions := sessions })
        | .ok () =>
          ((t.streams stored.session_id).map fun _ => stored.session_id,
            { w with sessions := sessions })

omit [Externals] [HashCrates] in
/-- A bookkeeping write whose failure is logged. -/
def markReady (w : SessionWorld) (session_id : String) (endpoint : EndpointId) (now : DateTime) :
    SessionWorld :=
  match setState w.sessions session_id endpoint .ready now with
  | .error _ => w
  | .ok sessions => { w with sessions := sessions }

omit [Externals] [HashCrates] in
/-- The end of a turn: an agent that is gone is recovered. -/
def closeTurn (w : SessionWorld) (endpoint : EndpointId) (agent : AgentReplies)
    (session_id : String) (turn : Except AcpError Turn) : Except AcpError Turn × SessionWorld :=
  match turn with
  | .ok turn => (.ok turn, w)
  | .error e =>
    if e = .exited ∨ e = .transportClosed then
      (.error (w.recover endpoint agent session_id).1, (w.recover endpoint agent session_id).2)
    else (.error e, w)

/-- `prompt_inner`. -/
def promptInner (w : SessionWorld) (t : TurnSession Turn) : Except AcpError Turn × SessionWorld :=
  match w.turnSession t.endpoint t.conversation with
  | none => (.error (.sessionId "no live session for this delivery"), w)
  | some stored =>
    let w := w.connect t.endpoint t.slot
    match (w.dispatchers t.endpoint).aliveClient with
    | none =>
      (.error (w.recover t.endpoint t.agent stored.session_id).1,
        (w.recover t.endpoint t.agent stored.session_id).2)
    | some _ =>
      match setState w.sessions stored.session_id t.endpoint .prompting t.now with
      | .error source => (.error (.storage source), w)
      | .ok sessions =>
        let w := { w.connect t.endpoint t.slot_after with sessions := sessions }
        (w.markReady stored.session_id t.endpoint t.ready_at).closeTurn t.endpoint t.agent
          stored.session_id (t.prompts stored.session_id)

omit [Externals] [HashCrates] in
/-- `AcpStructuredTurn::finish`. -/
def finishTurn (w : SessionWorld) (endpoint : EndpointId) (session_id : String)
    (completed : Except AcpError Turn) (output : Except AcpError Unit) (agent : AgentReplies)
    (ready_at : DateTime) : Except AcpError Turn × SessionWorld :=
  match output with
  | .error e => (.error e, w)
  | .ok () =>
    (w.markReady session_id endpoint ready_at).closeTurn endpoint agent session_id completed

end SessionWorld

/-! ### Runs -/

/-- What can happen: a delivery, a turn begun, a whole prompt, the end of a begun turn, any change
of the client in a slot (it died, or was shut down), and a restart with a new configuration. -/
inductive SessionEvent (Turn : Type) where
  | deliver (r : DeliverySession)
  | startTurn (t : TurnSession Turn)
  | prompt (t : TurnSession Turn)
  | finish (endpoint : EndpointId) (session_id : String) (completed : Except AcpError Turn)
      (output : Except AcpError Unit) (agent : AgentReplies) (ready_at : DateTime)
  | clientChanges (endpoint : EndpointId) (client : Option AcpClient)
  | restart (cwd : EndpointId → String) (additional_directories : EndpointId → List String)

section Runs

variable [Externals] [HashCrates] {Turn : Type}

namespace SessionWorld

def after (w : SessionWorld) : SessionEvent Turn → SessionWorld
  | .deliver r => (w.deliverInner r).2
  | .startTurn t => (w.startTurn t).2
  | .prompt t => (w.promptInner t).2
  | .finish endpoint session_id completed output agent ready_at =>
    (w.finishTurn endpoint session_id completed output agent ready_at).2
  | .clientChanges endpoint client => w.connect endpoint client
  | .restart cwd additional_directories =>
    ⟨w.sessions, fun e => ⟨cwd e, additional_directories e, none⟩⟩

def afterAll (w : SessionWorld) (events : List (SessionEvent Turn)) : SessionWorld :=
  events.foldl after w

end SessionWorld

/-- The event delivers to this conversation at this endpoint, and records its session. -/
def SessionEvent.RecordsTo (event : SessionEvent Turn) (w : SessionWorld) (endpoint : EndpointId)
    (conversation : ConversationId) : Prop :=
  match event with
  | .deliver r => r.endpoint = endpoint ∧ r.conversation = conversation ∧ r.prepared = .ok () ∧
      ∃ session_id, (w.recordSession r).1 = .ok session_id
  | _ => False

/-- Some event of the run records the session of this conversation. -/
def SessionWorld.RecordsIn (endpoint : EndpointId) (conversation : ConversationId) :
    SessionWorld → List (SessionEvent Turn) → Prop
  | _, [] => False
  | w, event :: events => event.RecordsTo w endpoint conversation ∨
      RecordsIn endpoint conversation (w.after event) events

end Runs

/-! ### What the statements keep -/

/-- The bounds of `validate_session_id`. -/
def ValidSessionId (session_id : String) : Prop :=
  session_id.isEmpty = false ∧ session_id.utf8ByteSize ≤ MAX_SESSION_ID_BYTES

/-- The index holds, and every stored id can be resumed. -/
structure SessionInv (t : SessionTable) : Prop where
  live : sessionsLive t = true
  valid : ∀ s ∈ t.rows, ValidSessionId s.session_id

/-- `s'` is a later state of the row `s`, which stays the session of the same work, and live if it
was. -/
structure StoredSession.Follows (s s' : StoredSession) : Prop where
  session_id : s'.session_id = s.session_id
  endpoint_id : s'.endpoint_id = s.endpoint_id
  conversation_id : s'.conversation_id = s.conversation_id
  cwd : s'.cwd = s.cwd
  additional_directories : s'.additional_directories = s.additional_directories
  live : s.state ≠ .closed → s'.state ≠ .closed

/-- From `t` to `t'` every row stays, and outside the `written` conversations a row keeps what the
lookups compare. -/
structure Kept (written : EndpointId → ConversationId → Prop) (t t' : SessionTable) : Prop where
  inv : SessionInv t → SessionInv t'
  rows : ∀ s ∈ t.rows, ∃ s' ∈ t'.rows, s.Follows s' ∧
    (¬ written s.endpoint_id s.conversation_id →
      s'.compatibility_version = s.compatibility_version ∧
        s'.compatibility_hash = s.compatibility_hash)

variable {t t' t'' : SessionTable} {written written' : EndpointId → ConversationId → Prop}

theorem StoredSession.Follows.refl (s : StoredSession) : s.Follows s :=
  ⟨rfl, rfl, rfl, rfl, rfl, id⟩

theorem StoredSession.Follows.trans {s s' s'' : StoredSession} (h : s.Follows s')
    (h' : s'.Follows s'') : s.Follows s'' where
  session_id := h'.session_id.trans h.session_id
  endpoint_id := h'.endpoint_id.trans h.endpoint_id
  conversation_id := h'.conversation_id.trans h.conversation_id
  cwd := h'.cwd.trans h.cwd
  additional_directories := h'.additional_directories.trans h.additional_directories
  live hs := h'.live (h.live hs)

theorem Kept.refl (t : SessionTable) : Kept written t t where
  inv := id
  rows s hs := ⟨s, hs, .refl s, fun _ => ⟨rfl, rfl⟩⟩

theorem Kept.trans (h : Kept written t t') (h' : Kept written t' t'') : Kept written t t'' where
  inv hinv := h'.inv (h.inv hinv)
  rows s hs := by
    obtain ⟨s', hs', hfollows, hsame⟩ := h.rows s hs
    obtain ⟨s'', hs'', hfollows', hsame'⟩ := h'.rows s' hs'
    refine ⟨s'', hs'', hfollows.trans hfollows', fun hout => ?_⟩
    obtain ⟨hversion, hhash⟩ := hsame hout
    rw [← hfollows.endpoint_id, ← hfollows.conversation_id] at hout
    obtain ⟨hversion', hhash'⟩ := hsame' hout
    exact ⟨hversion'.trans hversion, hhash'.trans hhash⟩

theorem Kept.mono (h : Kept written t t') (hle : ∀ e c, written e c → written' e c) :
    Kept written' t t' where
  inv := h.inv
  rows s hs := by
    obtain ⟨s', hs', hfollows, hsame⟩ := h.rows s hs
    exact ⟨s', hs', hfollows, fun hout => hsame fun hin => hout (hle _ _ hin)⟩

theorem StoredSession.isLive_iff {s : StoredSession} {endpoint : EndpointId}
    {conversation : ConversationId} {cwd : String} :
    s.isLive endpoint conversation cwd = true ↔ s.endpoint_id = endpoint ∧
      s.conversation_id = conversation ∧ s.cwd = cwd ∧ s.state ≠ .closed := by
  unfold StoredSession.isLive
  rw [decide_eq_true_eq]

theorem sessionsLive_iff : sessionsLive t = true ↔ ∀ a ∈ t.rows, ∀ b ∈ t.rows,
    a.state ≠ .closed → b.isLive a.endpoint_id a.conversation_id a.cwd = true → a = b := by
  unfold sessionsLive
  simp only [List.all_eq_true, Bool.or_eq_true, Bool.not_eq_true', Bool.and_eq_false_imp,
    decide_eq_true_eq]
  constructor
  · intro h a ha b hb hlive hsame
    cases h a ha b hb with
    | inl h => exact absurd (h hlive) (by simp [hsame])
    | inr h => exact h
  · intro h a ha b hb
    by_cases hlive : a.state ≠ .closed ∧ b.isLive a.endpoint_id a.conversation_id a.cwd = true
    · exact Or.inr (h a ha b hb hlive.1 hlive.2)
    · left
      intro hopen
      rw [← Bool.not_eq_true]
      exact fun hsame => hlive ⟨hopen, hsame⟩

/-- **A key has one live session.** -/
theorem SessionInv.unique (h : SessionInv t) {a b : StoredSession} (ha : a ∈ t.rows)
    (hb : b ∈ t.rows) {endpoint : EndpointId} {conversation : ConversationId} {cwd : String}
    (hlive : a.isLive endpoint conversation cwd = true)
    (hlive' : b.isLive endpoint conversation cwd = true) : a = b := by
  obtain ⟨rfl, rfl, rfl, hopen⟩ := StoredSession.isLive_iff.1 hlive
  exact sessionsLive_iff.1 h.live a ha b hb hopen hlive'

theorem liveChecked_ok (h : liveChecked t = .ok t') : t' = t ∧ sessionsLive t = true := by
  unfold liveChecked at h
  split at h
  · rename_i hlive
    exact ⟨(Except.ok.inj h).symm, hlive⟩
  · cases h

/-- An update of one row that leaves its key in the index alone, when no other live row has it. -/
theorem sessionsLive_updateWhere {p : StoredSession → Bool} {f : StoredSession → StoredSession}
    {hf : ∀ s, (f s).key = s.key} {key : String × EndpointId} (hlive : sessionsLive t = true)
    (hp : ∀ s, p s = true → s.key = key)
    (hsame : ∀ s, (f s).endpoint_id = s.endpoint_id ∧ (f s).conversation_id = s.conversation_id ∧
      (f s).cwd = s.cwd)
    (honly : ∀ s ∈ t.rows, p s = true → ∀ b ∈ t.rows,
      b.isLive s.endpoint_id s.conversation_id s.cwd = true → b = s) :
    sessionsLive (t.updateWhere p f hf) = true := by
  rw [sessionsLive_iff] at hlive ⊢
  intro a ha b hb hopen hb'
  obtain ⟨hendpoint, hconversation, hcwd, hopen'⟩ := StoredSession.isLive_iff.1 hb'
  rcases Table.mem_updateWhere.1 ha with ⟨a₀, ha₀, hpa, rfl⟩ | ⟨ha₀, hpa⟩
  · obtain ⟨h1, h2, h3⟩ := hsame a₀
    rcases Table.mem_updateWhere.1 hb with ⟨b₀, hb₀, hpb, rfl⟩ | ⟨hb₀, hpb⟩
    · have heq : a₀ = b₀ := t.eq_of_key_eq ha₀ hb₀ ((hp a₀ hpa).trans (hp b₀ hpb).symm)
      rw [heq]
    · have heq : b = a₀ := honly a₀ ha₀ hpa b hb₀ (StoredSession.isLive_iff.2
        ⟨hendpoint.trans h1, hconversation.trans h2, hcwd.trans h3, hopen'⟩)
      rw [heq, hpa] at hpb
      cases hpb
  · rcases Table.mem_updateWhere.1 hb with ⟨b₀, hb₀, hpb, rfl⟩ | ⟨hb₀, hpb⟩
    · obtain ⟨h1, h2, h3⟩ := hsame b₀
      have heq : a = b₀ := honly b₀ hb₀ hpb a ha₀ (StoredSession.isLive_iff.2
        ⟨hendpoint.symm.trans h1, hconversation.symm.trans h2, hcwd.symm.trans h3, hopen⟩)
      rw [heq, hpb] at hpa
      cases hpa
    · exact hlive a ha₀ b hb₀ hopen hb'

theorem setState_kept {session_id : String} {endpoint : EndpointId} {state : SessionState}
    {now : DateTime} (h : setState t session_id endpoint state now = .ok t')
    (hstate : state ≠ .closed) : Kept written t t' := by
  unfold setState at h
  split at h
  · obtain ⟨rfl, hlive⟩ := liveChecked_ok h
    constructor
    · intro hinv
      refine ⟨hlive, fun s hs => ?_⟩
      rcases Table.mem_updateWhere.1 hs with ⟨s₀, hs₀, -, rfl⟩ | ⟨hs₀, -⟩
      · exact hinv.valid s₀ hs₀
      · exact hinv.valid s hs₀
    · intro s hs
      by_cases hp : s.key = (session_id, endpoint)
      · refine ⟨_, Table.mem_updateWhere.2 (Or.inl ⟨s, hs, decide_eq_true hp, rfl⟩), ?_⟩
        exact ⟨⟨rfl, rfl, rfl, rfl, rfl, fun _ => hstate⟩, fun _ => ⟨rfl, rfl⟩⟩
      · refine ⟨s, Table.mem_updateWhere.2 (Or.inr ⟨hs, decide_eq_false hp⟩), ?_⟩
        exact ⟨.refl s, fun _ => ⟨rfl, rfl⟩⟩
  · cases h

/-- A live row can be marked. -/
theorem setState_live {s : StoredSession} {state : SessionState} {now : DateTime}
    (hinv : SessionInv t) (hs : s ∈ t.rows) (hopen : s.state ≠ .closed) :
    ∃ t', setState t s.session_id s.endpoint_id state now = .ok t' := by
  have hkey : ∀ r : StoredSession, decide (r.key = (s.session_id, s.endpoint_id)) = true →
      r.key = s.key := fun r hr => of_decide_eq_true hr
  have hone : t.affected (fun r => decide (r.key = (s.session_id, s.endpoint_id))) = 1 :=
    (Table.affected_eq_one_iff hkey).mpr ⟨s, Table.get_of_mem hs, decide_eq_true rfl⟩
  have hlive : sessionsLive (t.updateWhere
      (fun r => decide (r.key = (s.session_id, s.endpoint_id)))
      (StoredSession.mark state now)) = true := by
    refine sessionsLive_updateWhere hinv.live hkey (fun r => ⟨rfl, rfl, rfl⟩) ?_
    intro r hr hp b hb hblive
    have hrs : r = s := t.eq_of_key_eq hr hs (hkey r hp)
    subst hrs
    exact hinv.unique hb hr hblive (StoredSession.isLive_iff.2 ⟨rfl, rfl, rfl, hopen⟩)
  unfold setState
  rw [if_pos hone, liveChecked, if_pos hlive]
  exact ⟨_, rfl⟩

/-- What `upsert_session` is given. -/
structure Recordable (session : StoredSession) : Prop where
  valid : ValidSessionId session.session_id
  opened : session.state ≠ .closed

/-- **`upsert_session` in two cases.** -/
theorem upsertSession_ok {session : StoredSession} (h : upsertSession t session = .ok t') :
    sessionsLive t' = true ∧
      ((t.get session.key = none ∧ t.insert session = some t') ∨
        ∃ s, t.get session.key = some s ∧ s.conversation_id = session.conversation_id ∧
          s.cwd = session.cwd ∧ s.additional_directories = session.additional_directories ∧
          t' = t.updateWhere (fun r => decide (r.key = session.key)) session.refresh) := by
  unfold upsertSession at h
  cases hget : t.get session.key with
  | none =>
    rw [hget] at h
    dsimp only at h
    cases hinsert : t.insert session with
    | none =>
      rw [hinsert] at h
      cases h
    | some u =>
      rw [hinsert] at h
      obtain ⟨rfl, hlive⟩ := liveChecked_ok h
      exact ⟨hlive, Or.inl ⟨rfl, rfl⟩⟩
  | some s =>
    rw [hget] at h
    dsimp only at h
    split at h
    · rename_i hsame
      obtain ⟨rfl, hlive⟩ := liveChecked_ok h
      exact ⟨hlive, Or.inr ⟨s, rfl, hsame.1, hsame.2.1, hsame.2.2, rfl⟩⟩
    · cases h

theorem upsertSession_kept {session : StoredSession} (h : upsertSession t session = .ok t')
    (hnew : Recordable session) :
    Kept (fun e c => e = session.endpoint_id ∧ c = session.conversation_id) t t' := by
  obtain ⟨hlive, ⟨-, hinsert⟩ | ⟨s, hget, hconversation, hcwd, hdirectories, rfl⟩⟩ :=
    upsertSession_ok h
  · constructor
    · intro hinv
      refine ⟨hlive, fun s hs => ?_⟩
      rcases (Table.mem_insert hinsert).mp hs with hs | rfl
      · exact hinv.valid s hs
      · exact hnew.valid
    · intro s hs
      exact ⟨s, (Table.mem_insert hinsert).mpr (Or.inl hs), .refl s, fun _ => ⟨rfl, rfl⟩⟩
  · constructor
    · intro hinv
      refine ⟨hlive, fun r hr => ?_⟩
      rcases Table.mem_updateWhere.1 hr with ⟨r₀, hr₀, -, rfl⟩ | ⟨hr₀, -⟩
      · exact hinv.valid r₀ hr₀
      · exact hinv.valid r hr₀
    · intro r hr
      by_cases hp : r.key = session.key
      · refine ⟨_, Table.mem_updateWhere.2 (Or.inl ⟨r, hr, decide_eq_true hp, rfl⟩),
          ⟨rfl, rfl, rfl, rfl, rfl, fun _ => hnew.opened⟩, fun hout => absurd ?_ hout⟩
        have hrs : r = s := t.eq_of_key_eq hr (Table.mem_of_get hget)
          (hp.trans (Table.key_of_get hget).symm)
        subst hrs
        exact ⟨congrArg Prod.snd hp, hconversation⟩
      · exact ⟨r, Table.mem_updateWhere.2 (Or.inr ⟨hr, decide_eq_false hp⟩), .refl r,
          fun _ => ⟨rfl, rfl⟩⟩

/-- The row that the call leaves. -/
theorem upsertSession_records {session : StoredSession} (h : upsertSession t session = .ok t') :
    ∃ s ∈ t'.rows, s.session_id = session.session_id ∧ s.endpoint_id = session.endpoint_id ∧
      s.conversation_id = session.conversation_id ∧ s.cwd = session.cwd ∧
      s.additional_directories = session.additional_directories ∧ s.state = session.state ∧
      s.compatibility_version = session.compatibility_version ∧
      s.compatibility_hash = session.compatibility_hash := by
  obtain ⟨-, ⟨-, hinsert⟩ | ⟨s, hget, hconversation, hcwd, hdirectories, rfl⟩⟩ :=
    upsertSession_ok h
  · exact ⟨session, (Table.mem_insert hinsert).mpr (Or.inr rfl), rfl, rfl, rfl, rfl, rfl, rfl, rfl,
      rfl⟩
  · have hkey := Table.key_of_get hget
    refine ⟨session.refresh s, Table.mem_updateWhere.2
      (Or.inl ⟨s, Table.mem_of_get hget, decide_eq_true hkey, rfl⟩), ?_⟩
    exact ⟨congrArg Prod.fst hkey, congrArg Prod.snd hkey, hconversation, hcwd, hdirectories, rfl,
      rfl, rfl⟩

/-- **When the call succeeds**: the row under the key describes the same work, and no other live
session has the key of the index. -/
theorem upsertSession_iff {session : StoredSession} (hinv : SessionInv t)
    (hnew : Recordable session)
    (honly : ∀ b ∈ t.rows,
      b.isLive session.endpoint_id session.conversation_id session.cwd = true →
        b.key = session.key) :
    (∃ t', upsertSession t session = .ok t') ↔
      ∀ s, t.get session.key = some s → s.conversation_id = session.conversation_id ∧
        s.cwd = session.cwd ∧ s.additional_directories = session.additional_directories := by
  constructor
  · intro hok s hget
    obtain ⟨t', h⟩ := hok
    obtain ⟨-, ⟨hnone, -⟩ | ⟨s', hget', hconversation, hcwd, hdirectories, -⟩⟩ := upsertSession_ok h
    · rw [hnone] at hget
      cases hget
    · rw [hget] at hget'
      cases hget'
      exact ⟨hconversation, hcwd, hdirectories⟩
  · intro hsame
    unfold upsertSession
    cases hget : t.get session.key with
    | none =>
      obtain ⟨t', hinsert⟩ := Table.exists_insert ((t.get_eq_none_iff session.key).mp hget)
      have hfree : ∀ b ∈ t.rows,
          ¬ b.isLive session.endpoint_id session.conversation_id session.cwd = true :=
        fun b hb hlive => (t.get_eq_none_iff session.key).mp hget b hb (honly b hb hlive)
      have hlive : sessionsLive t' = true := by
        rw [sessionsLive_iff]
        intro a ha b hb hopen hblive
        obtain ⟨h1, h2, h3, h4⟩ := StoredSession.isLive_iff.1 hblive
        rcases (Table.mem_insert hinsert).mp ha with ha | rfl
        · rcases (Table.mem_insert hinsert).mp hb with hb | rfl
          · exact sessionsLive_iff.1 hinv.live a ha b hb hopen hblive
          · exact absurd (StoredSession.isLive_iff.2 ⟨h1.symm, h2.symm, h3.symm, hopen⟩)
              (hfree a ha)
        · rcases (Table.mem_insert hinsert).mp hb with hb | rfl
          · exact absurd hblive (hfree b hb)
          · rfl
      refine ⟨t', ?_⟩
      simp only [hinsert, liveChecked, hlive, if_true]
    | some s =>
      have hlive : sessionsLive (t.updateWhere (fun r => decide (r.key = session.key))
          session.refresh) = true := by
        refine sessionsLive_updateWhere hinv.live (fun r hr => of_decide_eq_true hr)
          (fun r => ⟨rfl, rfl, rfl⟩) ?_
        intro r hr hp b hb hblive
        obtain ⟨hconversation, hcwd, -⟩ := hsame s hget
        have hrs : r = s := t.eq_of_key_eq hr (Table.mem_of_get hget)
          ((of_decide_eq_true hp).trans (Table.key_of_get hget).symm)
        subst hrs
        have hkey : r.key = session.key := Table.key_of_get hget
        have hendpoint : r.endpoint_id = session.endpoint_id := congrArg Prod.snd hkey
        rw [hendpoint, hconversation, hcwd] at hblive
        exact t.eq_of_key_eq hb hr ((honly b hb hblive).trans hkey.symm)
      dsimp only
      rw [if_pos (hsame s hget), liveChecked, if_pos hlive]
      exact ⟨_, rfl⟩

/-! ### What a step keeps -/

section Steps

variable {Turn : Type} {w w' : SessionWorld}

/-- What a client that is alive or just spawned looks up. -/
theorem ensureClient_ok {d : AcpDispatcher} {agent : AgentReplies} {client : AcpClient}
    (h : d.ensureClient agent = .ok client) : client.is_alive = true := by
  unfold AcpDispatcher.ensureClient at h
  cases halive : d.aliveClient with
  | some c =>
    rw [halive] at h
    cases h
    exact (Option.filter_eq_some_iff.mp halive).2
  | none =>
    rw [halive] at h
    cases hspawned : agent.spawned with
    | error e =>
      rw [hspawned] at h
      cases h
    | ok backend_id =>
      rw [hspawned] at h
      cases h
      rfl

@[simp] theorem connect_sessions (w : SessionWorld) (endpoint : EndpointId)
    (client : Option AcpClient) : (w.connect endpoint client).sessions = w.sessions := rfl

@[simp] theorem connect_cwd (w : SessionWorld) (endpoint e : EndpointId)
    (client : Option AcpClient) :
    ((w.connect endpoint client).dispatchers e).cwd = (w.dispatchers e).cwd := by
  unfold SessionWorld.connect
  dsimp only
  split <;> rfl

@[simp] theorem connect_directories (w : SessionWorld) (endpoint e : EndpointId)
    (client : Option AcpClient) :
    ((w.connect endpoint client).dispatchers e).additional_directories =
      (w.dispatchers e).additional_directories := by
  unfold SessionWorld.connect
  dsimp only
  split <;> rfl

@[simp] theorem connect_client (w : SessionWorld) (endpoint : EndpointId)
    (client : Option AcpClient) :
    ((w.connect endpoint client).dispatchers endpoint).client = client := by
  unfold SessionWorld.connect
  dsimp only
  rw [if_pos rfl]

theorem recover_sessions (w : SessionWorld) (endpoint : EndpointId) (agent : AgentReplies)
    (session_id : String) : (w.recover endpoint agent session_id).2.sessions = w.sessions := by
  unfold SessionWorld.recover
  cases (w.dispatchers endpoint).ensureClient agent with
  | error e => rfl
  | ok client => cases resumeSession agent session_id <;> rfl

theorem closeTurn_sessions (w : SessionWorld) (endpoint : EndpointId) (agent : AgentReplies)
    (session_id : String) (turn : Except AcpError Turn) :
    (w.closeTurn endpoint agent session_id turn).2.sessions = w.sessions := by
  unfold SessionWorld.closeTurn
  cases turn with
  | ok turn => rfl
  | error e =>
    dsimp only
    split
    · exact recover_sessions w endpoint agent session_id
    · rfl

theorem markReady_kept (w : SessionWorld) (session_id : String) (endpoint : EndpointId)
    (now : DateTime) : Kept written w.sessions (w.markReady session_id endpoint now).sessions := by
  unfold SessionWorld.markReady
  cases h : setState w.sessions session_id endpoint .ready now with
  | error e => exact .refl _
  | ok sessions => exact setState_kept h (by decide)

theorem finishTurn_kept (w : SessionWorld) (endpoint : EndpointId) (session_id : String)
    (completed : Except AcpError Turn) (output : Except AcpError Unit) (agent : AgentReplies)
    (ready_at : DateTime) : Kept written w.sessions
      (w.finishTurn endpoint session_id completed output agent ready_at).2.sessions := by
  unfold SessionWorld.finishTurn
  cases output with
  | error e => exact .refl _
  | ok _ =>
    show Kept written w.sessions (SessionWorld.closeTurn _ _ _ _ _).2.sessions
    rw [closeTurn_sessions]
    exact markReady_kept w session_id endpoint ready_at

variable [Externals] [HashCrates]

theorem newWithWorkspaces_ok {session_id cwd backend_id : String} {endpoint : EndpointId}
    {conversation : ConversationId} {roots : List String} {now : DateTime} {s : StoredSession}
    (h : StoredSession.newWithWorkspaces session_id endpoint conversation cwd roots backend_id now
      = .ok s) :
    ValidSessionId session_id ∧ s.session_id = session_id ∧ s.endpoint_id = endpoint ∧
      s.conversation_id = conversation ∧ s.cwd = cwd ∧
      s.additional_directories = directoriesText roots ∧ s.state = .ready ∧
      s.compatibility_version = 1 ∧
      s.compatibility_hash = compatibilityHash backend_id PROTOCOL_VERSION cwd roots := by
  unfold StoredSession.newWithWorkspaces at h
  split at h
  · cases h
  · rename_i hvalid
    cases h
    simp only [Bool.or_eq_true, decide_eq_true_eq, not_or, Bool.not_eq_true, not_lt] at hvalid
    exact ⟨hvalid, rfl, rfl, rfl, rfl, rfl, rfl, rfl, rfl⟩

theorem newWithWorkspaces_valid {session_id : String} (hvalid : ValidSessionId session_id)
    (cwd backend_id : String) (endpoint : EndpointId) (conversation : ConversationId)
    (roots : List String) (now : DateTime) :
    ∃ s, StoredSession.newWithWorkspaces session_id endpoint conversation cwd roots backend_id now
      = .ok s := by
  unfold StoredSession.newWithWorkspaces
  rw [if_neg]
  · exact ⟨_, rfl⟩
  · simp only [Bool.or_eq_true, decide_eq_true_eq, not_or, Bool.not_eq_true, not_lt]
    exact hvalid

theorem startTurn_kept (w : SessionWorld) (t : TurnSession Turn) :
    Kept written w.sessions (w.startTurn t).2.sessions := by
  unfold SessionWorld.startTurn
  cases w.turnSession t.endpoint t.conversation with
  | none => exact .refl _
  | some stored =>
    dsimp only
    cases ((w.connect t.endpoint t.slot).dispatchers t.endpoint).aliveClient with
    | none =>
      dsimp only
      rw [recover_sessions]
      exact .refl _
    | some _ =>
      dsimp only
      cases h : setState (w.connect t.endpoint t.slot).sessions stored.session_id t.endpoint
          .prompting t.now with
      | error source => exact .refl _
      | ok sessions =>
        have hkept : Kept written w.sessions sessions := setState_kept h (by decide)
        cases t.output <;> exact hkept

theorem promptInner_kept (w : SessionWorld) (t : TurnSession Turn) :
    Kept written w.sessions (w.promptInner t).2.sessions := by
  unfold SessionWorld.promptInner
  cases w.turnSession t.endpoint t.conversation with
  | none => exact .refl _
  | some stored =>
    dsimp only
    cases ((w.connect t.endpoint t.slot).dispatchers t.endpoint).aliveClient with
    | none =>
      dsimp only
      rw [recover_sessions]
      exact .refl _
    | some _ =>
      dsimp only
      cases h : setState (w.connect t.endpoint t.slot).sessions stored.session_id t.endpoint
          .prompting t.now with
      | error source => exact .refl _
      | ok sessions =>
        have hkept : Kept written w.sessions sessions := setState_kept h (by decide)
        dsimp only
        rw [closeTurn_sessions]
        have hready := @markReady_kept written
          ⟨sessions, ((w.connect t.endpoint t.slot).connect t.endpoint t.slot_after).dispatchers⟩
          stored.session_id t.endpoint t.ready_at
        exact hkept.trans hready

/-- The new row of `deliver_inner`. -/
structure Records (w : SessionWorld) (r : DeliverySession) (client : AcpClient)
    (session_id : String) (sessions : SessionTable) : Prop where
  kept : Kept (fun e c => e = r.endpoint ∧ c = r.conversation) w.sessions sessions
  row : ∃ s ∈ sessions.rows, s.session_id = session_id ∧
    s.isLive r.endpoint r.conversation (w.dispatchers r.endpoint).cwd = true ∧
    s.additional_directories =
      directoriesText (w.dispatchers r.endpoint).additional_directories ∧
    s.compatibility_version = 1 ∧
    s.compatibility_hash = compatibilityHash client.backend_id PROTOCOL_VERSION
      (w.dispatchers r.endpoint).cwd (w.dispatchers r.endpoint).additional_directories

theorem recordAccepted_ok {r : DeliverySession} {client : AcpClient} {session_id : String}
    {sessions : SessionTable} (h : w.recordAccepted r client session_id = .ok sessions) :
    Records w r client session_id sessions := by
  unfold SessionWorld.recordAccepted at h
  dsimp only at h
  cases hnew : StoredSession.newWithWorkspaces session_id r.endpoint r.conversation
      (w.dispatchers r.endpoint).cwd (w.dispatchers r.endpoint).additional_directories
      client.backend_id r.now with
  | error e =>
    rw [hnew] at h
    cases h
  | ok stored =>
    rw [hnew] at h
    have hupsert : upsertSession w.sessions stored = .ok sessions := h
    obtain ⟨hvalid, hid, hendpoint, hconversation, hcwd, hroots, hready, hversion, hhash⟩ :=
      newWithWorkspaces_ok hnew
    have hopen : stored.state ≠ .closed := by
      rw [hready]
      decide
    constructor
    · refine (upsertSession_kept hupsert ⟨hid ▸ hvalid, hopen⟩).mono ?_
      intro e c hec
      exact ⟨hec.1.trans hendpoint, hec.2.trans hconversation⟩
    · obtain ⟨s, hs, h1, h2, h3, h4, h5, h6, h7, h8⟩ := upsertSession_records hupsert
      refine ⟨s, hs, h1.trans hid, StoredSession.isLive_iff.2 ⟨h2.trans hendpoint,
        h3.trans hconversation, h4.trans hcwd, fun hclosed => hopen (h6.symm.trans hclosed)⟩,
        h5.trans hroots, h7.trans hversion, h8.trans hhash⟩

/-- **`deliver_inner` between its two records**: nothing but the client changed, or a session was
recorded under the client in the slot. -/
theorem recordSession_cases {r : DeliverySession} {result : Except AcpError String}
    (h : w.recordSession r = (result, w')) :
    w'.sessions = w.sessions ∧ (∃ e, result = .error e) ∨
      ∃ client session_id, (w.dispatchers r.endpoint).ensureClient r.agent = .ok client ∧
        result = .ok session_id ∧ w'.dispatchers = (w.connect r.endpoint (some client)).dispatchers ∧
        Records (w.connect r.endpoint (some client)) r client session_id w'.sessions := by
  unfold SessionWorld.recordSession at h
  cases hclient : (w.dispatchers r.endpoint).ensureClient r.agent with
  | error e =>
    rw [hclient] at h
    cases h
    exact Or.inl ⟨rfl, e, rfl⟩
  | ok client =>
    rw [hclient] at h
    dsimp only at h
    cases haccepted : (w.connect r.endpoint (some client)).acceptedSession r client with
    | error e =>
      rw [haccepted] at h
      cases h
      exact Or.inl ⟨rfl, e, rfl⟩
    | ok session_id =>
      rw [haccepted] at h
      dsimp only at h
      cases hrecord : (w.connect r.endpoint (some client)).recordAccepted r client session_id with
      | error source =>
        rw [hrecord] at h
        cases h
        exact Or.inl ⟨rfl, _, rfl⟩
      | ok sessions =>
        rw [hrecord] at h
        cases h
        exact Or.inr ⟨client, session_id, rfl, rfl, rfl, recordAccepted_ok hrecord⟩

theorem deliverInner_kept (w : SessionWorld) (r : DeliverySession) :
    Kept (fun e c => r.endpoint = e ∧ r.conversation = c ∧ r.prepared = .ok () ∧
      ∃ session_id, (w.recordSession r).1 = .ok session_id) w.sessions
      (w.deliverInner r).2.sessions := by
  unfold SessionWorld.deliverInner
  cases r.prepared with
  | error e => exact .refl _
  | ok _ =>
    obtain ⟨⟨result, w'⟩, hrecord⟩ : ∃ p, w.recordSession r = p := ⟨_, rfl⟩
    dsimp only
    rw [hrecord]
    cases recordSession_cases hrecord with
    | inl h =>
      obtain ⟨hsessions, e, rfl⟩ := h
      dsimp only
      rw [hsessions]
      exact .refl _
    | inr h =>
      obtain ⟨client, session_id, -, rfl, -, hrecords⟩ := h
      refine hrecords.kept.mono ?_
      rintro e c ⟨rfl, rfl⟩
      exact ⟨rfl, rfl, rfl, session_id, rfl⟩

/-- **The step lemma**: rows stay, and only a delivery that records the session of their
conversation touches what the lookups compare. -/
theorem after_kept (w : SessionWorld) (event : SessionEvent Turn) :
    Kept (fun e c => event.RecordsTo w e c) w.sessions (w.after event).sessions := by
  cases event with
  | deliver r => exact deliverInner_kept w r
  | startTurn t => exact startTurn_kept w t
  | prompt t => exact promptInner_kept w t
  | finish endpoint session_id completed output agent ready_at =>
    exact finishTurn_kept w endpoint session_id completed output agent ready_at
  | clientChanges endpoint client => exact .refl _
  | restart cwd roots => exact .refl _

/-- The run lemma. -/
theorem afterAll_kept (events : List (SessionEvent Turn)) (w : SessionWorld) :
    Kept (fun e c => w.RecordsIn e c events) w.sessions (w.afterAll events).sessions := by
  induction events generalizing w with
  | nil => exact .refl _
  | cons event events ih =>
    have hstep : Kept (fun e c => w.RecordsIn e c (event :: events)) w.sessions
        (w.after event).sessions :=
      (after_kept w event).mono fun e c h => Or.inl h
    exact hstep.trans ((ih (w.after event)).mono fun e c h => Or.inr h)

end Steps

end GuiguBridge
