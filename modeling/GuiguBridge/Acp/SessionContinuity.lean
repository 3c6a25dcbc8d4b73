import GuiguBridge.Acp.Sessions
import GuiguBridge.Reference

/-!
# When a session goes on

A delivery to a conversation should always be able to record its session, and the turn that
follows should find it.  Neither holds always.

* `Bindable`, `recordSession_iff` — **a delivery records its session exactly when the live session
  of its key has the directories configured now**;
* `turnSession_iff` — a turn finds the session exactly when the directories are the same and the
  identity of the client that is alive, or none, hashes to what was recorded;
* `TurnContinues` — what the two kinds of turns do with a session found;
* `sessions_continue` — the three together, over every run.
-/

namespace GuiguBridge

open Relational

/-! ### When a delivery records its session -/

/-- An agent that accepts `session/new` and `session/resume`. -/
structure AgentReplies.Accepts (agent : AgentReplies) : Prop where
  spawned : ∃ backend_id, agent.spawned = .ok backend_id
  created : ∃ session_id, agent.created = .ok session_id ∧ ValidSessionId session_id
  resumed : ∀ session_id, agent.resumed session_id = .ok none ∨
    agent.resumed session_id = .ok (some session_id)

/-- The live session of the key, if there is one, was recorded with the directories configured
now; if there is none, the id of the new session is not bound to other work. -/
def SessionWorld.Bindable [Externals] (w : SessionWorld) (r : DeliverySession) : Prop :=
  let d := w.dispatchers r.endpoint
  (∀ s ∈ w.sessions.rows, s.isLive r.endpoint r.conversation d.cwd = true →
    s.additional_directories = directoriesText d.additional_directories) ∧
  ((∀ s ∈ w.sessions.rows, s.isLive r.endpoint r.conversation d.cwd = false) →
    ∀ s ∈ w.sessions.rows, r.agent.created = .ok s.session_id → s.endpoint_id = r.endpoint →
      s.conversation_id = r.conversation ∧ s.cwd = d.cwd ∧
        s.additional_directories = directoriesText d.additional_directories)

section Delivery

theorem validateSessionId_valid {session_id : String} (h : ValidSessionId session_id) :
    validateSessionId session_id = .ok session_id := by
  unfold validateSessionId
  rw [h.1, if_neg Bool.false_ne_true, if_neg (Nat.not_lt.2 h.2)]

theorem resumeSession_accepts {agent : AgentReplies} {session_id : String}
    (haccepts : agent.Accepts) (hvalid : ValidSessionId session_id) :
    resumeSession agent session_id = .ok session_id := by
  have hvalidate := validateSessionId_valid hvalid
  unfold resumeSession
  rw [hvalidate]
  show (agent.resumed session_id >>= _) = _
  cases haccepts.resumed session_id with
  | inl h =>
    rw [h]
    rfl
  | inr h =>
    rw [h]
    show (validateSessionId session_id >>= _) = _
    rw [hvalidate]
    show (if session_id ≠ session_id then _ else _) = _
    rw [if_neg (not_not_intro rfl)]
    rfl

theorem ensureClient_accepts {agent : AgentReplies} (haccepts : agent.Accepts)
    (d : AcpDispatcher) : ∃ client, d.ensureClient agent = .ok client := by
  unfold AcpDispatcher.ensureClient
  cases d.aliveClient with
  | some client => exact ⟨client, rfl⟩
  | none =>
    obtain ⟨backend_id, hspawned⟩ := haccepts.spawned
    rw [hspawned]
    exact ⟨_, rfl⟩

variable [Externals] [HashCrates] {w : SessionWorld} {r : DeliverySession} {client : AcpClient}

/-- The lookups of a delivery find the live session of the key, if there is one. -/
theorem existingSession_live (hinv : SessionInv w.sessions) {endpoint : EndpointId}
    {conversation : ConversationId} {s : StoredSession} (hs : s ∈ w.sessions.rows)
    (hlive : s.isLive endpoint conversation (w.dispatchers endpoint).cwd = true) :
    w.existingSession endpoint conversation client = some s := by
  unfold SessionWorld.existingSession
  dsimp only
  cases hfirst : liveSessionWithWorkspaces w.sessions endpoint conversation
      (w.dispatchers endpoint).cwd (w.dispatchers endpoint).additional_directories
      client.backend_id with
  | some found =>
    have hselects := List.find?_some hfirst
    unfold selectsLive at hselects
    rw [Bool.and_eq_true, Bool.and_eq_true] at hselects
    rw [hinv.unique (List.mem_of_find?_eq_some hfirst) hs hselects.1.1 hlive]
  | none =>
    dsimp only
    cases hsecond : liveSession w.sessions endpoint conversation (w.dispatchers endpoint).cwd with
    | some found =>
      have hfound := List.find?_some hsecond
      rw [hinv.unique (List.mem_of_find?_eq_some hsecond) hs hfound hlive]
    | none =>
      have hnone := List.find?_eq_none.mp hsecond s hs
      exact absurd hlive hnone

theorem existingSession_none {endpoint : EndpointId} {conversation : ConversationId}
    (hnone : ∀ s ∈ w.sessions.rows,
      s.isLive endpoint conversation (w.dispatchers endpoint).cwd = false) :
    w.existingSession endpoint conversation client = none := by
  have hfirst : liveSessionWithWorkspaces w.sessions endpoint conversation
      (w.dispatchers endpoint).cwd (w.dispatchers endpoint).additional_directories
      client.backend_id = none := by
    apply List.find?_eq_none.mpr
    intro s hs hselects
    unfold selectsLive at hselects
    rw [Bool.and_eq_true, Bool.and_eq_true, hnone s hs] at hselects
    exact Bool.false_ne_true hselects.1.1
  have hsecond : liveSession w.sessions endpoint conversation (w.dispatchers endpoint).cwd = none := by
    apply List.find?_eq_none.mpr
    intro s hs
    rw [hnone s hs]
    exact Bool.false_ne_true
  unfold SessionWorld.existingSession
  dsimp only
  rw [hfirst]
  exact hsecond

theorem recordAccepted_iff {session_id : String} (hinv : SessionInv w.sessions)
    (hvalid : ValidSessionId session_id)
    (honly : ∀ s ∈ w.sessions.rows,
      s.isLive r.endpoint r.conversation (w.dispatchers r.endpoint).cwd = true →
        s.session_id = session_id) :
    (∃ sessions, w.recordAccepted r client session_id = .ok sessions) ↔
      ∀ s ∈ w.sessions.rows, s.session_id = session_id → s.endpoint_id = r.endpoint →
        s.conversation_id = r.conversation ∧ s.cwd = (w.dispatchers r.endpoint).cwd ∧
          s.additional_directories =
            directoriesText (w.dispatchers r.endpoint).additional_directories := by
  obtain ⟨stored, hnew⟩ := newWithWorkspaces_valid hvalid (w.dispatchers r.endpoint).cwd
    client.backend_id r.endpoint r.conversation
    (w.dispatchers r.endpoint).additional_directories r.now
  obtain ⟨-, hid, hendpoint, hconversation, hcwd, hroots, hready, -, -⟩ := newWithWorkspaces_ok hnew
  have hrecord : w.recordAccepted r client session_id = upsertSession w.sessions stored := by
    unfold SessionWorld.recordAccepted
    dsimp only
    rw [hnew]
    rfl
  have hnewRow : Recordable stored := ⟨hid ▸ hvalid, by rw [hready]; decide⟩
  have hkey : stored.key = (session_id, r.endpoint) := Prod.ext hid hendpoint
  rw [hrecord, upsertSession_iff hinv hnewRow]
  · rw [hkey, hconversation, hcwd, hroots]
    constructor
    · intro h s hs hsid hsendpoint
      exact h s ((w.sessions.get_eq_some_iff _ s).mpr ⟨hs, Prod.ext hsid hsendpoint⟩)
    · intro h s hget
      have hskey := Table.key_of_get hget
      exact h s (Table.mem_of_get hget) (congrArg Prod.fst hskey) (congrArg Prod.snd hskey)
  · intro b hb hblive
    rw [hendpoint, hconversation, hcwd] at hblive
    rw [hkey]
    exact Prod.ext (honly b hb hblive) (StoredSession.isLive_iff.1 hblive).1

/-- **A delivery records its session exactly when the directories agree.** -/
theorem recordSession_iff (hinv : SessionInv w.sessions) (haccepts : r.agent.Accepts) :
    (∃ session_id, (w.recordSession r).1 = .ok session_id) ↔ w.Bindable r := by
  obtain ⟨client, hclient⟩ := ensureClient_accepts haccepts (w.dispatchers r.endpoint)
  -- the id that the agent accepts is the one to be recorded
  have hrun : ∀ session_id,
      (w.connect r.endpoint (some client)).acceptedSession r client = .ok session_id →
      ((∃ id, (w.recordSession r).1 = .ok id) ↔
        ∃ sessions, (w.connect r.endpoint (some client)).recordAccepted r client session_id =
          .ok sessions) := by
    intro session_id haccepted
    unfold SessionWorld.recordSession
    rw [hclient]
    dsimp only
    rw [haccepted]
    dsimp only
    cases (w.connect r.endpoint (some client)).recordAccepted r client session_id with
    | error e => simp
    | ok sessions => exact ⟨fun _ => ⟨sessions, rfl⟩, fun _ => ⟨session_id, rfl⟩⟩
  have hinv' : SessionInv (w.connect r.endpoint (some client)).sessions := hinv
  unfold SessionWorld.Bindable
  by_cases hex : ∃ s ∈ w.sessions.rows,
      s.isLive r.endpoint r.conversation (w.dispatchers r.endpoint).cwd = true
  · obtain ⟨s, hs, hlive⟩ := hex
    have haccepted : (w.connect r.endpoint (some client)).acceptedSession r client =
        .ok s.session_id := by
      unfold SessionWorld.acceptedSession
      rw [existingSession_live hinv' hs (by rw [connect_cwd]; exact hlive)]
      exact resumeSession_accepts haccepts (hinv.valid s hs)
    rw [hrun s.session_id haccepted, recordAccepted_iff hinv' (hinv.valid s hs)]
    · simp only [connect_sessions, connect_cwd, connect_directories]
      obtain ⟨hendpoint, hconversation, hcwd, -⟩ := StoredSession.isLive_iff.1 hlive
      constructor
      · intro h
        refine ⟨fun b hb hblive => ?_, fun hnone => absurd hlive ?_⟩
        · rw [hinv.unique hb hs hblive hlive]
          exact (h s hs rfl hendpoint).2.2
        · rw [hnone s hs]
          exact Bool.false_ne_true
      · intro h b hb hid hbendpoint
        have hbs : b = s :=
          w.sessions.eq_of_key_eq hb hs (Prod.ext hid (hbendpoint.trans hendpoint.symm))
        rw [hbs]
        exact ⟨hconversation, hcwd, h.1 s hs hlive⟩
    · intro b hb hblive
      rw [connect_cwd] at hblive
      rw [hinv.unique hb hs hblive hlive]
  · have hnone : ∀ s ∈ w.sessions.rows,
        s.isLive r.endpoint r.conversation (w.dispatchers r.endpoint).cwd = false := by
      intro s hs
      rw [← Bool.not_eq_true]
      exact fun hlive => hex ⟨s, hs, hlive⟩
    obtain ⟨session_id, hcreated, hvalid⟩ := haccepts.created
    have haccepted : (w.connect r.endpoint (some client)).acceptedSession r client =
        .ok session_id := by
      unfold SessionWorld.acceptedSession
      rw [existingSession_none (by rw [connect_cwd]; exact hnone)]
      show newSession r.agent = _
      unfold newSession
      rw [hcreated]
      exact validateSessionId_valid hvalid
    rw [hrun session_id haccepted, recordAccepted_iff hinv' hvalid]
    · simp only [connect_sessions, connect_cwd, connect_directories]
      constructor
      · intro h
        refine ⟨fun s hs hlive => absurd hlive ?_, fun _ s hs hid hendpoint => ?_⟩
        · rw [hnone s hs]
          exact Bool.false_ne_true
        · rw [hcreated] at hid
          exact h s hs (Except.ok.inj hid).symm hendpoint
      · intro h s hs hid hendpoint
        exact h.2 hnone s hs (by rw [hcreated, hid]) hendpoint
    · intro b hb hblive
      rw [connect_cwd, hnone b hb] at hblive
      cases hblive

end Delivery

/-! ### When a turn finds its session -/

section Turns

variable {Turn : Type} {w : SessionWorld}

theorem recover_accepts {agent : AgentReplies} {session_id : String} (haccepts : agent.Accepts)
    (hvalid : ValidSessionId session_id) (w : SessionWorld) (endpoint : EndpointId) :
    (w.recover endpoint agent session_id).1 = .recoveryNeeded := by
  obtain ⟨client, hclient⟩ := ensureClient_accepts haccepts (w.dispatchers endpoint)
  unfold SessionWorld.recover
  rw [hclient, resumeSession_accepts haccepts hvalid]

variable [Externals] [HashCrates]

/-- Both kinds of turns go on in this session: a client that is alive when the slot is read again
is prompted in it; otherwise, and when the agent is gone by the end of the prompt, the session is
resumed and recovery reported. -/
def SessionWorld.TurnContinues (w : SessionWorld) (t : TurnSession Turn) (session_id : String) :
    Prop :=
  (w.startTurn t).1 = (match t.slot.filter (·.is_alive) with
    | none => .error .recoveryNeeded
    | some _ => do
      t.output
      t.streams session_id
      return session_id) ∧
  (w.promptInner t).1 = match t.slot.filter (·.is_alive), t.prompts session_id with
    | none, _ => .error .recoveryNeeded
    | some _, .ok turn => .ok turn
    | some _, .error e =>
      .error (if e = .exited ∨ e = .transportClosed then .recoveryNeeded else e)

/-- Both kinds of turns report that the conversation has no session. -/
def SessionWorld.TurnRefused (w : SessionWorld) (t : TurnSession Turn) : Prop :=
  (w.startTurn t).1 = .error (.sessionId "no live session for this delivery") ∧
    (w.promptInner t).1 = .error (.sessionId "no live session for this delivery")

theorem turnSession_mem {endpoint : EndpointId} {conversation : ConversationId}
    {s : StoredSession} (h : w.turnSession endpoint conversation = some s) :
    s ∈ w.sessions.rows ∧
      s.isLive endpoint conversation (w.dispatchers endpoint).cwd = true := by
  have hselects := List.find?_some h
  unfold selectsLive at hselects
  rw [Bool.and_eq_true, Bool.and_eq_true] at hselects
  exact ⟨List.mem_of_find?_eq_some h, hselects.1.1⟩

/-- **When a turn finds the live session of its key.** -/
theorem turnSession_iff (hinv : SessionInv w.sessions) {endpoint : EndpointId}
    {conversation : ConversationId} {s : StoredSession} (hs : s ∈ w.sessions.rows)
    (hlive : s.isLive endpoint conversation (w.dispatchers endpoint).cwd = true)
    (hversion : s.compatibility_version = 1) :
    w.turnSession endpoint conversation = some s ↔
      s.additional_directories =
        directoriesText (w.dispatchers endpoint).additional_directories ∧
      s.compatibility_hash = compatibilityHash (w.lookupBackend endpoint) PROTOCOL_VERSION
        (w.dispatchers endpoint).cwd (w.dispatchers endpoint).additional_directories := by
  have hselects : selectsLive endpoint conversation (w.dispatchers endpoint).cwd
      (w.dispatchers endpoint).additional_directories (w.lookupBackend endpoint) s = true ↔
      s.additional_directories =
        directoriesText (w.dispatchers endpoint).additional_directories ∧
      s.compatibility_hash = compatibilityHash (w.lookupBackend endpoint) PROTOCOL_VERSION
        (w.dispatchers endpoint).cwd (w.dispatchers endpoint).additional_directories := by
    unfold selectsLive
    rw [hlive, hversion, Bool.true_and, Bool.and_eq_true, decide_eq_true_eq]
    simp only [decide_true, Bool.true_and, Bool.or_eq_true, decide_eq_true_eq, one_ne_zero,
      false_and, decide_false, Bool.false_eq_true, or_false]
  rw [← hselects]
  constructor
  · intro hfound
    exact List.find?_some hfound
  · intro hp
    cases hfound : w.turnSession endpoint conversation with
    | none => exact absurd hp (List.find?_eq_none.mp hfound s hs)
    | some found =>
      obtain ⟨hmem, hfoundLive⟩ := turnSession_mem hfound
      rw [hinv.unique hmem hs hfoundLive hlive]

theorem turnRefused {t : TurnSession Turn}
    (h : w.turnSession t.endpoint t.conversation = none) : w.TurnRefused t := by
  unfold SessionWorld.TurnRefused SessionWorld.startTurn SessionWorld.promptInner
  rw [h]
  exact ⟨rfl, rfl⟩

/-- **A turn that finds its session goes on in it.** -/
theorem turnContinues {t : TurnSession Turn} {s : StoredSession} (hinv : SessionInv w.sessions)
    (haccepts : t.agent.Accepts) (h : w.turnSession t.endpoint t.conversation = some s) :
    w.TurnContinues t s.session_id := by
  obtain ⟨hs, hlive⟩ := turnSession_mem h
  obtain ⟨hendpoint, -, -, hopen⟩ := StoredSession.isLive_iff.1 hlive
  have hvalid := hinv.valid s hs
  have halive : ((w.connect t.endpoint t.slot).dispatchers t.endpoint).aliveClient =
      t.slot.filter (·.is_alive) := by
    unfold AcpDispatcher.aliveClient
    rw [connect_client]
  obtain ⟨sessions, hset⟩ : ∃ sessions, setState w.sessions s.session_id s.endpoint_id .prompting
    t.now = .ok sessions := setState_live hinv hs hopen
  rw [hendpoint] at hset
  unfold SessionWorld.TurnContinues SessionWorld.startTurn SessionWorld.promptInner
  rw [h]
  dsimp only
  rw [halive]
  cases t.slot.filter (·.is_alive) with
  | none =>
    have hrecover := recover_accepts haccepts hvalid (w.connect t.endpoint t.slot) t.endpoint
    exact ⟨congrArg Except.error hrecover, congrArg Except.error hrecover⟩
  | some client =>
    dsimp only
    rw [connect_sessions, hset]
    constructor
    · cases t.output with
      | error e => rfl
      | ok _ => cases t.streams s.session_id <;> rfl
    · dsimp only
      unfold SessionWorld.closeTurn
      cases t.prompts s.session_id with
      | ok turn => rfl
      | error e =>
        dsimp only
        by_cases hgone : e = .exited ∨ e = .transportClosed
        · rw [if_pos hgone, if_pos hgone]
          exact congrArg Except.error (recover_accepts haccepts hvalid _ t.endpoint)
        · rw [if_neg hgone, if_neg hgone]

end Turns

/-! ### Every run -/

section Runs

variable [Externals] [HashCrates] {Turn : Type} {w : SessionWorld} {r : DeliverySession}

/-- A delivery that could not record leaves the table as it was. -/
theorem deliverInner_unrecorded (h : ¬ ∃ session_id, (w.recordSession r).1 = .ok session_id) :
    (w.deliverInner r).2.sessions = w.sessions := by
  unfold SessionWorld.deliverInner
  cases r.prepared with
  | error e => rfl
  | ok _ =>
    obtain ⟨⟨result, w'⟩, hrecord⟩ : ∃ p, w.recordSession r = p := ⟨_, rfl⟩
    rw [hrecord] at h ⊢
    cases recordSession_cases hrecord with
    | inl hsame =>
      obtain ⟨hsessions, e, rfl⟩ := hsame
      exact hsessions
    | inr hrecords =>
      obtain ⟨client, session_id, -, rfl, -, -⟩ := hrecords
      exact absurd ⟨session_id, rfl⟩ h

/-- A delivery that succeeded: the row it left, with the identity of the client now in the slot. -/
theorem deliverInner_ok {session_id : String} (h : (w.deliverInner r).1 = .ok session_id) :
    (((w.deliverInner r).2.dispatchers r.endpoint).cwd = (w.dispatchers r.endpoint).cwd) ∧
    ∃ s ∈ (w.deliverInner r).2.sessions.rows, s.session_id = session_id ∧
      s.isLive r.endpoint r.conversation (w.dispatchers r.endpoint).cwd = true ∧
      s.additional_directories =
        directoriesText (w.dispatchers r.endpoint).additional_directories ∧
      s.compatibility_version = 1 ∧
      s.compatibility_hash = compatibilityHash ((w.deliverInner r).2.lookupBackend r.endpoint)
        PROTOCOL_VERSION (w.dispatchers r.endpoint).cwd
        (w.dispatchers r.endpoint).additional_directories := by
  unfold SessionWorld.deliverInner at h ⊢
  cases hprepared : r.prepared with
  | error e =>
    rw [hprepared] at h
    cases h
  | ok _ =>
    obtain ⟨⟨result, w'⟩, hrecord⟩ : ∃ p, w.recordSession r = p := ⟨_, rfl⟩
    rw [hprepared, hrecord] at h
    rw [hrecord]
    cases recordSession_cases hrecord with
    | inl hsame =>
      obtain ⟨-, e, rfl⟩ := hsame
      cases h
    | inr hrecords =>
      obtain ⟨client, id, hclient, rfl, hdispatchers, hrecords⟩ := hrecords
      have hid : id = session_id := by
        cases hacknowledged : r.acknowledged with
        | error e =>
          rw [hacknowledged] at h
          cases h
        | ok _ =>
          rw [hacknowledged] at h
          exact Except.ok.inj h
      subst hid
      have hbackend : w'.lookupBackend r.endpoint = client.backend_id := by
        unfold SessionWorld.lookupBackend AcpDispatcher.aliveClient
        rw [hdispatchers, connect_client, Option.filter_some, ensureClient_ok hclient]
        rfl
      obtain ⟨s, hs, hsid, hlive, hroots, hversion, hhash⟩ := hrecords.row
      rw [connect_cwd] at hlive hhash
      rw [connect_directories] at hroots hhash
      refine ⟨?_, s, hs, hsid, hlive, hroots, hversion, ?_⟩
      · show (w'.dispatchers r.endpoint).cwd = _
        rw [hdispatchers, connect_cwd]
      · show _ = compatibilityHash (w'.lookupBackend r.endpoint) _ _ _
        rw [hbackend]
        exact hhash

/-- **Sessions go on**, from any table that satisfies its constraints, over every run: a key has
one live session; a delivery records its session exactly when it is bindable, and otherwise leaves
the table as it was; the session that a delivery has recorded stays the live session of its key, and
until the next delivery that records it the turns go on in it exactly when the directories are the
same and the identity of the client that is alive hashes to the recorded one. -/
theorem sessions_continue (w₀ : SessionWorld) (hinv : SessionInv w₀.sessions)
    (events : List (SessionEvent Turn)) :
    let w := w₀.afterAll events
    sessionsLive w.sessions = true ∧
    (∀ r : DeliverySession, r.agent.Accepts →
      ((∃ session_id, (w.recordSession r).1 = .ok session_id) ↔ w.Bindable r) ∧
      (¬ w.Bindable r → (w.deliverInner r).2.sessions = w.sessions)) ∧
    ∀ (r : DeliverySession) (session_id : String), (w.deliverInner r).1 = .ok session_id →
      ∀ later : List (SessionEvent Turn),
      let w' := (w.deliverInner r).2.afterAll later
      let d := w.dispatchers r.endpoint
      let d' := w'.dispatchers r.endpoint
      d'.cwd = d.cwd →
      (∃ s ∈ w'.sessions.rows, s.isLive r.endpoint r.conversation d.cwd = true ∧
        s.session_id = session_id) ∧
      (¬ (w.deliverInner r).2.RecordsIn r.endpoint r.conversation later →
        ((∃ s, w'.turnSession r.endpoint r.conversation = some s ∧ s.session_id = session_id) ↔
          directoriesText d'.additional_directories = directoriesText d.additional_directories ∧
          compatibilityHash (w'.lookupBackend r.endpoint) PROTOCOL_VERSION d'.cwd
              d'.additional_directories =
            compatibilityHash ((w.deliverInner r).2.lookupBackend r.endpoint) PROTOCOL_VERSION
              d.cwd d.additional_directories) ∧
        ∀ t : TurnSession Turn, t.endpoint = r.endpoint → t.conversation = r.conversation →
          t.agent.Accepts →
          ((∃ s, w'.turnSession r.endpoint r.conversation = some s ∧ s.session_id = session_id) →
            w'.TurnContinues t session_id) ∧
          (w'.turnSession r.endpoint r.conversation = none → w'.TurnRefused t)) := by
  intro w
  have hw : SessionInv w.sessions := (afterAll_kept events w₀).inv hinv
  refine ⟨hw.live, fun r haccepts => ?_, fun r session_id hok later => ?_⟩
  · have hiff := recordSession_iff hw haccepts
    refine ⟨hiff, fun hnot => ?_⟩
    rw [← hiff] at hnot
    exact deliverInner_unrecorded hnot
  · intro w' d d' hcwd
    have hdelivered : SessionInv (w.deliverInner r).2.sessions := (deliverInner_kept w r).inv hw
    have hkept := afterAll_kept later (w.deliverInner r).2
    have hw' : SessionInv w'.sessions := hkept.inv hdelivered
    obtain ⟨-, s, hs, hid, hlive, hroots, hversion, hhash⟩ := deliverInner_ok hok
    obtain ⟨s', hs', hfollows, hsame⟩ := hkept.rows s hs
    obtain ⟨hendpoint, hconversation, hscwd, hopen⟩ := StoredSession.isLive_iff.1 hlive
    have hlive' : s'.isLive r.endpoint r.conversation d'.cwd = true :=
      StoredSession.isLive_iff.2 ⟨hfollows.endpoint_id.trans hendpoint,
        hfollows.conversation_id.trans hconversation, (hfollows.cwd.trans hscwd).trans hcwd.symm,
        hfollows.live hopen⟩
    have hid' : s'.session_id = session_id := hfollows.session_id.trans hid
    refine ⟨⟨s', hs', hcwd ▸ hlive', hid'⟩, fun hquiet => ⟨?_, fun t hte htc haccepts => ?_⟩⟩
    · obtain ⟨hversion', hhash'⟩ := hsame (by
        rw [hendpoint, hconversation]
        exact hquiet)
      have hfind := turnSession_iff hw' hs' hlive' (hversion'.trans hversion)
      rw [hfollows.additional_directories, hroots, hhash', hhash] at hfind
      constructor
      · intro hfound
        obtain ⟨found, hturn, -⟩ := hfound
        obtain ⟨hmem, hfoundLive⟩ := turnSession_mem hturn
        rw [hw'.unique hmem hs' hfoundLive hlive'] at hturn
        obtain ⟨h1, h2⟩ := hfind.mp hturn
        exact ⟨h1.symm, h2.symm⟩
      · intro hcond
        exact ⟨s', hfind.mpr ⟨hcond.1.symm, hcond.2.symm⟩, hid'⟩
    · rw [← hte, ← htc]
      refine ⟨fun hfound => ?_, fun hnone => turnRefused hnone⟩
      obtain ⟨found, hturn, rfl⟩ := hfound
      exact turnContinues hw' haccepts hturn

end Runs

/-! ### One conversation -/

/-- An agent that accepts everything, under one identity. -/
def willingAgent : AgentReplies := ⟨.ok "agent@1", .ok "s-1", fun _ => .ok none⟩

def firstDelivery : DeliverySession := ⟨⟨1⟩, ⟨2⟩, willingAgent, .ofSecs 0, .ok (), .ok ()⟩

/-- The turn that follows; the client is alive when the slot is read again. -/
def firstTurn : TurnSession Unit :=
  ⟨⟨1⟩, ⟨2⟩, willingAgent, some ⟨"agent@1", true⟩, none, .ofSecs 1, .ofSecs 2, .ok (),
    fun _ => .ok (), fun _ => .ok ()⟩

/-- Nothing is stored, and no client runs. -/
def emptyWorld : SessionWorld := ⟨Table.empty, fun _ => ⟨"/work", [], none⟩⟩

theorem willingAgent_accepts : willingAgent.Accepts where
  spawned := ⟨_, rfl⟩
  created := ⟨_, rfl, by decide, by decide⟩
  resumed _ := Or.inl rfl

/-- A delivery to the conversation, and a restart. -/
def earlierEvents : List (SessionEvent Unit) :=
  [.deliver firstDelivery, .restart (fun _ => "/work") (fun _ => [])]

/-- A delivery for which the agent cannot be started. -/
def failingDelivery : DeliverySession :=
  { firstDelivery with agent := { willingAgent with spawned := .error .exited } }

/-- The client dies, a delivery fails, and a client is there again under the same identity. -/
def laterEvents : List (SessionEvent Unit) :=
  [.clientChanges ⟨1⟩ (some ⟨"agent@1", false⟩), .deliver failingDelivery,
    .clientChanges ⟨1⟩ (some ⟨"agent@1", true⟩)]

/-- A delivery with a history before it and after it, and its turn. -/
theorem sessions_continue_history :
    (((emptyWorld.afterAll earlierEvents).deliverInner firstDelivery).2.afterAll
      laterEvents).TurnContinues firstTurn "s-1" := by
  have hinv : SessionInv emptyWorld.sessions :=
    ⟨rfl, fun s hs => absurd hs List.not_mem_nil⟩
  let delivered := (emptyWorld.afterAll earlierEvents).deliverInner firstDelivery
  have hdelivered : delivered.1 = .ok "s-1" := by decide +kernel
  have hfails : ((delivered.2.connect ⟨1⟩ (some ⟨"agent@1", false⟩)).recordSession
      failingDelivery).1 = .error .exited := by decide +kernel
  have hquiet : ¬ delivered.2.RecordsIn ⟨1⟩ ⟨2⟩ laterEvents := by
    intro hin
    obtain h | ⟨-, -, -, session_id, h⟩ | h | h := hin
    · exact h
    · have hok := hfails.symm.trans h
      cases hok
    · exact h
    · exact h
  obtain ⟨-, hturn⟩ := (sessions_continue emptyWorld hinv earlierEvents).2.2 firstDelivery "s-1"
    hdelivered laterEvents (by decide +kernel)
  obtain ⟨hfound, hturns⟩ := hturn hquiet
  exact (hturns firstTurn rfl rfl willingAgent_accepts).1 (hfound.mpr (by decide +kernel))

/-- **Sessions do not go on**: after a restart with one more directory the conversation cannot be
delivered to, and after the death of the client a turn reports that there is no session. -/
theorem session_lost :
    (emptyWorld.deliverInner firstDelivery).1 = .ok "s-1" ∧
    let w := (emptyWorld.deliverInner firstDelivery).2
    let reconfigured := w.after (.restart (fun _ => "/work") (fun _ => ["/data"]) : SessionEvent Unit)
    let dead := w.after (.clientChanges ⟨1⟩ (some ⟨"agent@1", false⟩) : SessionEvent Unit)
    (reconfigured.deliverInner firstDelivery).1 = .error (.storage (.integrityViolation
      "sessions.session_id is bound to another conversation or cwd")) ∧
    (dead.startTurn firstTurn).1 = .error (.sessionId "no live session for this delivery") ∧
    (dead.promptInner firstTurn).1 = .error (.sessionId "no live session for this delivery") := by
  decide +kernel

end GuiguBridge
