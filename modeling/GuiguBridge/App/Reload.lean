import GuiguBridge.A2a.Ingress
import GuiguBridge.Config
import GuiguBridge.Lib.Interleave
import GuiguBridge.Matrix.Router
import GuiguBridge.Reference
import Mathlib.Logic.Function.Basic

/-!
# Reloading the configuration

A running bridge takes over a new configuration as far as it can without a restart
(`ReloadController`, `src/src/app/reload.rs`).  Which fields need a restart is listed by hand in
`RestartProjection`; the rest of the candidate becomes the active configuration.

* `HotConfig.build`, `restartProjection`, `ReloadController.new`, `ReloadController.reload` — as
  the source has them, a reload in one piece;
* `ReloadCall`, `callStep` — the calls of `reload` and `stop` access by access, behind the serial
  mutex;
* `ReloadInv`, `reloadAt_inv` — **every interleaving of the accesses is a sequence of whole
  calls**;
* `Config.SameButHot`, `ReloadSound` — what a reload should do: only the Matrix routes, users,
  admin rooms and the monitor room may change without a restart;
* `reload_sound_iff` — which reloads do.
-/

namespace GuiguBridge

open Interleave

/-! ### The policies -/

namespace RoutePolicy

/-- `RoutePolicy::new`. -/
def new : RoutePolicy := ⟨fun _ => none, fun _ => none, fun _ => none⟩

/-- `RoutePolicy::alias`. -/
def «alias» (policy : RoutePolicy) (name agent_id : String) : RoutePolicy :=
  { policy with aliases := Function.update policy.aliases name (some agent_id) }

/-- `RoutePolicy::bind_room`. -/
def bindRoom (policy : RoutePolicy) (room_id agent_id : String) : RoutePolicy :=
  { policy with room_targets := Function.update policy.room_targets room_id (some agent_id) }

/-- `RoutePolicy::direct_room`. -/
def directRoom (policy : RoutePolicy) (room_id : String) (candidates : List String) :
    RoutePolicy :=
  { policy with direct_targets := Function.update policy.direct_targets room_id (some candidates) }

end RoutePolicy

/-- `PermissionPolicy`: the users, each with the one target it may reach or with all. -/
structure PermissionPolicy where
  users : String → Option (Option EndpointId)

/-- `PermissionPolicy::allow_user`. -/
def PermissionPolicy.allowUser (policy : PermissionPolicy) (user_id : String) :
    PermissionPolicy :=
  { users := Function.update policy.users user_id (some none) }

/-- `AdminPermissionPolicy`. -/
structure AdminPermissionPolicy where
  users : String → Bool
  rooms : Option (String → Bool)

namespace AdminPermissionPolicy

/-- `AdminPermissionPolicy::allow_user`. -/
def allowUser (policy : AdminPermissionPolicy) (user : String) : AdminPermissionPolicy :=
  { policy with users := Function.update policy.users user true }

/-- `AdminPermissionPolicy::restrict_rooms`. -/
def restrictRooms (policy : AdminPermissionPolicy) (rooms : List String) :
    AdminPermissionPolicy :=
  { policy with rooms := some fun room => rooms.contains room }

end AdminPermissionPolicy

/-! ### The registry -/

/-- `derive_address`, as far as there is one. -/
def AgentEndpointConfig.addressable (declared : AgentEndpointConfig) : Bool :=
  match declared.transport with
  | .acp => declared.command.isSome
  | .a2a => declared.peer.isSome
  | .matrix | .http => false

section

variable [Externals]

/-- `derive_endpoint_id`. -/
def deriveEndpointId (agent_id : String) : EndpointId :=
  ⟨Externals.newV5 (Externals.newV5 A2a.namespaceUrl "guigu-agent-bridge/agent/v1") agent_id⟩

/-- `EndpointRegistry`, by the ids of the agents. -/
structure EndpointRegistry where
  by_agent_id : String → Option RegisteredEndpoint

/-- `EndpointRegistry::from_config`. -/
def EndpointRegistry.fromConfig (config : Config) : EndpointRegistry where
  by_agent_id agent_id := (config.agents.get agent_id).map fun declared =>
    { id := deriveEndpointId agent_id, transport := declared.transport,
      enabled := declared.enabled, addressable := declared.addressable }

end

/-! ### Hot configuration -/

structure HotConfig where
  route : RoutePolicy
  permissions : PermissionPolicy
  admin : AdminPermissionPolicy
  monitor_room : Option String

/-- `ReloadError`; `ε` stands for the errors of loading. -/
inductive ReloadError (ε : Type) where
  | config (source : ε)
  | policy
  | stopping
  deriving DecidableEq

section

variable {ε : Type}

/-- `validate_target` of the reload: declared, enabled and addressable. -/
def validateAgent (registry : EndpointRegistry) (agent : String) : Except (ReloadError ε) Unit :=
  match registry.by_agent_id agent with
  | none => .error .policy
  | some endpoint =>
    if endpoint.enabled = false ∨ endpoint.addressable = false then .error .policy else .ok ()

/-- `HotConfig::build`. -/
def HotConfig.build (config : Config) (registry : EndpointRegistry) :
    Except (ReloadError ε) HotConfig := do
  let matrix := config.transports.matrix
  let route ← matrix.routes.aliases.entries.foldlM (fun route e => do
    validateAgent registry e.2
    pure (route.«alias» e.1 e.2)) RoutePolicy.new
  let route ← matrix.routes.rooms.entries.foldlM (fun route e => do
    validateAgent registry e.2
    pure (route.bindRoom e.1 e.2)) route
  let route ← matrix.routes.direct.entries.foldlM (fun route e => do
    e.2.forM (validateAgent registry)
    pure (route.directRoom e.1 e.2)) route
  let permissions := matrix.allowed_users.foldl PermissionPolicy.allowUser ⟨fun _ => none⟩
  let admin := matrix.admin_users.foldl AdminPermissionPolicy.allowUser ⟨fun _ => false, none⟩
  pure
    { route := route, permissions := permissions,
      admin := admin.restrictRooms matrix.admin_rooms,
      monitor_room := if matrix.monitor_room = "" then none else some matrix.monitor_room }

structure ActiveSnapshot where
  generation : Nat
  hot : HotConfig

inductive ReloadOutcome where
  | applied (generation : Nat)
  | restartRequired
  deriving DecidableEq

/-- The cells of a `ReloadController`. -/
structure ReloadController where
  active_config : Config
  active : ActiveSnapshot
  stopping : Bool

structure RestartProjection where
  bridge : BridgeConfig
  enabled : Bool
  homeserver : String
  user_id : String
  device_id : String
  access_token : SecretString
  crypto_store_path : Option String
  device_trusted : Bool
  sync_capacity : Nat
  runtime : RuntimeConfig
  agents : OrderedMap AgentEndpointConfig
  deriving DecidableEq

/-- `restart_projection`. -/
def restartProjection (config : Config) : RestartProjection :=
  let matrix := config.transports.matrix
  { bridge := config.bridge, enabled := matrix.enabled, homeserver := matrix.homeserver,
    user_id := matrix.user_id, device_id := matrix.device_id,
    access_token := matrix.access_token, crypto_store_path := matrix.crypto_store_path,
    device_trusted := matrix.device_trusted, sync_capacity := matrix.sync_capacity,
    runtime := config.runtime, agents := config.agents }

/-- `u64::saturating_add` of one. -/
def nextGeneration (generation : Nat) : Nat := min (generation + 1) (2 ^ 64 - 1)

theorem nextGeneration_iff (generation : Nat) :
    nextGeneration generation = generation + 1 ↔ generation + 1 < 2 ^ 64 := by
  unfold nextGeneration
  omega

/-- The candidate is what runs, but for the Matrix routes, users, admins and the monitor room. -/
def Config.SameButHot (current candidate : Config) : Prop :=
  let matrix := candidate.transports.matrix
  candidate = { current with
    transports := { current.transports with
      matrix := { current.transports.matrix with
        routes := matrix.routes, allowed_users := matrix.allowed_users,
        admin_users := matrix.admin_users, admin_rooms := matrix.admin_rooms,
        monitor_room := matrix.monitor_room } } }

/-- What the hand-written projection leaves out. -/
def SameTransports (current candidate : Config) : Prop :=
  candidate.transports.a2a = current.transports.a2a ∧
    candidate.transports.gateway = current.transports.gateway

theorem sameButHot_iff (current candidate : Config) : current.SameButHot candidate ↔
    restartProjection candidate = restartProjection current ∧
      SameTransports current candidate := by
  obtain ⟨bridge, ⟨matrix, a2a, gateway⟩, runtime, agents⟩ := current
  obtain ⟨bridge', ⟨matrix', a2a', gateway'⟩, runtime', agents'⟩ := candidate
  obtain ⟨_, _, _, _, _, _, _, _, _, _, _, _, _⟩ := matrix
  obtain ⟨_, _, _, _, _, _, _, _, _, _, _, _, _⟩ := matrix'
  simp only [Config.SameButHot, restartProjection, SameTransports, Config.mk.injEq,
    TransportsConfig.mk.injEq, MatrixTransportConfig.mk.injEq, RestartProjection.mk.injEq]
  tauto

variable [Externals]

namespace ReloadController

/-- `ReloadController::new`. -/
def new (config : Config) : Except (ReloadError ε) ReloadController := do
  let hot ← HotConfig.build config (EndpointRegistry.fromConfig config)
  pure { active_config := config, active := ⟨1, hot⟩, stopping := false }

/-- The candidate compared with what runs: the hot configuration to apply, or none. -/
def candidateHot (c : ReloadController) (candidate : Config) :
    Except (ReloadError ε) (Option HotConfig) :=
  if restartProjection candidate ≠ restartProjection c.active_config then .ok none
  else do
    let hot ← HotConfig.build candidate (EndpointRegistry.fromConfig c.active_config)
    pure (some hot)

/-- `ReloadController::reload`, in one piece. -/
def reload (c : ReloadController) (answer : Except ε Config) :
    Except (ReloadError ε) ReloadOutcome × ReloadController :=
  if c.stopping then (.error .stopping, c)
  else
    match answer with
    | .error source => (.error (.config source), c)
    | .ok candidate =>
      match c.candidateHot candidate with
      | .error error => (.error error, c)
      | .ok none => (.ok .restartRequired, c)
      | .ok (some hot) =>
        let generation := nextGeneration c.active.generation
        (.ok (.applied generation),
          { c with active_config := candidate, active := ⟨generation, hot⟩ })

/-- `ReloadController::stop`, in one piece. -/
def stop (c : ReloadController) : ReloadController := { c with stopping := true }

end ReloadController

/-! ### The calls, access by access -/

/-- The cells and the serial mutex. -/
structure ReloadStore where
  cells : ReloadController
  held : Bool

/-- Where a `reload` stands. -/
inductive ReloadPhase (ε : Type) where
  /-- At its only await point. -/
  | waiting
  | entered
  | loading
  | loaded (candidate : Config)
  | built (candidate : Config) (hot : HotConfig)
  | numbered (candidate : Config) (hot : HotConfig) (generation : Nat)
  | writing (candidate : Config) (hot : HotConfig) (generation : Nat)
  | written (candidate : Config) (generation : Nat)
  /-- It has its result, and the mutex still. -/
  | leaving (answer : Except ε Config) (result : Except (ReloadError ε) ReloadOutcome)
  | done
  | cancelled

/-- Where a `stop` stands. -/
inductive StopPhase where
  | waiting | entered | leaving | done | cancelled
  deriving DecidableEq

inductive ReloadCall (ε : Type) where
  | reload (phase : ReloadPhase ε)
  | stop (phase : StopPhase)

/-- A call goes on, and is answered should it ask the source; or its future is dropped. -/
inductive ReloadInput (ε : Type) where
  | poll (answer : Except ε Config)
  | drop

inductive ReloadEvent (ε : Type) where
  | reloaded (answer : Except ε Config) (result : Except (ReloadError ε) ReloadOutcome)
  | stopped

/-- One access of a `reload`. -/
def reloadStep (input : ReloadInput ε) (phase : ReloadPhase ε) (s : ReloadStore) :
    ReloadPhase ε × ReloadStore × List (ReloadEvent ε) :=
  match phase, input with
  | .waiting, .poll _ => if s.held then (.waiting, s, []) else (.entered, { s with held := true }, [])
  | .waiting, .drop => (.cancelled, s, [])
  | .entered, .poll answer =>
    if s.cells.stopping then (.leaving answer (.error .stopping), s, []) else (.loading, s, [])
  | .loading, .poll answer =>
    match answer with
    | .error source => (.leaving answer (.error (.config source)), s, [])
    | .ok candidate => (.loaded candidate, s, [])
  | .loaded candidate, .poll _ =>
    match s.cells.candidateHot candidate with
    | .error error => (.leaving (.ok candidate) (.error error), s, [])
    | .ok none => (.leaving (.ok candidate) (.ok .restartRequired), s, [])
    | .ok (some hot) => (.built candidate hot, s, [])
  | .built candidate hot, .poll _ =>
    (.numbered candidate hot (nextGeneration s.cells.active.generation), s, [])
  | .numbered candidate hot generation, .poll _ =>
    if s.cells.stopping then (.leaving (.ok candidate) (.error .stopping), s, [])
    else (.writing candidate hot generation, s, [])
  | .writing candidate hot generation, .poll _ =>
    (.written candidate generation,
      { s with cells := { s.cells with active := ⟨generation, hot⟩ } }, [])
  | .written candidate generation, .poll _ =>
    (.leaving (.ok candidate) (.ok (.applied generation)),
      { s with cells := { s.cells with active_config := candidate } }, [])
  | .leaving answer result, .poll _ =>
    (.done, { s with held := false }, [.reloaded answer result])
  -- a future that holds the mutex is not at an await point, so nobody can drop it
  | phase, _ => (phase, s, [])

/-- One access of a `stop`. -/
def stopStep (input : ReloadInput ε) (phase : StopPhase) (s : ReloadStore) :
    StopPhase × ReloadStore × List (ReloadEvent ε) :=
  match phase, input with
  | .waiting, .poll _ => if s.held then (.waiting, s, []) else (.entered, { s with held := true }, [])
  | .waiting, .drop => (.cancelled, s, [])
  | .entered, .poll _ => (.leaving, { s with cells := s.cells.stop }, [])
  | .leaving, .poll _ => (.done, { s with held := false }, [.stopped])
  | phase, _ => (phase, s, [])

def callStep (input : ReloadInput ε) (call : ReloadCall ε) (s : ReloadStore) :
    ReloadCall ε × ReloadStore × List (ReloadEvent ε) :=
  match call with
  | .reload phase =>
    let r := reloadStep input phase s
    (.reload r.1, r.2)
  | .stop phase =>
    let r := stopStep input phase s
    (.stop r.1, r.2)

variable (ε) in
/-- The controller and its callers; nobody else writes the cells. -/
def reloadSystem : System ReloadStore (ReloadCall ε) (ReloadInput ε) Empty (ReloadEvent ε) where
  advance _ input call s := callStep input call s
  outside e _ := nomatch e

abbrev ReloadMove (ε : Type) := Move (ReloadCall ε) (ReloadInput ε) Empty

/-- The controller, its callers and what has returned, after the first `n` moves. -/
def reloadAt (c₀ : ReloadController) (moves : List (ReloadMove ε)) (n : Nat) :
    World ReloadStore (ReloadCall ε) (ReloadEvent ε) :=
  (reloadSystem ε).worldAt ⟨c₀, false⟩ moves n

/-- Calls begin at the mutex. -/
def ReloadCall.Fresh (call : ReloadCall ε) : Prop :=
  call = .reload .waiting ∨ call = .stop .waiting

/-! ### Interleavings are sequences of whole calls -/

/-- A whole call, in one piece. -/
def ReloadEvent.apply (c : ReloadController) : ReloadEvent ε → ReloadController
  | .reloaded answer _ => (c.reload answer).2
  | .stopped => c.stop

/-- The cells after the calls that returned, one after the other. -/
def replay (c₀ : ReloadController) (log : List (ReloadEvent ε)) : ReloadController :=
  log.foldl ReloadEvent.apply c₀

/-- The result is what the whole call gives. -/
def ReloadEvent.Genuine (c : ReloadController) : ReloadEvent ε → Prop
  | .reloaded answer result => (c.reload answer).1 = result
  | .stopped => True

/-- The call holds the mutex. -/
def ReloadCall.inside : ReloadCall ε → Bool
  | .reload .waiting | .reload .done | .reload .cancelled => false
  | .stop .waiting | .stop .done | .stop .cancelled => false
  | _ => true

/-- What a call that holds the mutex knows of the cells `c` it found, and what it has made of
them. -/
def ReloadPhase.Knows (c : ReloadController) (cells : ReloadController) : ReloadPhase ε → Prop
  | .entered => cells = c
  | .loading | .loaded _ => cells = c ∧ c.stopping = false
  | .built candidate hot => cells = c ∧ c.stopping = false ∧
      c.candidateHot (ε := ε) candidate = .ok (some hot)
  | .numbered candidate hot generation | .writing candidate hot generation =>
    cells = c ∧ c.stopping = false ∧ c.candidateHot (ε := ε) candidate = .ok (some hot) ∧
      generation = nextGeneration c.active.generation
  | .written candidate generation => ∃ hot, cells = { c with active := ⟨generation, hot⟩ } ∧
      c.stopping = false ∧ c.candidateHot (ε := ε) candidate = .ok (some hot) ∧
      generation = nextGeneration c.active.generation
  | .leaving answer result => c.reload answer = (result, cells)
  | .waiting | .done | .cancelled => True

/-- The same of any call. -/
def ReloadCall.Knows (c : ReloadController) (cells : ReloadController) : ReloadCall ε → Prop
  | .reload phase => phase.Knows c cells
  | .stop .entered => cells = c
  | .stop .leaving => cells = c.stop
  | .stop _ => True

/-- One access, **in four cases**. -/
inductive CallStep (call : ReloadCall ε) (s : ReloadStore) :
    ReloadCall ε → ReloadStore → List (ReloadEvent ε) → Prop where
  | outside (call' : ReloadCall ε) (hin : call.inside = false) (hin' : call'.inside = false) :
      CallStep call s call' s []
  | enter (call' : ReloadCall ε) (hfree : s.held = false) (hin : call.inside = false)
      (hin' : call'.inside = true) (hknows : call'.Knows s.cells s.cells) :
      CallStep call s call' ⟨s.cells, true⟩ []
  | work (call' : ReloadCall ε) (cells' : ReloadController) (hin : call.inside = true)
      (hin' : call'.inside = true) (hknows : ∀ c, call.Knows c s.cells → call'.Knows c cells') :
      CallStep call s call' ⟨cells', s.held⟩ []
  | leave (call' : ReloadCall ε) (event : ReloadEvent ε) (hin : call.inside = true)
      (hin' : call'.inside = false)
      (hknows : ∀ c, call.Knows c s.cells → event.apply c = s.cells ∧ event.Genuine c) :
      CallStep call s call' ⟨s.cells, false⟩ [event]

/-- A call that has nothing to do. -/
theorem CallStep.idle (call : ReloadCall ε) (s : ReloadStore) : CallStep call s call s [] := by
  cases hin : call.inside with
  | false => exact .outside call hin hin
  | true => exact .work call s.cells hin hin fun c hknows => hknows

/-- The whole call, once the comparison succeeded. -/
theorem ReloadController.reload_applied {c : ReloadController} {candidate : Config}
    {hot : HotConfig} (hstopping : c.stopping = false)
    (hhot : c.candidateHot (ε := ε) candidate = .ok (some hot)) :
    c.reload (.ok candidate : Except ε Config) =
      (.ok (.applied (nextGeneration c.active.generation)),
        { c with active_config := candidate,
                 active := ⟨nextGeneration c.active.generation, hot⟩ }) := by
  unfold ReloadController.reload
  rw [if_neg (by rw [hstopping]; nofun)]
  dsimp only
  rw [hhot]

theorem reloadStep_step (answer : Except ε Config) (phase : ReloadPhase ε) (s : ReloadStore) :
    CallStep (.reload phase) s (.reload (reloadStep (.poll answer) phase s).1)
      (reloadStep (.poll answer) phase s).2.1 (reloadStep (.poll answer) phase s).2.2 := by
  cases phase with
  | waiting =>
    cases hheld : s.held with
    | true =>
      simp only [reloadStep, hheld, if_true]
      exact .outside _ rfl rfl
    | false =>
      simp only [reloadStep, hheld, Bool.false_eq_true, if_false]
      exact .enter _ hheld rfl rfl rfl
  | entered =>
    cases hstopping : s.cells.stopping with
    | true =>
      simp only [reloadStep, hstopping, if_true]
      refine .work _ s.cells rfl rfl ?_
      intro c hknows
      have hc : s.cells = c := hknows
      show c.reload answer = (.error .stopping, s.cells)
      rw [← hc]
      simp [ReloadController.reload, hstopping]
    | false =>
      simp only [reloadStep, hstopping, Bool.false_eq_true, if_false]
      refine .work _ s.cells rfl rfl ?_
      intro c hknows
      have hc : s.cells = c := hknows
      exact ⟨hc, hc ▸ hstopping⟩
  | loading =>
    cases answer with
    | error source =>
      refine .work _ s.cells rfl rfl ?_
      intro c hknows
      obtain ⟨hc, hstopping⟩ : s.cells = c ∧ c.stopping = false := hknows
      show c.reload (.error source) = (.error (.config source), s.cells)
      simp [ReloadController.reload, hstopping, hc]
    | ok candidate => exact .work _ s.cells rfl rfl fun c hknows => hknows
  | loaded candidate =>
    cases hhot : s.cells.candidateHot (ε := ε) candidate with
    | error error =>
      simp only [reloadStep, hhot]
      refine .work _ s.cells rfl rfl ?_
      intro c hknows
      obtain ⟨hc, hstopping⟩ : s.cells = c ∧ c.stopping = false := hknows
      show c.reload (.ok candidate) = (.error error, s.cells)
      rw [hc] at hhot
      simp [ReloadController.reload, hstopping, hc, hhot]
    | ok found =>
      cases found with
      | none =>
        simp only [reloadStep, hhot]
        refine .work _ s.cells rfl rfl ?_
        intro c hknows
        obtain ⟨hc, hstopping⟩ : s.cells = c ∧ c.stopping = false := hknows
        show c.reload (.ok candidate) = (.ok .restartRequired, s.cells)
        rw [hc] at hhot
        simp [ReloadController.reload, hstopping, hc, hhot]
      | some hot =>
        simp only [reloadStep, hhot]
        refine .work _ s.cells rfl rfl ?_
        intro c hknows
        obtain ⟨hc, hstopping⟩ : s.cells = c ∧ c.stopping = false := hknows
        exact ⟨hc, hstopping, hc ▸ hhot⟩
  | built candidate hot =>
    refine .work _ s.cells rfl rfl ?_
    intro c hknows
    obtain ⟨hc, hstopping, hhot⟩ : s.cells = c ∧ c.stopping = false ∧
      c.candidateHot (ε := ε) candidate = .ok (some hot) := hknows
    exact ⟨hc, hstopping, hhot, by rw [hc]⟩
  | numbered candidate hot generation =>
    cases hstopped : s.cells.stopping with
    | true =>
      simp only [reloadStep, hstopped, if_true]
      refine .work _ s.cells rfl rfl ?_
      intro c hknows
      -- nobody else has stored the flag since the first look
      obtain ⟨hc, hstopping, -⟩ : s.cells = c ∧ c.stopping = false ∧ _ := hknows
      rw [hc, hstopping] at hstopped
      cases hstopped
    | false =>
      simp only [reloadStep, hstopped, Bool.false_eq_true, if_false]
      exact .work _ s.cells rfl rfl fun c hknows => hknows
  | writing candidate hot generation =>
    refine .work _ { s.cells with active := ⟨generation, hot⟩ } rfl rfl ?_
    intro c hknows
    obtain ⟨hc, hstopping, hhot, hgeneration⟩ : s.cells = c ∧ c.stopping = false ∧
      c.candidateHot (ε := ε) candidate = .ok (some hot) ∧
      generation = nextGeneration c.active.generation := hknows
    exact ⟨hot, by rw [hc], hstopping, hhot, hgeneration⟩
  | written candidate generation =>
    refine .work _ { s.cells with active_config := candidate } rfl rfl ?_
    intro c hknows
    obtain ⟨hot, hcells, hstopping, hhot, hgeneration⟩ : ∃ hot,
      s.cells = { c with active := ⟨generation, hot⟩ } ∧ c.stopping = false ∧
        c.candidateHot (ε := ε) candidate = .ok (some hot) ∧
        generation = nextGeneration c.active.generation := hknows
    show c.reload (.ok candidate) = _
    rw [ReloadController.reload_applied hstopping hhot, hcells, hgeneration]
  | leaving answer' result =>
    refine .leave _ _ rfl rfl ?_
    intro c hknows
    have hreload : c.reload answer' = (result, s.cells) := hknows
    refine ⟨?_, ?_⟩
    · show (c.reload answer').2 = s.cells
      rw [hreload]
    · show (c.reload answer').1 = result
      rw [hreload]
  | done => exact .outside _ rfl rfl
  | cancelled => exact .outside _ rfl rfl

theorem stopStep_step (answer : Except ε Config) (phase : StopPhase) (s : ReloadStore) :
    CallStep (.stop phase) s (.stop (stopStep (.poll answer) phase s).1)
      (stopStep (.poll answer) phase s).2.1 (stopStep (.poll answer) phase s).2.2 := by
  cases phase with
  | waiting =>
    cases hheld : s.held with
    | true =>
      simp only [stopStep, hheld, if_true]
      exact .outside _ rfl rfl
    | false =>
      simp only [stopStep, hheld, Bool.false_eq_true, if_false]
      exact .enter _ hheld rfl rfl rfl
  | entered =>
    refine .work _ s.cells.stop rfl rfl ?_
    intro c hknows
    have hc : s.cells = c := hknows
    show s.cells.stop = c.stop
    rw [hc]
  | leaving =>
    refine .leave _ _ rfl rfl ?_
    intro c hknows
    have hc : s.cells = c.stop := hknows
    exact ⟨hc.symm, trivial⟩
  | done => exact .outside _ rfl rfl
  | cancelled => exact .outside _ rfl rfl

theorem callStep_step (input : ReloadInput ε) (call : ReloadCall ε) (s : ReloadStore) :
    CallStep call s (callStep input call s).1 (callStep input call s).2.1
      (callStep input call s).2.2 := by
  cases input with
  | poll answer =>
    cases call with
    | reload phase => exact reloadStep_step answer phase s
    | stop phase => exact stopStep_step answer phase s
  | drop =>
    -- only at the mutex does a drop do anything
    cases call with
    | reload phase =>
      cases phase with
      | waiting => exact .outside _ rfl rfl
      | _ => exact .idle _ s
    | stop phase =>
      cases phase with
      | waiting => exact .outside _ rfl rfl
      | _ => exact .idle _ s

/-- The mutex is held by one call or by none, the call that holds it knows what it has made of
the cells, and what has returned is a sequence of whole calls. -/
structure ReloadInv (c₀ : ReloadController)
    (w : World ReloadStore (ReloadCall ε) (ReloadEvent ε)) : Prop where
  counted : w.procs.countP ReloadCall.inside = if w.store.held then 1 else 0
  knows : ∀ call ∈ w.procs, call.inside = true → call.Knows (replay c₀ w.log) w.store.cells
  free : w.store.held = false → w.store.cells = replay c₀ w.log
  genuine : ∀ i (event : ReloadEvent ε), w.log[i]? = some event → event.Genuine (replay c₀ (w.log.take i))

theorem replay_append (c₀ : ReloadController) (log : List (ReloadEvent ε))
    (event : ReloadEvent ε) : replay c₀ (log ++ [event]) = event.apply (replay c₀ log) := by
  simp [replay]

theorem genuine_append {c₀ : ReloadController} {log : List (ReloadEvent ε)}
    {event : ReloadEvent ε}
    (hlog : ∀ i (e : ReloadEvent ε), log[i]? = some e → e.Genuine (replay c₀ (log.take i)))
    (hevent : event.Genuine (replay c₀ log)) (i : Nat) (e : ReloadEvent ε)
    (h : (log ++ [event])[i]? = some e) : e.Genuine (replay c₀ ((log ++ [event]).take i)) := by
  rw [List.getElem?_append] at h
  split at h
  · rename_i hlt
    rw [List.take_append_of_le_length hlt.le]
    exact hlog i e h
  · rename_i hge
    have hlen : i = log.length := by
      have hbound := (List.getElem?_eq_some_iff.mp h).1
      simp at hbound
      omega
    rw [hlen, List.take_left]
    rw [hlen, Nat.sub_self] at h
    have heq : event = e := by simpa using h
    exact heq ▸ hevent

theorem callStep_inv {c₀ : ReloadController}
    {w : World ReloadStore (ReloadCall ε) (ReloadEvent ε)} {index : Nat} {call call' : ReloadCall ε}
    {s' : ReloadStore} {events : List (ReloadEvent ε)} (hinv : ReloadInv c₀ w)
    (hp : w.procs[index]? = some call) (hstep : CallStep call w.store call' s' events) :
    ReloadInv c₀ ⟨s', w.procs.set index call', w.log ++ events⟩ := by
  have hcount := countP_set_add ReloadCall.inside call' hp
  rw [hinv.counted] at hcount
  have hmem := List.mem_of_getElem? hp
  cases hstep with
  | outside hin hin' =>
    rw [hin, hin'] at hcount
    rw [List.append_nil]
    refine ⟨hcount, ?_, hinv.free, hinv.genuine⟩
    intro q hq hqin
    rcases List.mem_or_eq_of_mem_set hq with hold | rfl
    · exact hinv.knows q hold hqin
    · rw [hin'] at hqin
      cases hqin
  | enter hfree hin hin' hknows =>
    rw [hin, hin', hfree] at hcount
    rw [List.append_nil]
    have hnone : w.procs.countP ReloadCall.inside = 0 := by
      rw [hinv.counted, hfree]
      rfl
    refine ⟨hcount, ?_, nofun, hinv.genuine⟩
    intro q hq hqin
    rcases List.mem_or_eq_of_mem_set hq with hold | rfl
    · exact absurd hqin (List.countP_eq_zero.mp hnone q hold)
    · rw [← hinv.free hfree]
      exact hknows
  | work cells' hin hin' hknows =>
    rw [hin, hin'] at hcount
    rw [List.append_nil]
    have hheld : w.store.held = true := by
      cases hheld : w.store.held with
      | true => rfl
      | false =>
        have hnone := hinv.counted
        rw [hheld] at hnone
        exact absurd hin (List.countP_eq_zero.mp hnone call hmem)
    have hone : (w.procs.set index call').countP ReloadCall.inside = 1 := by
      rw [hheld] at hcount
      simpa using hcount
    refine ⟨by rw [hone, hheld]; rfl, ?_, ?_, hinv.genuine⟩
    · intro q hq hqin
      obtain ⟨j, hj⟩ := List.mem_iff_getElem?.mp hq
      have hi : (w.procs.set index call')[index]? = some call' :=
        List.getElem?_set_self (List.getElem?_eq_some_iff.mp hp).1
      -- there is one call inside, and that is the one that worked
      have hsame : j = index := eq_of_countP_le_one hone.le hj hi hqin hin'
      rw [hsame, hi] at hj
      rw [← Option.some.inj hj]
      exact hknows _ (hinv.knows call hmem hin)
    · rw [hheld]
      nofun
  | leave event hin hin' hknows =>
    obtain ⟨happly, hgenuine⟩ := hknows _ (hinv.knows call hmem hin)
    have hheld : w.store.held = true := by
      cases hheld : w.store.held with
      | true => rfl
      | false =>
        have hnone := hinv.counted
        rw [hheld] at hnone
        exact absurd hin (List.countP_eq_zero.mp hnone call hmem)
    rw [hin, hin', hheld] at hcount
    have hnone : (w.procs.set index call').countP ReloadCall.inside = 0 := by
      simpa using hcount
    refine ⟨hnone, ?_, ?_, genuine_append hinv.genuine hgenuine⟩
    · intro q hq hqin
      exact absurd hqin (List.countP_eq_zero.mp hnone q hq)
    · intro _
      rw [replay_append]
      exact happly.symm

theorem reloadMove_inv {c₀ : ReloadController}
    {w : World ReloadStore (ReloadCall ε) (ReloadEvent ε)} {m : ReloadMove ε}
    (hinv : ReloadInv c₀ w) (hfresh : ∀ call, m = .start call → call.Fresh) :
    ReloadInv c₀ ((reloadSystem ε).move w m) := by
  cases m with
  | start call =>
    have hin : call.inside = false := by
      rcases hfresh call rfl with rfl | rfl <;> rfl
    refine ⟨?_, ?_, hinv.free, hinv.genuine⟩
    · show (w.procs ++ [call]).countP ReloadCall.inside = _
      rw [List.countP_append, List.countP_singleton, hin]
      exact hinv.counted
    · intro q hq hqin
      rcases List.mem_append.mp hq with hold | hnew
      · exact hinv.knows q hold hqin
      · rw [List.mem_singleton.mp hnew, hin] at hqin
        cases hqin
  | advance index input =>
    cases hp : w.procs[index]? with
    | none =>
      rw [System.move_advance_none hp]
      exact hinv
    | some call =>
      rw [System.move_advance_some hp]
      exact callStep_inv hinv hp (callStep_step input call w.store)
  | outside e => exact nomatch e

theorem reloadAt_inv {c₀ : ReloadController} {moves : List (ReloadMove ε)}
    (hfresh : ∀ call, .start call ∈ moves → call.Fresh) (n : Nat) :
    ReloadInv c₀ (reloadAt c₀ moves n) := by
  refine System.invariant (fun w => ReloadInv c₀ w) ?_ ?_ n
  · refine ⟨rfl, ?_, fun _ => rfl, ?_⟩
    · intro call hcall
      cases hcall
    · intro i event hi
      simp at hi
  · intro n m hm hinv
    exact reloadMove_inv hinv fun call hcall => hfresh call (hcall ▸ List.mem_of_getElem? hm)

/-- The log of a run grows at its end. -/
theorem reloadAt_log {c₀ : ReloadController} {moves : List (ReloadMove ε)} {i n : Nat}
    (h : i ≤ n) : (reloadAt c₀ moves i).log <+: (reloadAt c₀ moves n).log := by
  refine @System.mono _ _ _ _ _ (reloadSystem ε) ⟨c₀, false⟩ moves
    (fun w w' : World ReloadStore (ReloadCall ε) (ReloadEvent ε) => w.log <+: w'.log) ?_ ?_ ?_ i n h
  · intro w
    exact List.prefix_rfl
  · intro u v w huv hvw
    exact huv.trans hvw
  · intro n m _
    cases m with
    | start call => exact List.prefix_rfl
    | advance index input =>
      cases hp : ((reloadSystem ε).worldAt ⟨c₀, false⟩ moves n).procs[index]? with
      | none =>
        rw [System.move_advance_none hp]
      | some call =>
        rw [System.move_advance_some hp]
        exact List.prefix_append _ _
    | outside e => exact nomatch e

/-- What runs is what ran. -/
def SameActive (c c' : ReloadController) : Prop :=
  c'.active = c.active ∧ c'.active_config = c.active_config

theorem reload_stopped {c : ReloadController} (answer : Except ε Config)
    (hstopping : c.stopping = true) : c.reload answer = (.error .stopping, c) := by
  simp [ReloadController.reload, hstopping]

/-- Whole calls after a stop apply nothing. -/
theorem replay_stopping {c : ReloadController} (log : List (ReloadEvent ε))
    (hstopping : c.stopping = true) :
    (replay c log).stopping = true ∧ SameActive c (replay c log) := by
  induction log generalizing c with
  | nil => exact ⟨hstopping, rfl, rfl⟩
  | cons event log ih =>
    have hevent : (event.apply c).stopping = true ∧ SameActive c (event.apply c) := by
      cases event with
      | reloaded answer result =>
        show (c.reload answer).2.stopping = true ∧ SameActive c (c.reload answer).2
        rw [reload_stopped answer hstopping]
        exact ⟨hstopping, rfl, rfl⟩
      | stopped => exact ⟨rfl, rfl, rfl⟩
    obtain ⟨hlater, hactive, hconfig⟩ := ih hevent.1
    exact ⟨hlater, hactive.trans hevent.2.1, hconfig.trans hevent.2.2⟩

theorem replay_stopped {c₀ : ReloadController} {log : List (ReloadEvent ε)}
    (hstopped : .stopped ∈ log) : (replay c₀ log).stopping = true := by
  obtain ⟨before, after, rfl⟩ := List.append_of_mem hstopped
  unfold replay
  rw [List.foldl_append, List.foldl_cons]
  exact (replay_stopping after rfl).1

/-- A call that found a stopped controller changes nothing that runs. -/
theorem ReloadCall.Knows.same {call : ReloadCall ε} {c cells : ReloadController}
    (hknows : call.Knows c cells) (hin : call.inside = true) (hstopping : c.stopping = true) :
    SameActive c cells := by
  cases call with
  | reload phase =>
    cases phase with
    | waiting | done | cancelled => cases hin
    | entered =>
      have hc : cells = c := hknows
      rw [hc]
      exact ⟨rfl, rfl⟩
    | loading | loaded _ | built _ _ | numbered _ _ _ | writing _ _ _ =>
      have hopen : c.stopping = false := by
        first
          | exact hknows.2
          | exact hknows.2.1
      rw [hstopping] at hopen
      cases hopen
    | written candidate generation =>
      obtain ⟨hot, -, hopen, -⟩ := hknows
      rw [hstopping] at hopen
      cases hopen
    | leaving answer result =>
      have hreload : c.reload answer = (result, cells) := hknows
      rw [reload_stopped answer hstopping] at hreload
      rw [← (Prod.mk.inj hreload).2]
      exact ⟨rfl, rfl⟩
  | stop phase =>
    cases phase with
    | waiting | done | cancelled => cases hin
    | entered =>
      have hc : cells = c := hknows
      rw [hc]
      exact ⟨rfl, rfl⟩
    | leaving =>
      have hc : cells = c.stop := hknows
      rw [hc]
      exact ⟨rfl, rfl⟩

/-- After a stop has returned, what runs is what the replay of the returned calls gives. -/
theorem ReloadInv.stopped {c₀ : ReloadController}
    {w : World ReloadStore (ReloadCall ε) (ReloadEvent ε)} (hinv : ReloadInv c₀ w)
    (hstopped : .stopped ∈ w.log) : SameActive (replay c₀ w.log) w.store.cells := by
  cases hheld : w.store.held with
  | false =>
    rw [hinv.free hheld]
    exact ⟨rfl, rfl⟩
  | true =>
    have hpos : 0 < w.procs.countP ReloadCall.inside := by
      rw [hinv.counted, hheld]
      decide
    obtain ⟨call, hcall, hin⟩ := List.countP_pos_iff.mp hpos
    exact (hinv.knows call hcall hin).same hin (replay_stopped hstopped)

/-! ### What a reload should do -/

/-- A reload that found the cells `c`, was answered and gave this result, did as it should. -/
structure ReloadSound (c : ReloadController) (answer : Except ε Config)
    (result : Except (ReloadError ε) ReloadOutcome) (c' : ReloadController) : Prop where
  applied : ∀ generation, result = .ok (.applied generation) →
    ∃ candidate, answer = .ok candidate ∧ c.active_config.SameButHot candidate ∧
      generation = c.active.generation + 1 ∧ c'.active_config = candidate ∧
      ∃ fresh, ReloadController.new (ε := ε) candidate = .ok fresh ∧
        c'.active = ⟨generation, fresh.active.hot⟩
  restart : ∀ candidate, answer = .ok candidate → c.stopping = false →
    ¬ c.active_config.SameButHot candidate → result = .ok .restartRequired
  restarted : result = .ok .restartRequired →
    ∃ candidate, answer = .ok candidate ∧ ¬ c.active_config.SameButHot candidate
  kept : (∀ generation, result ≠ .ok (.applied generation)) → SameActive c c'

/-- The candidate does not get past the comparison with another A2A or gateway transport, and
the generation is not the last one. -/
def ReloadMeets (c : ReloadController) (answer : Except ε Config) : Prop :=
  c.stopping = false → ∀ candidate, answer = .ok candidate →
    restartProjection candidate = restartProjection c.active_config →
    SameTransports c.active_config candidate ∧
      (c.active.generation + 1 < 2 ^ 64 ∨
        ∀ hot, HotConfig.build (ε := ε) candidate (EndpointRegistry.fromConfig c.active_config) ≠
          .ok hot)

/-- Equal agents have equal registries. -/
theorem fromConfig_eq {current candidate : Config}
    (h : restartProjection candidate = restartProjection current) :
    EndpointRegistry.fromConfig candidate = EndpointRegistry.fromConfig current := by
  have hagents : candidate.agents = current.agents := congrArg RestartProjection.agents h
  unfold EndpointRegistry.fromConfig
  rw [hagents]

theorem new_ok {candidate : Config} {hot : HotConfig}
    (h : HotConfig.build (ε := ε) candidate (EndpointRegistry.fromConfig candidate) = .ok hot) :
    ReloadController.new (ε := ε) candidate =
      .ok { active_config := candidate, active := ⟨1, hot⟩, stopping := false } := by
  unfold ReloadController.new
  rw [h]
  rfl

/-- A reload whose candidate needs a restart, by the comparison of the source. -/
theorem reload_restart {c : ReloadController} {candidate : Config} (hstopping : c.stopping = false)
    (h : restartProjection candidate ≠ restartProjection c.active_config) :
    c.reload (.ok candidate : Except ε Config) = (.ok .restartRequired, c) := by
  simp [ReloadController.reload, hstopping, ReloadController.candidateHot, h]

/-- A reload whose candidate passes the comparison, by what the build gives. -/
theorem reload_passed {c : ReloadController} {candidate : Config} (hstopping : c.stopping = false)
    (h : restartProjection candidate = restartProjection c.active_config) :
    c.reload (.ok candidate : Except ε Config) =
      match HotConfig.build (ε := ε) candidate (EndpointRegistry.fromConfig c.active_config) with
      | .error error => (.error error, c)
      | .ok hot => (.ok (.applied (nextGeneration c.active.generation)),
          { c with active_config := candidate,
                   active := ⟨nextGeneration c.active.generation, hot⟩ }) := by
  cases hbuild : HotConfig.build (ε := ε) candidate
      (EndpointRegistry.fromConfig c.active_config) with
  | error error =>
    simp [ReloadController.reload, hstopping, ReloadController.candidateHot, h, hbuild, bind,
      Except.bind]
  | ok hot =>
    have hhot : c.candidateHot (ε := ε) candidate = .ok (some hot) := by
      unfold ReloadController.candidateHot
      rw [if_neg (not_not.mpr h), hbuild]
      rfl
    exact ReloadController.reload_applied hstopping hhot

/-- **Which whole reloads do as they should.** -/
theorem reload_sound_iff (c : ReloadController) (answer : Except ε Config) :
    ReloadSound c answer (c.reload answer).1 (c.reload answer).2 ↔ ReloadMeets c answer := by
  cases hstopping : c.stopping with
  | true =>
    rw [reload_stopped answer hstopping]
    refine iff_of_true ⟨nofun, ?_, nofun, fun _ => ⟨rfl, rfl⟩⟩ ?_
    · intro _ _ hopen
      rw [hstopping] at hopen
      cases hopen
    · intro hopen
      rw [hstopping] at hopen
      cases hopen
  | false =>
    cases answer with
    | error source =>
      have hreload : c.reload (.error source) = (.error (.config source), c) := by
        simp [ReloadController.reload, hstopping]
      rw [hreload]
      refine iff_of_true ⟨nofun, ?_, nofun, fun _ => ⟨rfl, rfl⟩⟩ fun _ _ hanswer => nomatch hanswer
      exact fun _ hanswer => nomatch hanswer
    | ok candidate =>
      by_cases hprojection : restartProjection candidate = restartProjection c.active_config
      · have hmeets : ReloadMeets c (.ok candidate : Except ε Config) ↔
            SameTransports c.active_config candidate ∧ (c.active.generation + 1 < 2 ^ 64 ∨
              ∀ hot, HotConfig.build (ε := ε) candidate
                (EndpointRegistry.fromConfig c.active_config) ≠ .ok hot) := by
          refine ⟨fun h => h hstopping candidate rfl hprojection, ?_⟩
          intro h _ candidate' hanswer _
          cases hanswer
          exact h
        have hsame : c.active_config.SameButHot candidate ↔
            SameTransports c.active_config candidate := by
          rw [sameButHot_iff, and_iff_right hprojection]
        rw [hmeets, reload_passed hstopping hprojection]
        cases hbuild : HotConfig.build (ε := ε) candidate
            (EndpointRegistry.fromConfig c.active_config) with
        | error error =>
          constructor
          · intro hsound
            refine ⟨?_, .inr nofun⟩
            by_contra hother
            cases hsound.restart candidate rfl hstopping (mt hsame.mp hother)
          · rintro ⟨htransports, -⟩
            refine ⟨nofun, ?_, nofun, fun _ => ⟨rfl, rfl⟩⟩
            intro candidate' hanswer _ hother
            cases hanswer
            exact absurd (hsame.mpr htransports) hother
        | ok hot =>
          have hnew : ReloadController.new (ε := ε) candidate =
              .ok { active_config := candidate, active := ⟨1, hot⟩, stopping := false } :=
            new_ok (by rw [fromConfig_eq hprojection]; exact hbuild)
          constructor
          · intro hsound
            obtain ⟨candidate', hanswer, hhot, hgeneration, -⟩ := hsound.applied _ rfl
            cases hanswer
            exact ⟨hsame.mp hhot, .inl ((nextGeneration_iff _).mp hgeneration)⟩
          · rintro ⟨htransports, hlast⟩
            have hgeneration : c.active.generation + 1 < 2 ^ 64 :=
              hlast.resolve_right fun hfails => hfails hot rfl
            refine ⟨?_, ?_, nofun, fun hnone => absurd rfl (hnone _)⟩
            · intro generation happlied
              cases happlied
              exact ⟨candidate, rfl, hsame.mpr htransports, (nextGeneration_iff _).mpr hgeneration,
                rfl, _, hnew, rfl⟩
            · intro candidate' hanswer _ hother
              cases hanswer
              exact absurd (hsame.mpr htransports) hother
      · have hother : ¬ c.active_config.SameButHot candidate := fun h =>
          hprojection ((sameButHot_iff _ _).mp h).1
        rw [reload_restart hstopping hprojection]
        refine iff_of_true ⟨nofun, fun _ _ _ _ => rfl, fun _ => ⟨candidate, rfl, hother⟩,
          fun _ => ⟨rfl, rfl⟩⟩ ?_
        intro _ candidate' hanswer hsame
        cases hanswer
        exact absurd hsame hprojection

/-- What reloads and stops should do, over a run. -/
structure ReloadLaw (c₀ : ReloadController) (moves : List (ReloadMove ε)) : Prop where
  /-- Whenever the mutex is free, the cells are what the returned calls made of them. -/
  serial : ∀ n, (reloadAt c₀ moves n).store.held = false →
    (reloadAt c₀ moves n).store.cells = replay c₀ (reloadAt c₀ moves n).log
  sound : ∀ n i answer result, (reloadAt c₀ moves n).log[i]? = some (.reloaded answer result) →
    ReloadSound (replay c₀ ((reloadAt c₀ moves n).log.take i)) answer result
      (replay c₀ ((reloadAt c₀ moves n).log.take (i + 1)))
  /-- Once a stop has returned, what runs is never written again. -/
  stopped : ∀ n m, n ≤ m → .stopped ∈ (reloadAt c₀ moves n).log →
    SameActive (reloadAt c₀ moves n).store.cells (reloadAt c₀ moves m).store.cells

theorem replay_take_succ {c₀ : ReloadController} {log : List (ReloadEvent ε)} {i : Nat}
    {event : ReloadEvent ε} (h : log[i]? = some event) :
    replay c₀ (log.take (i + 1)) = event.apply (replay c₀ (log.take i)) := by
  rw [List.take_add_one, h]
  exact replay_append c₀ _ event

/-- **Reload**, over every interleaving of reloads and stops: the law holds of the run if and only
if no reload of it gets past the comparison with another A2A or gateway transport, or with the
last generation. -/
theorem reload_law_iff (c₀ : ReloadController) (moves : List (ReloadMove ε))
    (hfresh : ∀ call, .start call ∈ moves → call.Fresh) :
    ReloadLaw c₀ moves ↔ ∀ n i answer result,
      (reloadAt c₀ moves n).log[i]? = some (.reloaded answer result) →
        ReloadMeets (replay c₀ ((reloadAt c₀ moves n).log.take i)) answer := by
  have hone : ∀ n i answer result,
      (reloadAt c₀ moves n).log[i]? = some (.reloaded answer result) →
      (ReloadSound (replay c₀ ((reloadAt c₀ moves n).log.take i)) answer result
          (replay c₀ ((reloadAt c₀ moves n).log.take (i + 1))) ↔
        ReloadMeets (replay c₀ ((reloadAt c₀ moves n).log.take i)) answer) := by
    intro n i answer result hi
    have hgenuine : ((replay c₀ ((reloadAt c₀ moves n).log.take i)).reload answer).1 = result :=
      (reloadAt_inv hfresh n).genuine i _ hi
    rw [replay_take_succ hi, ← reload_sound_iff, hgenuine]
    exact Iff.rfl
  constructor
  · intro hlaw n i answer result hi
    exact (hone n i answer result hi).mp (hlaw.sound n i answer result hi)
  · intro hmeets
    refine ⟨fun n => (reloadAt_inv hfresh n).free, ?_, ?_⟩
    · intro n i answer result hi
      exact (hone n i answer result hi).mpr (hmeets n i answer result hi)
    · intro n m hnm hstopped
      have hlog : (reloadAt c₀ moves n).log <+: (reloadAt c₀ moves m).log := reloadAt_log hnm
      have hbefore := (reloadAt_inv hfresh n).stopped hstopped
      have hafter := (reloadAt_inv hfresh m).stopped (hlog.subset hstopped)
      obtain ⟨later, hlater⟩ := hlog
      have hbegun : (replay c₀ (reloadAt c₀ moves n).log).stopping = true := replay_stopped hstopped
      have hsame := (replay_stopping later hbegun).2
      rw [← hlater] at hafter
      unfold replay at hafter hbefore hsame
      rw [List.foldl_append] at hafter
      exact ⟨(hafter.1.trans hsame.1).trans hbefore.1.symm,
        (hafter.2.trans hsame.2).trans hbefore.2.symm⟩

end

/-! ### The projection is incomplete -/

/-- A configuration with the defaults of the source, no agent and the A2A listener on. -/
def listenerConfig (listen : String) : Config where
  bridge :=
    { database := "/var/lib/guigu-agent-bridge/state.db",
      session_root := "/var/cache/guigu-agent-bridge/sessions", max_task_depth := 8,
      max_task_hops := 16, default_timeout_seconds := 300, queue_capacity := 1024,
      event_capacity := 1024, shutdown_timeout_seconds := 30,
      owner_evidence_max_age_seconds := 30, health_bind := none }
  transports :=
    { matrix :=
        { enabled := false, homeserver := "", user_id := "", device_id := "",
          access_token := ⟨""⟩, monitor_room := "", sync_capacity := 256, allowed_users := [],
          routes := ⟨.empty, .empty, .empty⟩, admin_users := [], admin_rooms := [],
          crypto_store_path := none, device_trusted := false }
      a2a :=
        { enabled := true, listen := listen, allow_private_plaintext := false,
          max_body_bytes := 1048576, terminal_content_ttl_seconds := 86400,
          retained_bytes_ceiling := 67108864, retained_bytes_low_watermark := 50331648,
          cleanup_batch := 32, exposed_endpoints := [], peers := .empty }
      gateway :=
        { enabled := false, room_id := "", peer_id := "", local_endpoint_id := "",
          remote_endpoint_id := "", allowed_senders := [], generation := 0,
          max_payload_bytes := 262144, deadline_seconds := 300 } }
  runtime :=
    { legacy_acp_results := false, allow_nonterminal_end_turn := false, max_turns := 8,
      max_wall_seconds := 900, max_inactivity_seconds := 120, max_no_progress := 2,
      max_output_bytes := 1048576, lease_ttl_seconds := 30 }
  agents := .empty

/-- What a controller built from it holds. -/
def listenerCells (listen : String) : ReloadController where
  active_config := listenerConfig listen
  active := ⟨1,
    { route := RoutePolicy.new, permissions := ⟨fun _ => none⟩,
      admin := AdminPermissionPolicy.restrictRooms ⟨fun _ => false, none⟩ [],
      monitor_room := none }⟩
  stopping := false

/-- The listener that runs, and another. -/
def boundListen : String := "tcp:127.0.0.1:9443"

def otherListen : String := "tcp:127.0.0.1:9444"

/-- One reload, access by access, that is answered with this listener. -/
def listenerMoves (listen : String) : List (ReloadMove Unit) :=
  .start (.reload .waiting) ::
    List.replicate 9 (.advance 0 (.poll (.ok (listenerConfig listen))))

theorem listenerMoves_log (listen : String) (hlisten : listen = boundListen ∨ listen = otherListen) :
    (reloadAt (listenerCells boundListen) (listenerMoves listen) 10).log =
      [.reloaded (.ok (listenerConfig listen)) (.ok (.applied 2))] := by
  rcases hlisten with rfl | rfl <;> rfl

/-- A reload applies another listener: it answers `Applied`, and the law does not hold. -/
theorem reload_ignores_listener :
    ReloadController.new (ε := Unit) (listenerConfig boundListen) =
        .ok (listenerCells boundListen) ∧
      (reloadAt (listenerCells boundListen) (listenerMoves otherListen) 10).log =
        [.reloaded (.ok (listenerConfig otherListen)) (.ok (.applied 2))] ∧
      ¬ ReloadLaw (listenerCells boundListen) (listenerMoves otherListen) := by
  have hlog := listenerMoves_log otherListen (.inr rfl)
  refine ⟨rfl, hlog, ?_⟩
  intro hlaw
  have hsound := hlaw.sound 10 0 (.ok (listenerConfig otherListen)) (.ok (.applied 2))
    (by rw [hlog]; rfl)
  obtain ⟨candidate, hanswer, hhot, -⟩ := hsound.applied 2 rfl
  cases hanswer
  have hlisten := congrArg A2aTransportConfig.listen ((sameButHot_iff _ _).mp hhot).2.1
  revert hlisten
  decide

/-- The same reload, answered with the listener that runs. -/
theorem sameListener_law :
    ReloadLaw (listenerCells boundListen) (listenerMoves boundListen) := by
  have hfresh : ∀ call, .start call ∈ listenerMoves boundListen → call.Fresh := by
    intro call hcall
    simp only [listenerMoves, List.mem_cons, Move.start.injEq, List.mem_replicate,
      reduceCtorEq, and_false, or_false] at hcall
    exact .inl hcall
  refine (reload_law_iff _ _ hfresh).mpr ?_
  intro n i answer result hi
  -- the run has ten moves, and one call returned
  have hend : (reloadAt (listenerCells boundListen) (listenerMoves boundListen) (max n 10)).log =
      [.reloaded (.ok (listenerConfig boundListen)) (.ok (.applied 2))] := by
    rw [← listenerMoves_log boundListen (.inl rfl)]
    unfold reloadAt System.worldAt
    rw [List.take_of_length_le (Nat.le_max_right n 10 : (listenerMoves boundListen).length ≤ _),
      List.take_of_length_le (le_refl 10 : (listenerMoves boundListen).length ≤ _)]
  have hlog : (reloadAt (listenerCells boundListen) (listenerMoves boundListen) n).log <+: _ :=
    reloadAt_log (Nat.le_max_left n 10)
  rw [hend] at hlog
  obtain ⟨hlt, -⟩ := List.getElem?_eq_some_iff.mp hi
  have hlen := hlog.length_le
  have hzero : i = 0 := by
    simp only [List.length_singleton] at hlen
    omega
  subst hzero
  have hanswer : answer = .ok (listenerConfig boundListen) := by
    have hmem := hlog.subset (List.mem_of_getElem? hi)
    rw [List.mem_singleton, ReloadEvent.reloaded.injEq] at hmem
    exact hmem.1
  intro _ candidate hcandidate _
  rw [hanswer] at hcandidate
  cases hcandidate
  refine ⟨⟨rfl, rfl⟩, .inl ?_⟩
  show 1 + 1 < 2 ^ 64
  decide

end GuiguBridge
