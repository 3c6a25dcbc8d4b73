import GuiguBridge.Lib.Interleave
import GuiguBridge.Storage.OwnerEvidence

/-!
# The spawn gate

Children of an agent are only spawned under a reservation of the gate (`AcpSpawnGate`,
`src/src/acp/spawn_gate.rs`).  Whoever shuts the bridge down closes the gate and waits until the
last reservation is dropped; what is observed of the process domain after that carries the epoch
of the gate.

* `SpawnState`, `reserve`, `registerChild`, `retainTransport`, `closeCheck`, `finalObservation` —
  the sections under the mutex, as the source has them; none of them panics, so the mutex is
  never poisoned;
* `Party`, `gateSystem` — the callers between their locks and their await points: a reservation
  that is dropped decrements first and notifies later, and a `close_and_join` creates its
  `Notified` before it looks;
* `GateInv`, `gateStep_inv` — the invariant, **kept by every step of every party**;
* `spawn_gate` — what holds of every run.
-/

namespace GuiguBridge.Acp

open Interleave

/-- `usize::MAX`. -/
def usizeMax : Nat := 2 ^ 64 - 1

inductive SpawnPhase where
  | open | closing | closedJoined
  deriving DecidableEq

/-- `SpawnState`; `τ` stands for the transports. -/
structure SpawnState (τ : Type) where
  phase : SpawnPhase
  in_flight : Nat
  epoch : Int
  children : List String
  registration_failed : Bool
  transports : List τ

/-- What `/proc` answers for a process; a read that fails is `none`. -/
structure ProcEntry where
  stat : Option String
  exe : Option String
  cgroup : Option String
  deriving DecidableEq

/-- The identity that `register_child` computes before it takes the lock. -/
def childIdentity (pid : Nat) (entry : ProcEntry) : Option String :=
  if pid = 0 then none
  else do
    let stat ← entry.stat
    let fields ← Text.rsplitOnce [')', ' '] stat.toList
    let starttime ← (Text.splitWhitespace fields.2)[19]?
    let executable ← entry.exe
    let cgroup ← entry.cgroup
    some ("pid=" ++ toString pid ++ ";starttime=" ++ String.ofList starttime ++ ";exe=" ++
      executable ++ ";cgroup=" ++ cgroup)

namespace SpawnState

variable {τ : Type}

/-- The state of `for_generation`. -/
def new : SpawnState τ := ⟨.open, 0, 0, [], false, []⟩

/-- `reserve`. -/
def reserve (s : SpawnState τ) : Option (SpawnState τ) :=
  if s.phase ≠ .open then none
  else if s.in_flight = usizeMax then none
  else some { s with in_flight := s.in_flight + 1 }

/-- `register_child`, from its lock on. -/
def registerChild (identity : Option String) (s : SpawnState τ) : Bool × SpawnState τ :=
  match identity with
  | none => (false, { s with registration_failed := true })
  | some identity =>
    if 256 ≤ s.children.length then (false, { s with registration_failed := true })
    else (true, { s with children := s.children ++ [identity] })

/-- `retain_transport`. -/
def retainTransport (transport : τ) (s : SpawnState τ) : Bool × SpawnState τ :=
  if 256 ≤ s.transports.length then (false, { s with registration_failed := true })
  else (true, { s with transports := s.transports ++ [transport] })

/-- The section of `close_and_join` under the lock; whether it returns. -/
def closeCheck (s : SpawnState τ) : Bool × SpawnState τ :=
  if s.phase = .closedJoined then (true, s)
  else if s.in_flight = 0 then (true, { s with phase := .closedJoined, epoch := 1 })
  else (false, { s with phase := .closing })

/-- The epoch that `final_observation` hands to the scan. -/
def observedEpoch (s : SpawnState τ) : Int :=
  if s.phase = .closedJoined ∧ s.in_flight = 0 ∧ s.registration_failed = false then s.epoch
  else -1

end SpawnState

/-- `DomainBinding`; the directory is open or could not be opened. -/
structure DomainBinding where
  generation : String
  directory : Bool
  identity : Option (Nat × Nat)
  deriving DecidableEq

/-- What the file system answers while `scan` runs: two readings of `cgroup.procs`, and the
metadata of the directory. -/
structure DomainReadings where
  first : Except ScanOutcome (List Nat)
  second : Except ScanOutcome (List Nat)
  metadata : Option (Nat × Nat)

/-- `MEMBER_LIMIT`. -/
def memberLimit : Nat := 256

/-- `DomainBinding::scan`. -/
def DomainBinding.scan (domain : DomainBinding) (epoch : Int) (readings : DomainReadings) :
    FinalObservation :=
  let observation : FinalObservation :=
    { outcome := .unavailable, epoch := epoch, generation := domain.generation,
      identity := domain.identity, members := [], contained := false }
  if domain.directory = false then { observation with outcome := .inaccessible }
  else
    match readings.first, readings.second, readings.metadata with
    | .ok first, .ok second, some metadata =>
      if memberLimit < first.length ∨ memberLimit < second.length then
        { observation with outcome := .overflow }
      else if first ≠ second ∨ domain.identity ≠ some metadata then
        { observation with outcome := .raced, members := second }
      else if second = [] then { observation with outcome := .unavailable, members := second }
      else { observation with outcome := .listedMembers, members := second }
    | .error outcome, _, _ => { observation with outcome := outcome }
    | _, .error outcome, _ => { observation with outcome := outcome }
    | _, _, _ => { observation with outcome := .inaccessible }

/-- `final_observation`. -/
def SpawnState.finalObservation {τ : Type} (s : SpawnState τ) (domain : DomainBinding)
    (readings : DomainReadings) : FinalObservation :=
  domain.scan s.observedEpoch readings

/-- The scan carries the epoch that it is given. -/
@[simp] theorem DomainBinding.scan_epoch (domain : DomainBinding) (epoch : Int)
    (readings : DomainReadings) : (domain.scan epoch readings).epoch = epoch := by
  unfold DomainBinding.scan
  split
  · rfl
  · split
    · split
      · rfl
      · split
        · rfl
        · split <;> rfl
    all_goals rfl

/-! ### The parties -/

/-- The gate: its state, and how often `notify_waiters` has been called. -/
structure Gate (τ : Type) where
  state : SpawnState τ
  notified : Nat

/-- Where a `close_and_join` stands: at the head of its loop, with its `Notified` created and
enabled, at its await point, or done. -/
inductive Closer where
  | head
  | enabled (seen : Nat)
  | waiting (seen : Nat)
  | returned
  | cancelled
  deriving DecidableEq

/-- A party of the gate: one that calls `reserve` and holds what it gets, or a
`close_and_join`. -/
inductive Party where
  | caller
  | refused
  | holding (identity : Option String)
  /-- The reservation is decremented and has not notified yet. -/
  | dropping
  | dropped
  | closer (c : Closer)
  deriving DecidableEq

/-- What a party does next: go on, drop what it holds (or the future that it is), or use its
reservation. -/
inductive GateInput (τ : Type) where
  | poll
  | drop
  | registerChild (pid : Nat) (entry : ProcEntry)
  | retainTransport (transport : τ)

inductive GateEvent where
  | reserved (granted : Bool)
  | registered (accepted : Bool)
  | retained (accepted : Bool)
  | released
  /-- The decrement of a reservation found `in_flight` at zero. -/
  | underflowed
  /-- A `close_and_join` has been through its section under the lock. -/
  | closing
  | joined
  deriving DecidableEq

section

variable {τ : Type}

/-- One step of a `close_and_join`. -/
def closerStep (input : GateInput τ) (c : Closer) (g : Gate τ) :
    Closer × Gate τ × List GateEvent :=
  match c, input with
  | .head, .poll => (.enabled g.notified, g, [])
  | .head, .drop => (.cancelled, g, [])
  | .enabled seen, _ =>
    let r := g.state.closeCheck
    if r.1 then
      -- only the call that joins notifies
      (.returned, { state := r.2, notified :=
        if g.state.phase = .closedJoined then g.notified else g.notified + 1 },
        [.closing, .joined])
    else (.waiting seen, { g with state := r.2 }, [.closing])
  | .waiting seen, .poll => (if g.notified = seen then .waiting seen else .head, g, [])
  | .waiting _, .drop => (.cancelled, g, [])
  | c, _ => (c, g, [])

/-- One step of a party. -/
def partyStep (input : GateInput τ) (p : Party) (g : Gate τ) : Party × Gate τ × List GateEvent :=
  match p, input with
  | .caller, .poll =>
    match g.state.reserve with
    | none => (.refused, g, [.reserved false])
    | some s => (.holding none, { g with state := s }, [.reserved true])
  | .holding identity, .registerChild pid entry =>
    let r := g.state.registerChild (childIdentity pid entry)
    (.holding (if r.1 then childIdentity pid entry else identity), { g with state := r.2 },
      [.registered r.1])
  | .holding identity, .retainTransport transport =>
    let r := g.state.retainTransport transport
    (.holding identity, { g with state := r.2 }, [.retained r.1])
  | .holding _, .drop =>
    (.dropping, { g with state := { g.state with in_flight := g.state.in_flight - 1 } },
      if g.state.in_flight = 0 then [.underflowed] else [.released])
  | .dropping, _ => (.dropped, { g with notified := g.notified + 1 }, [])
  | .closer c, input =>
    let r := closerStep input c g
    (.closer r.1, r.2)
  | p, _ => (p, g, [])

/-- The gate and its parties; nobody else touches the state. -/
def gateSystem (τ : Type) : System (Gate τ) Party (GateInput τ) Empty GateEvent where
  advance _ input p g := partyStep input p g
  outside e _ := nomatch e

/-- A run of the gate. -/
abbrev GateMove (τ : Type) := Move Party (GateInput τ) Empty

/-- The gate, its parties and what they did, after the first `n` moves. -/
def gateAt (moves : List (GateMove τ)) (n : Nat) : World (Gate τ) Party GateEvent :=
  (gateSystem τ).worldAt ⟨SpawnState.new, 0⟩ moves n

/-- Parties begin with a call of `reserve` or of `close_and_join`. -/
def Party.Fresh (p : Party) : Prop := p = .caller ∨ p = .closer .head

/-- The party holds a live reservation. -/
def Party.holds : Party → Bool
  | .holding _ => true
  | _ => false

/-- How many reservations are live. -/
def live (w : World (Gate τ) Party GateEvent) : Nat := w.procs.countP Party.holds

/-! ### What a step does -/

/-- The events that report a failed registration. -/
def GateEvent.isFailure : GateEvent → Bool
  | .registered accepted | .retained accepted => !accepted
  | _ => false

/-- A reservation is used: only the lists and the failure flag change. -/
structure Uses (s : SpawnState τ) (r : Bool × SpawnState τ) : Prop where
  phase : r.2.phase = s.phase
  in_flight : r.2.in_flight = s.in_flight
  epoch : r.2.epoch = s.epoch
  kept : s.registration_failed = true → r.2.registration_failed = true
  failed : r.1 = false → r.2.registration_failed = true

theorem registerChild_uses (identity : Option String) (s : SpawnState τ) :
    Uses s (s.registerChild identity) := by
  unfold SpawnState.registerChild
  cases identity with
  | none => exact ⟨rfl, rfl, rfl, fun _ => rfl, fun _ => rfl⟩
  | some identity =>
    dsimp only
    split
    · exact ⟨rfl, rfl, rfl, fun _ => rfl, fun _ => rfl⟩
    · exact ⟨rfl, rfl, rfl, id, nofun⟩

theorem retainTransport_uses (transport : τ) (s : SpawnState τ) :
    Uses s (s.retainTransport transport) := by
  unfold SpawnState.retainTransport
  split
  · exact ⟨rfl, rfl, rfl, fun _ => rfl, fun _ => rfl⟩
  · exact ⟨rfl, rfl, rfl, id, nofun⟩

/-- A step of a party, **in five cases**. -/
inductive GateStep (p : Party) (g : Gate τ) : Party → Gate τ → List GateEvent → Prop where
  /-- Nothing under the lock, or a `reserve` that is refused. -/
  | quiet (p' : Party) (notified : Nat) (events : List GateEvent)
      (hevents : events = [] ∨ events = [.reserved false]) (hholds : p'.holds = p.holds)
      (hreturned : p' = .closer .returned → p = .closer .returned) :
      GateStep p g p' ⟨g.state, notified⟩ events
  | granted (hp : p = .caller) (hopen : g.state.phase = .open) :
      GateStep p g (.holding none)
        ⟨{ g.state with in_flight := g.state.in_flight + 1 }, g.notified⟩ [.reserved true]
  | used (identity identity' : Option String) (hp : p = .holding identity)
      (r : Bool × SpawnState τ) (huse : Uses g.state r) (event : GateEvent)
      (hevent : event = .registered r.1 ∨ event = .retained r.1) :
      GateStep p g (.holding identity') ⟨r.2, g.notified⟩ [event]
  | released (identity : Option String) (hp : p = .holding identity) :
      GateStep p g .dropping
        ⟨{ g.state with in_flight := g.state.in_flight - 1 }, g.notified⟩
        (if g.state.in_flight = 0 then [.underflowed] else [.released])
  | looked (seen : Nat) (hp : p = .closer (.enabled seen)) (notified : Nat) :
      GateStep p g (.closer (if g.state.closeCheck.1 then .returned else .waiting seen))
        ⟨g.state.closeCheck.2, notified⟩
        (if g.state.closeCheck.1 then [.closing, .joined] else [.closing])

theorem reserve_some {s s' : SpawnState τ} (h : s.reserve = some s') :
    s.phase = .open ∧ s' = { s with in_flight := s.in_flight + 1 } := by
  unfold SpawnState.reserve at h
  split at h
  · cases h
  · rename_i hopen
    split at h
    · cases h
    · exact ⟨not_not.mp hopen, (Option.some.inj h).symm⟩

theorem closerStep_step (input : GateInput τ) (c : Closer) (g : Gate τ) :
    GateStep (.closer c) g (.closer (closerStep input c g).1) (closerStep input c g).2.1
      (closerStep input c g).2.2 := by
  have hquiet (c' : Closer) (h : c' = .returned → c = .returned) :
      GateStep (.closer c) g (.closer c') g [] := by
    refine .quiet _ g.notified _ (.inl rfl) rfl ?_
    intro heq
    rw [h (Party.closer.inj heq)]
  cases c with
  | enabled seen =>
    have hlook (notified : Nat) := @GateStep.looked τ _ g seen rfl notified
    unfold closerStep
    cases hcheck : g.state.closeCheck.1 with
    | true =>
      simp only [hcheck, if_true] at hlook ⊢
      exact hlook _
    | false =>
      simp only [hcheck] at hlook ⊢
      exact hlook _
  | head => cases input <;> exact hquiet _ (by simp [closerStep])
  | waiting seen =>
    cases input with
    | poll =>
      refine hquiet (if g.notified = seen then .waiting seen else .head) ?_
      split <;> nofun
    | _ => exact hquiet _ nofun
  | returned => exact hquiet _ fun _ => rfl
  | cancelled => exact hquiet _ nofun

theorem partyStep_step (input : GateInput τ) (p : Party) (g : Gate τ) :
    GateStep p g (partyStep input p g).1 (partyStep input p g).2.1 (partyStep input p g).2.2 := by
  have hidle : GateStep p g p g [] := .quiet p g.notified [] (.inl rfl) rfl id
  cases p with
  | caller =>
    cases input with
    | poll =>
      unfold partyStep
      cases hreserve : g.state.reserve with
      | none => exact .quiet _ g.notified _ (.inr rfl) rfl nofun
      | some s =>
        obtain ⟨hopen, rfl⟩ := reserve_some hreserve
        exact .granted rfl hopen
    | _ => exact hidle
  | holding identity =>
    cases input with
    | poll => exact hidle
    | drop => exact .released identity rfl
    | registerChild pid entry =>
      exact .used identity _ rfl _ (registerChild_uses _ g.state) _ (.inl rfl)
    | retainTransport transport =>
      exact .used identity identity rfl _ (retainTransport_uses transport g.state) _ (.inr rfl)
  | dropping => exact .quiet _ _ _ (.inl rfl) rfl nofun
  | closer c => exact closerStep_step input c g
  | refused => exact hidle
  | dropped => exact hidle

/-! ### The invariant -/

/-- What holds of the gate, its parties and their history. -/
structure GateInv (w : World (Gate τ) Party GateEvent) : Prop where
  counted : w.store.state.in_flight = live w
  joined : w.store.state.phase = .closedJoined → w.store.state.in_flight = 0
  epoch : w.store.state.epoch = if w.store.state.phase = .closedJoined then 1 else 0
  closing : .closing ∈ w.log → w.store.state.phase ≠ .open
  failed : ∀ e ∈ w.log, e.isFailure = true → w.store.state.registration_failed = true
  returned : .closer .returned ∈ w.procs → w.store.state.phase = .closedJoined
  sound : .underflowed ∉ w.log
  ordered : ∀ i j : Nat, w.log[i]? = some GateEvent.closing → w.log[j]? = some (GateEvent.reserved true) → j < i

/-- Nothing is granted by events that come after the last grant. -/
theorem ordered_append {log events : List GateEvent}
    (h : ∀ i j : Nat, log[i]? = some GateEvent.closing → log[j]? = some (GateEvent.reserved true) → j < i)
    (hgrant : GateEvent.reserved true ∈ events → GateEvent.closing ∉ log ∧ events = [.reserved true]) :
    ∀ i j : Nat, (log ++ events)[i]? = some GateEvent.closing → (log ++ events)[j]? = some (GateEvent.reserved true) →
      j < i := by
  intro i j hi hj
  rw [List.getElem?_append] at hi hj
  split at hj
  · split at hi
    · exact h i j hi hj
    · omega
  · obtain ⟨hnone, hevents⟩ := hgrant (List.mem_of_getElem? hj)
    split at hi
    · exact absurd (List.mem_of_getElem? hi) hnone
    · rw [hevents] at hi
      have hmem := List.mem_of_getElem? hi
      simp at hmem

theorem closeCheck_spec (s : SpawnState τ) :
    (s.closeCheck.1 = true ∧ s.closeCheck.2.phase = .closedJoined ∧
      (s.phase = .closedJoined ∧ s.closeCheck.2 = s ∨
        s.in_flight = 0 ∧ s.closeCheck.2 = { s with phase := .closedJoined, epoch := 1 })) ∨
    (s.closeCheck.1 = false ∧ s.phase ≠ .closedJoined ∧
      s.closeCheck.2 = { s with phase := .closing }) := by
  unfold SpawnState.closeCheck
  split
  · rename_i hjoined
    exact .inl ⟨rfl, hjoined, .inl ⟨hjoined, rfl⟩⟩
  · rename_i hopen
    split
    · rename_i hzero
      exact .inl ⟨rfl, rfl, .inr ⟨hzero, rfl⟩⟩
    · exact .inr ⟨rfl, hopen, rfl⟩

/-- The party and the gate in a world after one of its steps. -/
def stepped (w : World (Gate τ) Party GateEvent) (index : Nat) (p : Party) (g : Gate τ)
    (events : List GateEvent) : World (Gate τ) Party GateEvent :=
  ⟨g, w.procs.set index p, w.log ++ events⟩

theorem live_stepped {w : World (Gate τ) Party GateEvent} {index : Nat} {p : Party}
    (p' : Party) (g : Gate τ) (events : List GateEvent) (hp : w.procs[index]? = some p) :
    live (stepped w index p' g events) + (if p.holds then 1 else 0) =
      live w + (if p'.holds then 1 else 0) :=
  countP_set_add Party.holds p' hp

/-- The invariant after a step, from what the step does to each of its parts. -/
theorem GateInv.stepped {w : World (Gate τ) Party GateEvent} {index : Nat} {p p' : Party}
    {g : Gate τ} {events : List GateEvent} (hinv : GateInv w) (hp : w.procs[index]? = some p)
    (hcounted : g.state.in_flight + (if p.holds then 1 else 0) =
      w.store.state.in_flight + (if p'.holds then 1 else 0))
    (hjoined : g.state.phase = .closedJoined → g.state.in_flight = 0)
    (hepoch : g.state.epoch = if g.state.phase = .closedJoined then 1 else 0)
    (hclosing : w.store.state.phase ≠ .open ∨ GateEvent.closing ∈ events →
      g.state.phase ≠ .open)
    (hfailed : w.store.state.registration_failed = true ∨
      (∃ e ∈ events, e.isFailure = true) → g.state.registration_failed = true)
    (hreturned : w.store.state.phase = .closedJoined ∨ p' = .closer .returned →
      g.state.phase = .closedJoined)
    (hsound : GateEvent.underflowed ∉ events)
    (hgrant : GateEvent.reserved true ∈ events →
      w.store.state.phase = .open ∧ events = [.reserved true]) :
    GateInv (stepped w index p' g events) where
  counted := by
    have hlive := live_stepped p' g events hp
    have hold := hinv.counted
    show g.state.in_flight = _
    omega
  joined := hjoined
  epoch := hepoch
  closing he := by
    rcases List.mem_append.mp he with hold | hnew
    · exact hclosing (.inl (hinv.closing hold))
    · exact hclosing (.inr hnew)
  failed e he hfail := by
    rcases List.mem_append.mp he with hold | hnew
    · exact hfailed (.inl (hinv.failed e hold hfail))
    · exact hfailed (.inr ⟨e, hnew, hfail⟩)
  returned hq := by
    rcases List.mem_or_eq_of_mem_set hq with hold | heq
    · exact hreturned (.inl (hinv.returned hold))
    · exact hreturned (.inr heq.symm)
  sound he := by
    rcases List.mem_append.mp he with hold | hnew
    · exact hinv.sound hold
    · exact hsound hnew
  ordered := by
    refine ordered_append hinv.ordered ?_
    intro hmem
    obtain ⟨hopen, hevents⟩ := hgrant hmem
    exact ⟨fun hold => hinv.closing hold hopen, hevents⟩

/-- **Every step keeps the invariant.** -/
theorem gateStep_inv {w : World (Gate τ) Party GateEvent} {index : Nat} {p p' : Party}
    {g : Gate τ} {events : List GateEvent} (hinv : GateInv w) (hp : w.procs[index]? = some p)
    (h : GateStep p w.store p' g events) : GateInv (stepped w index p' g events) := by
  have hmem : p ∈ w.procs := List.mem_of_getElem? hp
  cases h with
  | quiet p' notified events hevents hholds hreturned =>
    have hnone {e : GateEvent} (he : e ∈ events) : e = .reserved false := by
      rcases hevents with rfl | rfl
      · cases he
      · exact List.mem_singleton.mp he
    refine hinv.stepped hp (by rw [hholds]) hinv.joined hinv.epoch ?_ ?_ ?_ ?_ ?_
    · rintro (hold | hnew)
      · exact hold
      · cases hnone hnew
    · rintro (hold | ⟨e, he, hfail⟩)
      · exact hold
      · rw [hnone he] at hfail
        cases hfail
    · rintro (hold | hnew)
      · exact hold
      · exact hinv.returned (hreturned hnew ▸ hmem)
    · intro he
      cases hnone he
    · intro he
      cases hnone he
  | granted hcaller hopen =>
    subst hcaller
    refine hinv.stepped hp rfl ?_ ?_ ?_ ?_ ?_ (by simp) fun _ => ⟨hopen, rfl⟩
    · intro hjoined
      rw [hopen] at hjoined
      cases hjoined
    · exact hinv.epoch
    · rintro (hold | hnew)
      · exact hold
      · simp at hnew
    · rintro (hold | ⟨e, he, hfail⟩)
      · exact hold
      · rw [List.mem_singleton.mp he] at hfail
        cases hfail
    · rintro (hold | hnew)
      · exact hold
      · cases hnew
  | used identity identity' hholding r huse event hevent =>
    subst hholding
    have hne : event ≠ .closing ∧ event ≠ .underflowed ∧ event ≠ .reserved true := by
      rcases hevent with rfl | rfl <;> exact ⟨nofun, nofun, nofun⟩
    refine hinv.stepped hp ?_ ?_ ?_ ?_ ?_ ?_ ?_ ?_
    · show r.2.in_flight + 1 = _
      rw [huse.in_flight]
      rfl
    · show r.2.phase = _ → r.2.in_flight = _
      rw [huse.phase, huse.in_flight]
      exact hinv.joined
    · show r.2.epoch = if r.2.phase = _ then _ else _
      rw [huse.phase, huse.epoch]
      exact hinv.epoch
    · show _ → r.2.phase ≠ _
      rw [huse.phase]
      rintro (hold | hnew)
      · exact hold
      · exact absurd (List.mem_singleton.mp hnew).symm hne.1
    · rintro (hold | ⟨e, he, hfail⟩)
      · exact huse.kept hold
      · rw [List.mem_singleton.mp he] at hfail
        refine huse.failed ?_
        rcases hevent with rfl | rfl <;> simpa [GateEvent.isFailure] using hfail
    · show _ → r.2.phase = _
      rw [huse.phase]
      rintro (hold | hnew)
      · exact hold
      · cases hnew
    · intro he
      exact hne.2.1 (List.mem_singleton.mp he).symm
    · intro he
      exact absurd (List.mem_singleton.mp he).symm hne.2.2
  | released identity hholding =>
    subst hholding
    -- the reservation is one of those that are counted
    have hpos : w.store.state.in_flight ≠ 0 := by
      rw [hinv.counted]
      exact (List.countP_pos_iff.mpr ⟨_, hmem, rfl⟩).ne'
    rw [if_neg hpos]
    refine hinv.stepped hp ?_ ?_ hinv.epoch ?_ ?_ ?_ (by simp) (by simp)
    · show w.store.state.in_flight - 1 + 1 = w.store.state.in_flight + 0
      omega
    · intro hjoined
      exact absurd (hinv.joined hjoined) hpos
    · rintro (hold | hnew)
      · exact hold
      · simp at hnew
    · rintro (hold | ⟨e, he, hfail⟩)
      · exact hold
      · rw [List.mem_singleton.mp he] at hfail
        cases hfail
    · rintro (hold | hnew)
      · exact hold
      · cases hnew
  | looked seen hcloser notified =>
    subst hcloser
    rcases closeCheck_spec w.store.state with ⟨hcheck, hphase, hcases⟩ | ⟨hcheck, hphase, hstate⟩
    · simp only [hcheck, if_true]
      have hflight : w.store.state.closeCheck.2.in_flight = w.store.state.in_flight ∧
          w.store.state.in_flight = 0 ∧ w.store.state.closeCheck.2.epoch = 1 ∧
          w.store.state.closeCheck.2.registration_failed = w.store.state.registration_failed := by
        rcases hcases with ⟨hjoined, heq⟩ | ⟨hzero, heq⟩
        · rw [heq, hinv.epoch, if_pos hjoined]
          exact ⟨rfl, hinv.joined hjoined, rfl, rfl⟩
        · rw [heq]
          exact ⟨rfl, hzero, rfl, rfl⟩
      obtain ⟨hsame, hzero, hone, hflag⟩ := hflight
      refine hinv.stepped hp ?_ ?_ ?_ ?_ ?_ ?_ (by simp) (by simp)
      · show w.store.state.closeCheck.2.in_flight + 0 = w.store.state.in_flight + 0
        rw [hsame]
      · intro _
        exact hsame.trans hzero
      · show w.store.state.closeCheck.2.epoch = if w.store.state.closeCheck.2.phase = _ then 1 else 0
        rw [hphase, hone, if_pos rfl]
      · intro _
        rw [hphase]
        nofun
      · rintro (hold | ⟨e, he, hfail⟩)
        · exact hflag.trans hold
        · simp only [List.mem_cons, List.not_mem_nil, or_false] at he
          rcases he with rfl | rfl <;> cases hfail
      · intro _
        exact hphase
    · simp only [hcheck, Bool.false_eq_true, if_false]
      rw [hstate]
      refine hinv.stepped hp rfl nofun ?_ ?_ ?_ ?_ (by simp) (by simp)
      · show w.store.state.epoch = 0
        rw [hinv.epoch, if_neg hphase]
      · intro _
        nofun
      · rintro (hold | ⟨e, he, hfail⟩)
        · exact hold
        · rw [List.mem_singleton.mp he] at hfail
          cases hfail
      · rintro (hold | hnew)
        · exact absurd hold hphase
        · cases hnew

/-! ### Whole runs -/

theorem gateMove_inv {w : World (Gate τ) Party GateEvent} {m : GateMove τ} (hinv : GateInv w)
    (hfresh : ∀ p, m = .start p → p.Fresh) : GateInv ((gateSystem τ).move w m) := by
  cases m with
  | start p =>
    have hholds : p.holds = false := by
      rcases hfresh p rfl with rfl | rfl <;> rfl
    refine ⟨?_, hinv.joined, hinv.epoch, hinv.closing, hinv.failed, ?_, hinv.sound, hinv.ordered⟩
    · show w.store.state.in_flight = (w.procs ++ [p]).countP Party.holds
      rw [List.countP_append, List.countP_singleton, hholds]
      exact hinv.counted
    · intro hq
      rcases List.mem_append.mp hq with hold | hnew
      · exact hinv.returned hold
      · rw [← List.mem_singleton.mp hnew] at hfresh
        rcases hfresh _ rfl with heq | heq <;> cases heq
  | advance index input =>
    cases hp : w.procs[index]? with
    | none =>
      rw [System.move_advance_none hp]
      exact hinv
    | some p =>
      rw [System.move_advance_some hp]
      exact gateStep_inv hinv hp (partyStep_step input p w.store)
  | outside e => exact nomatch e

theorem gateAt_inv {moves : List (GateMove τ)} (hfresh : ∀ p, .start p ∈ moves → p.Fresh)
    (n : Nat) : GateInv (gateAt moves n) := by
  refine System.invariant (fun w => GateInv w) ?_ ?_ n
  · exact ⟨rfl, nofun, rfl, nofun, nofun, nofun, nofun, nofun⟩
  · intro n m hm hinv
    exact gateMove_inv hinv fun p hp => hfresh p (hp ▸ List.mem_of_getElem? hm)

/-- A gate that is closed and joined stays so. -/
theorem gateStep_joined {p p' : Party} {g g' : Gate τ} {events : List GateEvent}
    (h : GateStep p g p' g' events) (hjoined : g.state.phase = .closedJoined) :
    g'.state.phase = .closedJoined := by
  cases h with
  | quiet => exact hjoined
  | granted hp hopen =>
    rw [hopen] at hjoined
    cases hjoined
  | used identity identity' hp r huse event hevent => exact huse.phase.trans hjoined
  | released identity hp => exact hjoined
  | looked seen hp notified =>
    rcases closeCheck_spec g.state with ⟨-, hphase, -⟩ | ⟨-, hne, -⟩
    · exact hphase
    · exact absurd hjoined hne

theorem gateAt_joined {moves : List (GateMove τ)} {i n : Nat} (h : i ≤ n)
    (hjoined : (gateAt moves i).store.state.phase = .closedJoined) :
    (gateAt moves n).store.state.phase = .closedJoined := by
  have hmono := @System.mono _ _ _ _ _ (gateSystem τ) ⟨SpawnState.new, 0⟩ moves
    (fun w w' => w.store.state.phase = .closedJoined → w'.store.state.phase = .closedJoined)
    (fun _ => id) (fun _ _ _ huv hvw hu => hvw (huv hu)) ?_ i n h
  · exact hmono hjoined
  · intro n m _ hphase
    cases m with
    | start p => exact hphase
    | advance index input =>
      cases hp : ((gateSystem τ).worldAt ⟨SpawnState.new, 0⟩ moves n).procs[index]? with
      | none =>
        rw [System.move_advance_none hp]
        exact hphase
      | some p =>
        rw [System.move_advance_some hp]
        exact gateStep_joined (partyStep_step input p _) hphase
    | outside e => exact nomatch e

/-- The epoch moves at this move of the run. -/
def EpochMoves (moves : List (GateMove τ)) (n : Nat) : Prop :=
  (gateAt moves (n + 1)).store.state.epoch ≠ (gateAt moves n).store.state.epoch

theorem epochMoves_iff {moves : List (GateMove τ)} (hfresh : ∀ p, .start p ∈ moves → p.Fresh)
    (n : Nat) : EpochMoves moves n ↔ (gateAt moves n).store.state.phase ≠ .closedJoined ∧
      (gateAt moves (n + 1)).store.state.phase = .closedJoined := by
  unfold EpochMoves
  rw [(gateAt_inv hfresh n).epoch, (gateAt_inv hfresh (n + 1)).epoch]
  by_cases hjoined : (gateAt moves n).store.state.phase = .closedJoined
  · have hnext := gateAt_joined (Nat.le_succ n) hjoined
    simp [hjoined, hnext]
  · by_cases hnext : (gateAt moves (n + 1)).store.state.phase = .closedJoined
    · simp [hjoined, hnext]
    · simp [hjoined, hnext]

/-- **The gate**, over every interleaving of its parties: `in_flight` counts the live
reservations and no decrement underflows; after a first look of a `close_and_join` nothing is
granted; a `close_and_join` that has returned leaves the gate closed, joined and empty for good;
the epoch moves once at most, from 0 to 1, when the gate joins; and after a failed registration
no observation carries an epoch that qualifies. -/
theorem spawn_gate (moves : List (GateMove τ)) (hfresh : ∀ p, .start p ∈ moves → p.Fresh)
    (n : Nat) :
    (gateAt moves n).store.state.in_flight = live (gateAt moves n) ∧
    GateEvent.underflowed ∉ (gateAt moves n).log ∧
    (∀ i j : Nat, (gateAt moves n).log[i]? = some GateEvent.closing →
      (gateAt moves n).log[j]? = some (GateEvent.reserved true) → j < i) ∧
    (.closer .returned ∈ (gateAt moves n).procs →
      (gateAt moves n).store.state.phase = .closedJoined) ∧
    ((gateAt moves n).store.state.phase = .closedJoined → ∀ m, n ≤ m →
      (gateAt moves m).store.state.phase = .closedJoined ∧
        (gateAt moves m).store.state.in_flight = 0) ∧
    (EpochMoves moves n → (gateAt moves n).store.state.epoch = 0 ∧
      (gateAt moves (n + 1)).store.state.epoch = 1 ∧
      (gateAt moves n).store.state.phase ≠ .closedJoined ∧
      (gateAt moves (n + 1)).store.state.phase = .closedJoined ∧
      ∀ m, EpochMoves moves m → m = n) ∧
    ((∃ e ∈ (gateAt moves n).log, e.isFailure = true) → ∀ domain readings,
      ((gateAt moves n).store.state.finalObservation domain readings).epoch = -1 ∧
        ∀ epoch, ((gateAt moves n).store.state.finalObservation domain readings).qualifies
          epoch = false) := by
  have hinv := gateAt_inv hfresh n
  refine ⟨hinv.counted, hinv.sound, hinv.ordered, hinv.returned, ?_, ?_, ?_⟩
  · intro hjoined m hm
    have hlater := gateAt_joined hm hjoined
    exact ⟨hlater, (gateAt_inv hfresh m).joined hlater⟩
  · intro hmoves
    obtain ⟨hbefore, hafter⟩ := (epochMoves_iff hfresh n).mp hmoves
    refine ⟨?_, ?_, hbefore, hafter, ?_⟩
    · rw [hinv.epoch, if_neg hbefore]
    · rw [(gateAt_inv hfresh (n + 1)).epoch, if_pos hafter]
    · intro m hm
      obtain ⟨hbefore', hafter'⟩ := (epochMoves_iff hfresh m).mp hm
      -- the later of two such moves would find the gate joined
      rcases Nat.lt_trichotomy m n with hlt | heq | hgt
      · exact absurd (gateAt_joined hlt hafter') hbefore
      · exact heq
      · exact absurd (gateAt_joined hgt hafter) hbefore'
  · rintro ⟨e, he, hfail⟩ domain readings
    have hflag := hinv.failed e he hfail
    have hepoch : ((gateAt moves n).store.state.finalObservation domain readings).epoch = -1 := by
      unfold SpawnState.finalObservation SpawnState.observedEpoch
      rw [DomainBinding.scan_epoch, if_neg fun h => by rw [h.2.2] at hflag; cases hflag]
    refine ⟨hepoch, ?_⟩
    intro epoch
    unfold FinalObservation.qualifies
    rw [hepoch, Bool.and_assoc, Bool.and_eq_false_iff]
    have hnone : ¬ (-1 = epoch ∧ 0 < epoch) := by omega
    refine .inr ?_
    simpa using hnone

/-- One reservation, a `close_and_join` that finds it and waits, a registration that fails, and
the drop that lets the close join. -/
def gateRun : List (GateMove Unit) :=
  [.start .caller, .advance 0 .poll, .start (.closer .head), .advance 1 .poll, .advance 1 .poll,
    .advance 0 (.registerChild 0 ⟨none, none, none⟩), .advance 0 .drop, .advance 0 .poll,
    .advance 1 .poll, .advance 1 .poll, .advance 1 .poll]

theorem gateRun_joined :
    (gateAt gateRun 11).store.state.phase = .closedJoined ∧
      (gateAt gateRun 11).store.state.in_flight = 0 ∧
      ∀ domain readings,
        ((gateAt gateRun 11).store.state.finalObservation domain readings).epoch = -1 := by
  have hfresh : ∀ p, .start p ∈ gateRun → p.Fresh := by
    intro p hp
    simp only [gateRun, List.mem_cons, reduceCtorEq, Move.start.injEq, List.not_mem_nil, or_false,
      false_or] at hp
    rcases hp with rfl | rfl
    · exact .inl rfl
    · exact .inr rfl
  obtain ⟨-, -, -, hreturned, hjoined, -, hfailed⟩ := spawn_gate gateRun hfresh 11
  have hphase := hreturned (by decide)
  refine ⟨hphase, (hjoined hphase 11 le_rfl).2, ?_⟩
  intro domain readings
  exact (hfailed ⟨.registered false, by decide, rfl⟩ domain readings).1

end

end GuiguBridge.Acp
