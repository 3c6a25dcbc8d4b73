import GuiguBridge.Acp.SpawnGate
import GuiguBridge.Gateway.Store
import GuiguBridge.Lib.Json

/-!
# Which child a binding names

The agents of a runtime share one spawn gate.  Every child is registered there when it is
spawned, and a delivery that a child acknowledges is bound to the identity that the gate gives
back (`binding_identity` in `src/src/acp/spawn_gate.rs`; `ensure_client` and `deliver_inner` in
`src/src/acp/dispatcher.rs`; `connect_with_gate` in `src/src/acp/client.rs`).

* `Recorded` — what `register_child` records of a child, and the text that it makes of it;
* `bindingIdentity` — the identity that is read back: the **first** registered text, its fields
  cut at `;`;
* `Bridge`, `Bridge.step` — the gate, the client of every agent, and the deliveries under way;
* `BridgeInv` — the registered texts in their order, and where every child was registered;
* `binding_names_child_iff` — **a binding names the child that acknowledged the delivery exactly
  when the first registered child has its numbers and, up to the first `;`, its executable**.
-/

namespace GuiguBridge.Acp

open Relational

/-! ### What is recorded, and what is read back -/

/-- `str::parse::<i64>`. -/
def parseI64 (cs : List Char) : Option Int :=
  let read (negative : Bool) (ds : List Char) : Option Int :=
    let r := Rfc3339.readAllDigits 0 0 ds
    if r.2.1 = 0 ∨ r.2.2 ≠ [] then none
    else
      let n : Int := if negative then -r.1 else r.1
      if -9223372036854775808 ≤ n ∧ n ≤ 9223372036854775807 then some n else none
  match cs with
  | '-' :: ds => read true ds
  | '+' :: ds => read false ds
  | ds => read false ds

/-- What `register_child` records of a child. -/
structure Recorded where
  pid : Nat
  starttime : List Char
  executable : String
  cgroup : String
  deriving DecidableEq

/-- What `/proc` says of a process, as `register_child` reads it. -/
def recordedOf (pid : Nat) (entry : ProcEntry) : Option Recorded :=
  if pid = 0 then none
  else do
    let stat ← entry.stat
    let fields ← Text.rsplitOnce [')', ' '] stat.toList
    let starttime ← (Text.splitWhitespace fields.2)[19]?
    let executable ← entry.exe
    let cgroup ← entry.cgroup
    some { pid, starttime, executable, cgroup }

/-- The text that is registered. -/
def Recorded.identity (r : Recorded) : String :=
  "pid=" ++ toString r.pid ++ ";starttime=" ++ String.ofList r.starttime ++ ";exe=" ++
    r.executable ++ ";cgroup=" ++ r.cgroup

/-- The identity of a child is the text of what is recorded of it. -/
theorem childIdentity_eq (pid : Nat) (entry : ProcEntry) :
    childIdentity pid entry = (recordedOf pid entry).map Recorded.identity := by
  unfold childIdentity recordedOf
  split
  · rfl
  · cases entry.stat with
    | none => rfl
    | some stat =>
      cases hfields : Text.rsplitOnce [')', ' '] stat.toList with
      | none => simp [hfields]
      | some fields =>
        cases hstart : (Text.splitWhitespace fields.2)[19]? with
        | none => simp [hfields, hstart]
        | some starttime =>
          cases hexe : entry.exe with
          | none => simp
          | some executable =>
            cases hcgroup : entry.cgroup with
            | none => simp
            | some cgroup => simp [hfields, hstart, Recorded.identity]

/-- What `binding_identity` returns. -/
structure BindingIdentity where
  child_pid : Int
  child_starttime : Int
  executable_fingerprint : String
  domain_device : Int
  domain_inode : Int
  deriving DecidableEq

/-- The fields of a registered text. -/
def readIdentity (domain : DomainBinding) (identity : String) : Option BindingIdentity := do
  let rest ← Text.stripPrefix "pid=".toList identity.toList
  let child_pid ← parseI64 (Text.upTo ';' rest)
  let behind ← (Text.split ";starttime=".toList identity.toList)[1]?
  let child_starttime ← parseI64 (Text.upTo ';' behind)
  let executable ← (Text.split ";exe=".toList identity.toList)[1]?
  let (device, inode) ← domain.identity
  some { child_pid, child_starttime,
         executable_fingerprint := String.ofList (Text.upTo ';' executable),
         domain_device := asI64 (UInt64.ofNat device), domain_inode := asI64 (UInt64.ofNat inode) }

/-- `binding_identity`. -/
def bindingIdentity {τ : Type} (domain : DomainBinding) (s : SpawnState τ) :
    Option BindingIdentity :=
  s.children.head?.bind (readIdentity domain)

/-! ### The fields of a text -/

theorem digits_no_semicolon (n : Nat) : ';' ∉ Nat.toDigits 10 n := by
  intro h
  exact absurd (Nat.isDigit_of_mem_toDigits (by decide) (by decide) h) (by decide)

/-- A registered text, field by field. -/
theorem identity_toList (r : Recorded) :
    r.identity.toList = "pid=".toList ++ Nat.toDigits 10 r.pid ++ (";starttime=".toList ++
      (r.starttime ++ (";exe=".toList ++ (r.executable.toList ++ (';' ::
        ("cgroup=".toList ++ r.cgroup.toList)))))) := by
  simp [Recorded.identity]

/-- **What is read back of a registered text**: the executable ends at its first `;`. -/
theorem readIdentity_identity (domain : DomainBinding) {r : Recorded}
    (hstart : ';' ∉ r.starttime) :
    readIdentity domain r.identity = (do
      let child_pid ← parseI64 (Nat.toDigits 10 r.pid)
      let child_starttime ← parseI64 r.starttime
      let (device, inode) ← domain.identity
      some { child_pid, child_starttime,
             executable_fingerprint := String.ofList (Text.upTo ';' r.executable.toList),
             domain_device := asI64 (UInt64.ofNat device),
             domain_inode := asI64 (UInt64.ofNat inode) }) := by
  have hdigits := digits_no_semicolon r.pid
  have hpid : ';' ∉ "pid=".toList ++ Nat.toDigits 10 r.pid := by
    intro h
    obtain h | h := List.mem_append.mp h
    · exact absurd h (by decide)
    · exact hdigits h
  have hstarttime : ';' ∉ "starttime=".toList ++ r.starttime := by
    intro h
    obtain h | h := List.mem_append.mp h
    · exact absurd h (by decide)
    · exact hstart h
  -- the number of the process
  have hrest : ∃ rest, Text.stripPrefix "pid=".toList r.identity.toList =
      some (Nat.toDigits 10 r.pid ++ ';' :: rest) := by
    rw [identity_toList, List.append_assoc, Text.stripPrefix,
      if_pos (List.isPrefixOf_iff_prefix.mpr (List.prefix_append _ _)), List.drop_left]
    exact ⟨_, rfl⟩
  -- its start time: no `;` stands in front of the separator
  have hbehind : ∃ behind, (Text.split ";starttime=".toList r.identity.toList)[1]? = some behind ∧
      Text.upTo ';' behind = r.starttime := by
    rw [identity_toList]
    obtain ⟨behind, hsplit, hfield⟩ := Text.split_field "starttime=".toList _
      (r.starttime ++ (";exe=".toList ++ (r.executable.toList ++ (';' ::
        ("cgroup=".toList ++ r.cgroup.toList))))) (by
          rw [Text.splitFrom_plain hpid, List.append_nil])
    refine ⟨behind, hsplit, hfield.trans ?_⟩
    exact (Text.upTo_append ';' r.starttime _).trans (Text.upTo_plain hstart)
  -- its executable: one `;` stands in front, of another separator
  have hexecutable : ∃ executable, (Text.split ";exe=".toList r.identity.toList)[1]? =
      some executable ∧ Text.upTo ';' executable = Text.upTo ';' r.executable.toList := by
    have hregroup : r.identity.toList = ("pid=".toList ++ Nat.toDigits 10 r.pid ++
        ';' :: ("starttime=".toList ++ r.starttime)) ++ (";exe=".toList ++
          (r.executable.toList ++ (';' :: ("cgroup=".toList ++ r.cgroup.toList)))) := by
      rw [identity_toList]
      simp
    rw [hregroup]
    obtain ⟨executable, hsplit, hfield⟩ := Text.split_field "exe=".toList
      ("pid=".toList ++ Nat.toDigits 10 r.pid ++ ';' :: ("starttime=".toList ++ r.starttime))
      (r.executable.toList ++ (';' :: ("cgroup=".toList ++ r.cgroup.toList))) (by
        rw [List.append_assoc, Text.splitFrom_plain hpid, List.append_nil, List.cons_append,
          Text.splitFrom_other (by rfl), Text.splitFrom_plain hstarttime]
        have hreverse : ("starttime=".toList ++ r.starttime).reverse ++
            ';' :: ("pid=".toList ++ Nat.toDigits 10 r.pid).reverse =
              ("pid=".toList ++ Nat.toDigits 10 r.pid ++
                ';' :: ("starttime=".toList ++ r.starttime)).reverse := by
          simp
        rw [hreverse])
    exact ⟨executable, hsplit, hfield.trans (Text.upTo_append ';' _ _)⟩
  obtain ⟨rest, hrest⟩ := hrest
  obtain ⟨behind, hbehind, hreadStart⟩ := hbehind
  obtain ⟨executable, hexecutable, hreadExecutable⟩ := hexecutable
  have hreadPid : Text.upTo ';' (Nat.toDigits 10 r.pid ++ ';' :: rest) = Nat.toDigits 10 r.pid := by
    rw [Text.upTo_append, Text.upTo_plain hdigits]
  simp only [readIdentity, hrest, hbehind, hexecutable, hreadPid, hreadStart, hreadExecutable,
    Option.bind_eq_bind, Option.bind_some]

/-- A decimal number is read when it is an `i64`. -/
theorem parseI64_digits (n : Nat) :
    parseI64 (Nat.toDigits 10 n) = if n ≤ 9223372036854775807 then some (n : Int) else none := by
  obtain ⟨c, cs, hcons, hc⟩ := Json.toDigits_cons n
  have hminus : c ≠ '-' := Json.digit_ne hc (by decide)
  have hplus : c ≠ '+' := Json.digit_ne hc (by decide)
  have hread := Rfc3339.readAllDigits_toDigits n 0 []
  have hpos : 0 < (Nat.toDigits 10 n).length := List.length_pos_iff.mpr Nat.toDigits_ne_nil
  rw [List.append_nil, Rfc3339.readAllDigits, Nat.zero_add] at hread
  rw [hcons] at hread hpos ⊢
  unfold parseI64
  split
  · next ds heq => exact absurd (List.cons.inj heq).1 hminus
  · next ds heq => exact absurd (List.cons.inj heq).1 hplus
  · simp only [hread]
    rw [if_neg (by simp)]
    by_cases hn : n ≤ 9223372036854775807
    · rw [if_pos hn, if_pos]
      · rfl
      · simp only [Bool.false_eq_true, if_false]
        omega
    · rw [if_neg hn, if_neg]
      simp only [Bool.false_eq_true, if_false]
      omega

/-! ### The agents of a gate -/

/-- A client: its child, and whether the child still runs. -/
structure Client where
  child : Recorded
  alive : Bool
  deriving DecidableEq

/-- How far a `connect_with_gate` is. -/
inductive Connecting where
  | spawned (pid : Nat) (entry : ProcEntry)
  | retained (pid : Nat) (entry : ProcEntry)
  | registered (child : Recorded)

/-- The dispatcher of one agent. -/
structure Agent where
  client : Option Client
  connecting : Option Connecting

/-- What happens: a child is registered, or a delivery is bound that a child acknowledged. -/
inductive BindEvent where
  | registered (child : Recorded)
  | bound (agent : Nat) (child : Recorded) (identity : BindingIdentity)
  deriving DecidableEq

/-- The gate, its agents, and the deliveries that a client has taken. -/
structure Bridge where
  gate : SpawnState Nat
  agents : Nat → Agent
  deliveries : List (Nat × Recorded)
  log : List BindEvent

/-- What happens next; `/proc` is read when a child is registered. -/
inductive BridgeInput where
  | spawn (agent pid : Nat) (entry : ProcEntry)
  | retain (agent : Nat)
  | register (agent : Nat)
  | handshake (agent : Nat) (accepted : Bool)
  | die (agent : Nat)
  | deliver (agent : Nat)
  | bind (delivery : Nat)
  | abandon (delivery : Nat)
  | close

/-- The two reservations of a connection are dropped. -/
def SpawnState.release {τ : Type} (s : SpawnState τ) : SpawnState τ :=
  { s with in_flight := s.in_flight - 2 }

namespace Bridge

def new : Bridge := ⟨SpawnState.new, fun _ => ⟨none, none⟩, [], []⟩

/-- An agent changes. -/
def setAgent (agent : Nat) (a : Agent) (s : Bridge) : Bridge :=
  { s with agents := Function.update s.agents agent a }

/-- `ensure_client` up to the spawn, when no client is alive. -/
def spawn (agent pid : Nat) (entry : ProcEntry) (s : Bridge) : Bridge :=
  let a := s.agents agent
  if a.connecting.isSome || (a.client.any Client.alive) then s
  else
    match s.gate.reserve.bind SpawnState.reserve with
    | none => s
    | some gate => { s with gate }.setAgent agent { a with connecting := some (.spawned pid entry) }

/-- The connection is given up, and its child is shut down. -/
def giveUp (agent : Nat) (gate : SpawnState Nat) (s : Bridge) : Bridge :=
  { s with gate := gate.release }.setAgent agent { s.agents agent with connecting := none }

/-- `retain_transport`. -/
def retain (agent : Nat) (s : Bridge) : Bridge :=
  match (s.agents agent).connecting with
  | some (.spawned pid entry) =>
    let r := s.gate.retainTransport agent
    if r.1 then
      { s with gate := r.2 }.setAgent agent
        { s.agents agent with connecting := some (.retained pid entry) }
    else s.giveUp agent r.2
  | _ => s

/-- `register_child`. -/
def register (agent : Nat) (s : Bridge) : Bridge :=
  match (s.agents agent).connecting with
  | some (.retained pid entry) =>
    let r := s.gate.registerChild (childIdentity pid entry)
    match r.1, recordedOf pid entry with
    | true, some child =>
      { s with gate := r.2, log := s.log ++ [BindEvent.registered child] }.setAgent agent
        { s.agents agent with connecting := some (.registered child) }
    | _, _ => s.giveUp agent r.2
  | _ => s

/-- The end of the handshake; the delivery that asked for the client goes on with it. -/
def handshake (agent : Nat) (accepted : Bool) (s : Bridge) : Bridge :=
  match (s.agents agent).connecting with
  | some (.registered child) =>
    if accepted then
      { s with gate := s.gate.release, deliveries := s.deliveries ++ [(agent, child)] }.setAgent
        agent ⟨some ⟨child, true⟩, none⟩
    else s.giveUp agent s.gate
  | _ => s

/-- The child of an agent ends. -/
def die (agent : Nat) (s : Bridge) : Bridge :=
  let a := s.agents agent
  s.setAgent agent { a with client := a.client.map fun c => { c with alive := false } }

/-- `ensure_client`, when the client is alive. -/
def deliver (agent : Nat) (s : Bridge) : Bridge :=
  match (s.agents agent).connecting, s.gate.reserve, (s.agents agent).client with
  | none, some _, some ⟨child, true⟩ => { s with deliveries := s.deliveries ++ [(agent, child)] }
  | _, _, _ => s

/-- The child has acknowledged the delivery, which is bound to what the gate gives back. -/
def bind (domain : DomainBinding) (delivery : Nat) (s : Bridge) : Bridge :=
  match s.deliveries[delivery]? with
  | none => s
  | some (agent, child) =>
    let s := { s with deliveries := s.deliveries.eraseIdx delivery }
    match bindingIdentity domain s.gate with
    | none => s
    | some identity => { s with log := s.log ++ [.bound agent child identity] }

/-- One event. -/
def step (domain : DomainBinding) (s : Bridge) : BridgeInput → Bridge
  | .spawn agent pid entry => s.spawn agent pid entry
  | .retain agent => s.retain agent
  | .register agent => s.register agent
  | .handshake agent accepted => s.handshake agent accepted
  | .die agent => s.die agent
  | .deliver agent => s.deliver agent
  | .bind delivery => s.bind domain delivery
  | .abandon delivery => { s with deliveries := s.deliveries.eraseIdx delivery }
  | .close => { s with gate := s.gate.closeCheck.2 }

end Bridge

/-- The bridge after some events. -/
def bridgeAt (domain : DomainBinding) (inputs : List BridgeInput) : Bridge :=
  inputs.foldl (Bridge.step domain) Bridge.new

/-- The children that were registered, in order. -/
def registeredOf (log : List BindEvent) : List Recorded :=
  log.filterMap fun
    | .registered child => some child
    | .bound .. => none

/-- The identity has the numbers and the executable that were recorded of the child. -/
def BindingIdentity.Names (identity : BindingIdentity) (child : Recorded) : Prop :=
  identity.child_pid = child.pid ∧ parseI64 child.starttime = some identity.child_starttime ∧
    identity.executable_fingerprint = child.executable

/-- The start time in `/proc/pid/stat` is a decimal number. -/
def ProcEntry.Procfs (entry : ProcEntry) : Prop :=
  ∀ pid child, recordedOf pid entry = some child → ∃ n : Nat, child.starttime = Nat.toDigits 10 n

/-! ### The invariant -/

/-- The children that a connection has to do with. -/
def Connecting.Within (known : List Recorded) : Connecting → Prop
  | .spawned _ entry | .retained _ entry => entry.Procfs
  | .registered child => child ∈ known

structure BridgeInv (domain : DomainBinding) (s : Bridge) : Prop where
  /-- The gate holds the registered texts in their order. -/
  children : s.gate.children = (registeredOf s.log).map Recorded.identity
  procfs : ∀ child ∈ registeredOf s.log, ∃ n : Nat, child.starttime = Nat.toDigits 10 n
  clients : ∀ agent c, (s.agents agent).client = some c → c.child ∈ registeredOf s.log
  connecting : ∀ agent c, (s.agents agent).connecting = some c → c.Within (registeredOf s.log)
  deliveries : ∀ d ∈ s.deliveries, d.2 ∈ registeredOf s.log
  /-- A binding was read back from the first registered text. -/
  bound : ∀ agent child identity, .bound agent child identity ∈ s.log →
    child ∈ registeredOf s.log ∧ ∃ first, (registeredOf s.log).head? = some first ∧
      readIdentity domain first.identity = some identity

theorem registeredOf_append (log events : List BindEvent) :
    registeredOf (log ++ events) = registeredOf log ++ registeredOf events :=
  List.filterMap_append

theorem head_append {α : Type} {l : List α} {x : α} (h : l.head? = some x) (more : List α) :
    (l ++ more).head? = some x := by
  cases l with
  | nil => cases h
  | cons y l => exact h

theorem Connecting.Within.append {known : List Recorded} {c : Connecting} (h : c.Within known)
    (more : List Recorded) : c.Within (known ++ more) := by
  cases c with
  | spawned pid entry => exact h
  | retained pid entry => exact h
  | registered child => exact List.mem_append_left _ h

theorem retainTransport_children {τ : Type} (transport : τ) (s : SpawnState τ) :
    (s.retainTransport transport).2.children = s.children := by
  unfold SpawnState.retainTransport
  split
  · rfl
  · rfl

theorem closeCheck_children {τ : Type} (s : SpawnState τ) :
    s.closeCheck.2.children = s.children := by
  unfold SpawnState.closeCheck
  split
  · rfl
  · split
    · rfl
    · rfl

theorem reserve_children {τ : Type} {s s' : SpawnState τ} (h : s.reserve = some s') :
    s'.children = s.children := by
  obtain ⟨-, rfl⟩ := reserve_some h
  rfl

/-! ### Every step keeps it -/

section

variable {domain : DomainBinding} {s : Bridge}

/-- One agent changes, and the gate in what is not its children. -/
theorem BridgeInv.setAgent (h : BridgeInv domain s) {gate : SpawnState Nat}
    (hgate : gate.children = s.gate.children) (agent : Nat) {a : Agent}
    (hclient : ∀ c, a.client = some c → c.child ∈ registeredOf s.log)
    (hconnecting : ∀ c, a.connecting = some c → c.Within (registeredOf s.log)) :
    BridgeInv domain ({ s with gate := gate }.setAgent agent a) where
  children := hgate.trans h.children
  procfs := h.procfs
  clients other c hc := by
    replace hc : (Function.update s.agents agent a other).client = some c := hc
    by_cases hother : other = agent
    · rw [hother, Function.update_self] at hc
      exact hclient c hc
    · rw [Function.update_of_ne hother] at hc
      exact h.clients other c hc
  connecting other c hc := by
    replace hc : (Function.update s.agents agent a other).connecting = some c := hc
    by_cases hother : other = agent
    · rw [hother, Function.update_self] at hc
      exact hconnecting c hc
    · rw [Function.update_of_ne hother] at hc
      exact h.connecting other c hc
  deliveries := h.deliveries
  bound := h.bound

theorem BridgeInv.giveUp (h : BridgeInv domain s) (agent : Nat) {gate : SpawnState Nat}
    (hgate : gate.children = s.gate.children) : BridgeInv domain (s.giveUp agent gate) :=
  have hrelease : gate.release.children = s.gate.children := hgate
  h.setAgent hrelease agent (fun c hc => h.clients agent c hc) nofun

/-- Deliveries come from clients that are known. -/
theorem BridgeInv.setDeliveries (h : BridgeInv domain s) {deliveries : List (Nat × Recorded)}
    (hdeliveries : ∀ d ∈ deliveries, d.2 ∈ registeredOf s.log) :
    BridgeInv domain { s with deliveries := deliveries } :=
  ⟨h.children, h.procfs, h.clients, h.connecting, hdeliveries, h.bound⟩

/-- Events at the end of the log, with the texts of the children that they register. -/
theorem BridgeInv.logged (h : BridgeInv domain s) {gate : SpawnState Nat}
    {events : List BindEvent}
    (hgate : gate.children = s.gate.children ++ (registeredOf events).map Recorded.identity)
    (hprocfs : ∀ child ∈ registeredOf events, ∃ n : Nat, child.starttime = Nat.toDigits 10 n)
    (hbound : ∀ agent child identity, .bound agent child identity ∈ events →
      child ∈ registeredOf s.log ∧ ∃ first, (registeredOf s.log).head? = some first ∧
        readIdentity domain first.identity = some identity) :
    BridgeInv domain { s with gate := gate, log := s.log ++ events } := by
  have hlog := registeredOf_append s.log events
  refine ⟨?_, ?_, ?_, ?_, ?_, ?_⟩
  · show gate.children = (registeredOf (s.log ++ events)).map Recorded.identity
    rw [hgate, hlog, List.map_append, h.children]
  · intro child hchild
    rw [hlog] at hchild
    obtain hchild | hchild := List.mem_append.mp hchild
    · exact h.procfs child hchild
    · exact hprocfs child hchild
  · intro agent c hc
    rw [hlog]
    exact List.mem_append_left _ (h.clients agent c hc)
  · intro agent c hc
    rw [hlog]
    exact (h.connecting agent c hc).append _
  · intro d hd
    rw [hlog]
    exact List.mem_append_left _ (h.deliveries d hd)
  · intro agent child identity hmem
    have hknown : child ∈ registeredOf s.log ∧ ∃ first, (registeredOf s.log).head? = some first ∧
        readIdentity domain first.identity = some identity := by
      obtain hmem | hmem := List.mem_append.mp hmem
      · exact h.bound agent child identity hmem
      · exact hbound agent child identity hmem
    obtain ⟨hchild, first, hfirst, hread⟩ := hknown
    rw [hlog]
    exact ⟨List.mem_append_left _ hchild, first, head_append hfirst _, hread⟩

theorem BridgeInv.spawn (h : BridgeInv domain s) (agent pid : Nat) {entry : ProcEntry}
    (hentry : entry.Procfs) : BridgeInv domain (s.spawn agent pid entry) := by
  unfold Bridge.spawn
  dsimp only
  split
  · exact h
  · split
    · exact h
    · next gate hgate =>
      obtain ⟨held, hheld, hgate⟩ := Option.bind_eq_some_iff.mp hgate
      refine h.setAgent ((reserve_children hgate).trans (reserve_children hheld)) agent
        (fun c hc => h.clients agent c hc) fun c hc => ?_
      obtain rfl := Option.some.inj hc
      exact hentry

theorem BridgeInv.retain (h : BridgeInv domain s) (agent : Nat) :
    BridgeInv domain (s.retain agent) := by
  unfold Bridge.retain
  split
  · next pid entry hconnecting =>
    have hchildren := retainTransport_children agent s.gate
    dsimp only
    split
    · have hprocfs : entry.Procfs := h.connecting agent _ hconnecting
      refine h.setAgent hchildren agent (fun c hc => h.clients agent c hc) fun c hc => ?_
      obtain rfl := Option.some.inj hc
      exact hprocfs
    · exact h.giveUp agent hchildren
  · exact h

/-- **A registration**: the text of the child is the last one from now on. -/
theorem BridgeInv.register (h : BridgeInv domain s) (agent : Nat) :
    BridgeInv domain (s.register agent) := by
  unfold Bridge.register
  split
  · next pid entry hconnecting =>
    have hprocfs : entry.Procfs := h.connecting agent _ hconnecting
    dsimp only
    rw [childIdentity_eq]
    cases hrecorded : recordedOf pid entry with
    | none =>
      exact h.giveUp agent rfl
    | some child =>
      simp only [Option.map_some, SpawnState.registerChild]
      by_cases hfull : 256 ≤ s.gate.children.length
      · simp only [if_pos hfull]
        exact h.giveUp agent rfl
      · simp only [if_neg hfull]
        have hchildren : { s.gate with children := s.gate.children ++ [child.identity] }.children =
            s.gate.children ++ (registeredOf [.registered child]).map Recorded.identity := rfl
        have hlogged := h.logged hchildren
          (fun other hother => by
            rw [List.mem_singleton.mp hother]
            exact hprocfs pid child hrecorded)
          (fun _ _ _ hmem => by cases List.mem_singleton.mp hmem)
        refine hlogged.setAgent rfl agent (fun c hc => hlogged.clients agent c hc) fun c hc => ?_
        obtain rfl := Option.some.inj hc
        show child ∈ registeredOf (s.log ++ [.registered child])
        rw [registeredOf_append]
        exact List.mem_append_right _ List.mem_cons_self
  · exact h

theorem BridgeInv.handshake (h : BridgeInv domain s) (agent : Nat) (accepted : Bool) :
    BridgeInv domain (s.handshake agent accepted) := by
  unfold Bridge.handshake
  split
  · next child hconnecting =>
    have hchild : child ∈ registeredOf s.log := h.connecting agent _ hconnecting
    split
    · have hdeliveries : BridgeInv domain
          { s with deliveries := s.deliveries ++ [(agent, child)] } := by
        refine h.setDeliveries fun d hd => ?_
        obtain hd | hd := List.mem_append.mp hd
        · exact h.deliveries d hd
        · rw [List.mem_singleton.mp hd]
          exact hchild
      have hgate : s.gate.release.children = s.gate.children := rfl
      refine hdeliveries.setAgent hgate agent (fun c hc => ?_) nofun
      obtain rfl := Option.some.inj hc
      exact hchild
    · exact h.giveUp agent rfl
  · exact h

theorem BridgeInv.deliver (h : BridgeInv domain s) (agent : Nat) :
    BridgeInv domain (s.deliver agent) := by
  unfold Bridge.deliver
  split
  · next child hconnecting hreserve hclient =>
    refine h.setDeliveries fun d hd => ?_
    obtain hd | hd := List.mem_append.mp hd
    · exact h.deliveries d hd
    · rw [List.mem_singleton.mp hd]
      exact h.clients agent _ hclient
  · exact h

theorem BridgeInv.dropDelivery (h : BridgeInv domain s) (delivery : Nat) :
    BridgeInv domain { s with deliveries := s.deliveries.eraseIdx delivery } :=
  h.setDeliveries fun d hd => h.deliveries d (List.mem_of_mem_eraseIdx hd)

/-- **A delivery is bound to what the first text says.** -/
theorem BridgeInv.bind (h : BridgeInv domain s) (delivery : Nat) :
    BridgeInv domain (s.bind domain delivery) := by
  unfold Bridge.bind
  split
  · exact h
  · next agent child hdelivery =>
    have hdropped := h.dropDelivery delivery
    dsimp only
    split
    · exact hdropped
    · next identity hidentity =>
      refine hdropped.logged (by simp [registeredOf]) (by simp [registeredOf]) ?_
      intro other child' identity' hmem
      cases List.mem_singleton.mp hmem
      obtain ⟨text, hhead, hread⟩ := Option.bind_eq_some_iff.mp hidentity
      rw [h.children, List.head?_map] at hhead
      obtain ⟨first, hfirst, rfl⟩ := Option.map_eq_some_iff.mp hhead
      exact ⟨h.deliveries _ (List.mem_of_getElem? hdelivery), first, hfirst, hread⟩

/-- **The step lemma.** -/
theorem BridgeInv.step (h : BridgeInv domain s) (input : BridgeInput)
    (hinput : ∀ agent pid entry, input = .spawn agent pid entry → entry.Procfs) :
    BridgeInv domain (s.step domain input) := by
  cases input with
  | spawn agent pid entry => exact h.spawn agent pid (hinput agent pid entry rfl)
  | retain agent => exact h.retain agent
  | register agent => exact h.register agent
  | handshake agent accepted => exact h.handshake agent accepted
  | die agent =>
    refine h.setAgent rfl agent (fun c hc => ?_) fun c hc => h.connecting agent c hc
    obtain ⟨c', hc', rfl⟩ := Option.map_eq_some_iff.mp hc
    exact h.clients agent c' hc'
  | deliver agent => exact h.deliver agent
  | bind delivery => exact h.bind delivery
  | abandon delivery => exact h.dropDelivery delivery
  | close =>
    exact ⟨(closeCheck_children s.gate).trans h.children, h.procfs, h.clients, h.connecting,
      h.deliveries, h.bound⟩

end

/-- **The run lemma.** -/
theorem bridgeInv_bridgeAt (domain : DomainBinding) (inputs : List BridgeInput)
    (hproc : ∀ agent pid entry, .spawn agent pid entry ∈ inputs → entry.Procfs) :
    BridgeInv domain (bridgeAt domain inputs) := by
  induction inputs using List.reverseRecOn with
  | nil =>
    exact ⟨rfl, fun _ h => absurd h List.not_mem_nil, nofun, nofun,
      fun _ h => absurd h List.not_mem_nil, fun _ _ _ h => absurd h List.not_mem_nil⟩
  | append_singleton inputs input ih =>
    have hsplit : bridgeAt domain (inputs ++ [input]) =
        (bridgeAt domain inputs).step domain input := by
      rw [bridgeAt, List.foldl_append]
      rfl
    rw [hsplit]
    refine BridgeInv.step (ih fun agent pid entry h => hproc agent pid entry
      (List.mem_append_left _ h)) input fun agent pid entry h => ?_
    exact hproc agent pid entry (by rw [h]; exact List.mem_append_right _ List.mem_cons_self)

/-! ### Which child is named -/

/-- **A binding names the child that acknowledged the delivery exactly when the first registered
child has its numbers and, up to the first `;`, its executable.** -/
theorem binding_names_child_iff (domain : DomainBinding) (inputs : List BridgeInput)
    (hproc : ∀ agent pid entry, .spawn agent pid entry ∈ inputs → entry.Procfs)
    {agent : Nat} {child : Recorded} {identity : BindingIdentity}
    (hbound : .bound agent child identity ∈ (bridgeAt domain inputs).log) :
    ∃ first, (registeredOf (bridgeAt domain inputs).log).head? = some first ∧
      (identity.Names child ↔ first.pid = child.pid ∧ first.starttime = child.starttime ∧
        Text.upTo ';' first.executable.toList = child.executable.toList) := by
  have hinv := bridgeInv_bridgeAt domain inputs hproc
  obtain ⟨hchild, first, hfirst, hread⟩ := hinv.bound agent child identity hbound
  obtain ⟨n, hn⟩ := hinv.procfs first (List.mem_of_mem_head? hfirst)
  obtain ⟨m, hm⟩ := hinv.procfs child hchild
  refine ⟨first, hfirst, ?_⟩
  rw [readIdentity_identity domain (hn ▸ digits_no_semicolon n), parseI64_digits, hn,
    parseI64_digits] at hread
  obtain ⟨pid, hpid, hread⟩ := Option.bind_eq_some_iff.mp hread
  obtain ⟨starttime, hstarttime, hread⟩ := Option.bind_eq_some_iff.mp hread
  obtain ⟨place, -, hread⟩ := Option.bind_eq_some_iff.mp hread
  obtain rfl := Option.some.inj hread
  obtain ⟨-, hpid⟩ := Option.ite_none_right_eq_some.mp hpid
  obtain ⟨hstartLe, hstarttime⟩ := Option.ite_none_right_eq_some.mp hstarttime
  obtain rfl := Option.some.inj hpid
  obtain rfl := Option.some.inj hstarttime
  have hexecutable : ∀ cs : List Char,
      String.ofList cs = child.executable ↔ cs = child.executable.toList := by
    intro cs
    rw [← String.toList_inj, String.toList_ofList]
  have hstart : parseI64 child.starttime = some (n : Int) ↔ first.starttime = child.starttime := by
    rw [hn, hm, parseI64_digits]
    constructor
    · intro h
      obtain ⟨-, h⟩ := Option.ite_none_right_eq_some.mp h
      rw [Int.ofNat_inj.mp (Option.some.inj h)]
    · intro h
      rw [← parseI64_digits, ← h, parseI64_digits, if_pos hstartLe]
  unfold BindingIdentity.Names
  rw [hstart, hexecutable, Int.ofNat_inj, hn]

/-! ### Two agents -/

/-- A process as `/proc` shows it. -/
def twoAgentsEntry (executable : String) : ProcEntry where
  stat := some "7 (agent) S 1 7 7 0 -1 0 0 0 0 0 0 0 0 0 20 0 1 0 500 0"
  exe := some executable
  cgroup := some "0::/bridge"

theorem twoAgentsEntry_recorded (executable : String) {pid : Nat} (hpid : pid ≠ 0) :
    recordedOf pid (twoAgentsEntry executable) =
      some ⟨pid, ['5', '0', '0'], executable, "0::/bridge"⟩ := by
  rw [recordedOf, if_neg hpid]
  rfl

theorem twoAgentsEntry_procfs (executable : String) : (twoAgentsEntry executable).Procfs := by
  intro pid child hchild
  have hpid : pid ≠ 0 := by
    rintro rfl
    cases hchild
  rw [twoAgentsEntry_recorded executable hpid] at hchild
  obtain rfl := Option.some.inj hchild
  have hdigits : ['5', '0', '0'] = Nat.toDigits 10 500 := by decide
  exact ⟨500, hdigits⟩

def twoAgentsDomain : DomainBinding := ⟨"generation", true, some (1, 2)⟩

/-- Two agents spawn their children, and the child of the second takes a delivery. -/
def twoAgentsRun : List BridgeInput :=
  [.spawn 0 7 (twoAgentsEntry "/opt/one"), .retain 0, .register 0, .handshake 0 true,
    .spawn 1 8 (twoAgentsEntry "/opt/two;v2"), .retain 1, .register 1, .handshake 1 true,
    .bind 1]

theorem twoAgentsRun_procfs : ∀ agent pid entry, .spawn agent pid entry ∈ twoAgentsRun →
    entry.Procfs := by
  intro agent pid entry h
  simp only [twoAgentsRun, List.mem_cons, BridgeInput.spawn.injEq, List.not_mem_nil, or_false,
    reduceCtorEq, false_or] at h
  obtain ⟨-, -, rfl⟩ | ⟨-, -, rfl⟩ := h
  · exact twoAgentsEntry_procfs _
  · exact twoAgentsEntry_procfs _

theorem twoAgentsRun_bound : .bound 1 ⟨8, ['5', '0', '0'], "/opt/two;v2", "0::/bridge"⟩
    ⟨7, 500, "/opt/one", 1, 2⟩ ∈ (bridgeAt twoAgentsDomain twoAgentsRun).log := by
  decide

/-- The delivery of the second agent is bound to the child of the first. -/
theorem binding_names_first_child : ¬ ∀ (domain : DomainBinding) (inputs : List BridgeInput),
    (∀ agent pid entry, .spawn agent pid entry ∈ inputs → entry.Procfs) →
    ∀ agent child identity, .bound agent child identity ∈ (bridgeAt domain inputs).log →
      identity.Names child := by
  intro h
  have hnames := h twoAgentsDomain twoAgentsRun twoAgentsRun_procfs 1 _ _ twoAgentsRun_bound
  exact absurd hnames.1 (by decide)

theorem binding_names_child_iff_two_agents :
    ∃ first, (registeredOf (bridgeAt twoAgentsDomain twoAgentsRun).log).head? = some first ∧
      (BindingIdentity.Names ⟨7, 500, "/opt/one", 1, 2⟩
          ⟨8, ['5', '0', '0'], "/opt/two;v2", "0::/bridge"⟩ ↔
        first.pid = 8 ∧ first.starttime = ['5', '0', '0'] ∧
          Text.upTo ';' first.executable.toList = "/opt/two;v2".toList) :=
  binding_names_child_iff twoAgentsDomain twoAgentsRun twoAgentsRun_procfs twoAgentsRun_bound

end GuiguBridge.Acp
