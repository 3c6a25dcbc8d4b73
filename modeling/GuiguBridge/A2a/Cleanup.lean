import GuiguBridge.A2a.Outbound
import Mathlib.Algebra.Order.BigOperators.Group.List

/-!
# The cleanup of the A2A exchanges

At startup a runtime removes the content of ended exchanges until what is retained fits
(`src/src/a2a/cleanup.rs`).  Any number of cleaners run beside each other, under different
runtimes that start and stop; a runtime that crashed takes no further step.

* `CleanupLoop.step` — the loop of `start_cleanup`, one awaited operation a step;
* `Tables.contentOf` — the messages and artifacts of an exchange, with their parts;
* `CleanStep` — what every cleaner respects: **an exchange that is cleaned stays so, and a claim
  is lost only when its runtime has stopped**;
* `claimCleanup_spec` — what a call claims, and that it claims something when it can;
* `LoopInv` — the steps of a loop are paid for by the exchanges that it has claimed;
* `cleanup_fenced` — **only the holder of a claim removes content, once for an exchange; every
  loop ends, and how**.
-/

namespace GuiguBridge

namespace A2a

open Relational Interleave

/-! ### The loop -/

/-- `CleanupPolicy`, as the configuration has validated it. -/
structure CleanupPolicy where
  terminal_ttl : Nat
  byte_ceiling : Nat
  low_watermark : Nat
  batch : Nat
  low_watermark_lt : low_watermark < byte_ceiling
  batch_pos : 0 < batch
  batch_le : batch ≤ 256

/-- `ChronoDuration::from_std` of a number of seconds. -/
def CleanupPolicy.ttl (policy : CleanupPolicy) : Option Nat :=
  if policy.terminal_ttl ≤ 9223372036854775 then some policy.terminal_ttl else none

/-- Where the loop is: the operation that it awaits, or its result. -/
inductive CleanupPhase where
  | retaining
  | claiming
  | cleaning (claim : CleanupClaim) (rest : List CleanupClaim)
  | checking
  | returned (result : Except A2aError Unit)

/-- A call of `start_cleanup` by a runtime. -/
structure CleanupLoop where
  runtime : String
  policy : CleanupPolicy
  phase : CleanupPhase

def CleanupLoop.returned (c : CleanupLoop) : Bool :=
  match c.phase with
  | .returned _ => true
  | _ => false

/-- What a loop is answered in one step, and the clock. -/
structure CleanupInput where
  answer : Answer
  now : DateTime

/-- What the loop in a place did. -/
inductive CleanupEvent where
  | worked (index : Nat)
  | claimed (index : Nat) (exchange_id : Uuid)
  | exhausted (index : Nat)
  deriving DecidableEq

namespace CleanupLoop

/-- After the sum that guards the loop. -/
def afterRetained (low_watermark : Nat) : Except A2aError Nat → CleanupPhase
  | .error error => .returned (.error error)
  | .ok bytes => if low_watermark < bytes then .claiming else .checking

/-- After `claim_cleanup`; an empty batch ends the loop. -/
def afterClaims : Except A2aError (List CleanupClaim) → CleanupPhase
  | .error error => .returned (.error error)
  | .ok [] => .checking
  | .ok (claim :: rest) => .cleaning claim rest

/-- After `clean_claim`, whose answer is not looked at. -/
def afterClean (rest : List CleanupClaim) : Except A2aError Bool → CleanupPhase
  | .error error => .returned (.error error)
  | .ok _ =>
    match rest with
    | [] => .retaining
    | claim :: rest => .cleaning claim rest

/-- After the last sum. -/
def afterCheck (byte_ceiling : Nat) : Except A2aError Nat → CleanupPhase
  | .error error => .returned (.error error)
  | .ok bytes =>
    if byte_ceiling < bytes then .returned (.error .recoveryNeeded) else .returned (.ok ())

/-- What a loop notes of its claims. -/
def notes (index : Nat) : Except A2aError (List CleanupClaim) → List CleanupEvent
  | .error _ => []
  | .ok [] => [.exhausted index]
  | .ok claims => claims.map fun claim => .claimed index claim.exchange_id

end CleanupLoop

section

variable [Externals]

/-- The statement of `retained_terminal_bytes`. -/
def retainedBytes (s : Tables) : Except A2aError Nat × Tables :=
  let r := retainedTerminalBytes s
  (.ok r.1, r.2)

namespace CleanupLoop

/-- `clean_batch` up to its claims, under pressure: everything that has ended is old enough. -/
def claimBatch (c : CleanupLoop) (i : CleanupInput) (s : Tables) :
    Except A2aError (List CleanupClaim) × Tables :=
  match c.policy.ttl with
  | none => (.error (.config "cleanup TTL out of range"), s)
  | some _ => statement i.answer (claimCleanup c.runtime i.now c.policy.batch i.now) s

/-- **One step of the loop.** -/
def step (c : CleanupLoop) (index : Nat) (i : CleanupInput) (s : Tables) :
    CleanupPhase × Tables × List CleanupEvent :=
  match c.phase with
  | .retaining =>
    let r := statement i.answer retainedBytes s
    (afterRetained c.policy.low_watermark r.1, r.2, [])
  | .claiming =>
    let r := c.claimBatch i s
    (afterClaims r.1, r.2, notes index r.1)
  | .cleaning claim rest =>
    let r := statement i.answer (cleanClaim c.runtime claim i.now) s
    (afterClean rest r.1, r.2, [])
  | .checking =>
    let r := statement i.answer retainedBytes s
    (afterCheck c.policy.byte_ceiling r.1, r.2, [])
  | .returned result => (.returned result, s, [])

/-- A step in the place of the loop; a loop that has returned takes none. -/
def advance (index : Nat) (i : CleanupInput) (c : CleanupLoop) (s : Tables) :
    CleanupLoop × Tables × List CleanupEvent :=
  if c.returned then (c, s, [])
  else
    let r := c.step index i s
    ({ c with phase := r.1 }, r.2.1, .worked index :: r.2.2)

end CleanupLoop

/-! ### The rest of the world -/

/-- The runtimes start and stop, the tasks are projected, and other cleaners call. -/
inductive BesideCleanup where
  | beginRuntime (token fingerprint now : String)
  | stoppingRuntime (token now : String)
  | stopRuntime (token now : String)
  | heartbeatRuntime (token now : String)
  | projectTaskTerminal (internal_task_id : TaskId)
  | retainedTerminalBytes
  | claimCleanup (runtime : String) (before : DateTime) (limit : Nat) (now : DateTime)
  | cleanClaim (runtime : String) (claim : CleanupClaim) (now : DateTime)

def besideCleanup (o : BesideCleanup) (s : Tables) : Tables :=
  match o with
  | .beginRuntime token fingerprint now =>
    { s with db := (GuiguBridge.beginRuntime token fingerprint now s.db).2 }
  | .stoppingRuntime token now =>
    { s with db := (GuiguBridge.stoppingRuntime token now s.db).2 }
  | .stopRuntime token now => { s with db := (GuiguBridge.stopRuntime token now s.db).2 }
  | .heartbeatRuntime token now =>
    { s with db := (GuiguBridge.heartbeatRuntime token now s.db).2 }
  | .projectTaskTerminal internal_task_id => A2a.projectTaskTerminal internal_task_id s
  | .retainedTerminalBytes => (A2a.retainedTerminalBytes s).2
  | .claimCleanup runtime before limit now => (A2a.claimCleanup runtime before limit now s).2
  | .cleanClaim runtime claim now => (A2a.cleanClaim runtime claim now s).2

/-- The cleaners over one store. -/
def cleanupSystem : System Tables CleanupLoop CleanupInput BesideCleanup CleanupEvent where
  advance := CleanupLoop.advance
  outside := besideCleanup

end

/-- A move of a run: `start_cleanup` is called, its loop takes a step, or the rest of the world
writes. -/
inductive CleanupMove where
  | startCleanup (runtime : String) (policy : CleanupPolicy)
  | advance (index : Nat) (input : CleanupInput)
  | beside (o : BesideCleanup)

def CleanupMove.move : CleanupMove → Move CleanupLoop CleanupInput BesideCleanup
  | .startCleanup runtime policy => .start ⟨runtime, policy, .retaining⟩
  | .advance index input => .advance index input
  | .beside o => .outside o

/-- The tables, the loops and the log after the first `n` moves over the tables `s`. -/
def cleanupAt [Externals] (s : Tables) (moves : List CleanupMove) (n : Nat) :
    World Tables CleanupLoop CleanupEvent :=
  cleanupSystem.worldAt s (moves.map CleanupMove.move) n

/-! ### What is said of a run -/

/-- The stored content of an exchange. -/
def Tables.contentOf (s : Tables) (exchange_id : Uuid) :
    List MessageRow × List PartRow × List ArtifactRow × List PartRow :=
  (s.messages.rows.filter fun m => decide (m.exchange_id = exchange_id),
   s.messageParts.rows.filter fun p => s.messages.rows.any fun m =>
     decide (m.exchange_id = exchange_id ∧ m.message_id = p.owner_id),
   s.artifacts.rows.filter fun a => decide (a.exchange_id = exchange_id),
   s.artifactParts.rows.filter fun p => s.artifacts.rows.any fun a =>
     decide (a.exchange_id = exchange_id ∧ a.artifact_id = p.owner_id))

/-- The exchange is marked as cleaned. -/
def Tables.cleanedUp (s : Tables) (exchange_id : Uuid) : Bool :=
  s.exchanges.rows.any fun e =>
    decide (e.exchange_id = exchange_id ∧ e.cleanup_state = .cleaned)

/-- Between two stores the content of an exchange was removed. -/
def Removes (s s' : Tables) (exchange_id : Uuid) : Prop :=
  s'.contentOf exchange_id ≠ s.contentOf exchange_id ∨
    (s.cleanedUp exchange_id = false ∧ s'.cleanedUp exchange_id = true)

/-- The move cleans `claim` for `runtime`: as the step of a loop, or as the call of another
cleaner. -/
def CleanupMove.Cleans (w : World Tables CleanupLoop CleanupEvent) (m : CleanupMove)
    (runtime : String) (claim : CleanupClaim) : Prop :=
  match m with
  | .startCleanup _ _ => False
  | .advance index _ => ∃ c rest, w.procs[index]? = some c ∧ c.runtime = runtime ∧
      c.phase = .cleaning claim rest
  | .beside (.cleanClaim r c _) => r = runtime ∧ c = claim
  | .beside _ => False

/-- Nothing that has ended by `now` is pending or has lost its owner. -/
def Tables.NothingLeft (s : Tables) (now : String) : Prop :=
  ∀ e ∈ (reconcileTerminals s).exchanges.rows, (reconcileTerminals s).claimable e = true →
    e.terminal_at.any (fun at_ => decide (at_ ≤ now)) = false

/-! ### What every cleaner respects -/

/-- What becomes of an exchange. -/
structure RowStep (s' : Tables) (e e' : ExchangeRow) : Prop where
  exchange_id : e'.exchange_id = e.exchange_id
  internal_task_id : e'.internal_task_id = e.internal_task_id
  cleaned : e.cleanup_state = .cleaned → e'.cleanup_state = .cleaned
  content_bytes : e'.content_bytes ≤ e.content_bytes
  claimed : ∀ owner, e.cleanup_state = .claimed → e.cleanup_owner = some owner →
    e'.cleanup_state = .cleaned ∨
      (e'.cleanup_state = .claimed ∧ e'.cleanup_owner = some owner) ∨
      s'.db.stoppedInstance (some owner) = true

/-- What becomes of the tables. -/
structure CleanStep (s s' : Tables) : Prop where
  rows : ∃ g : ExchangeRow → ExchangeRow, s'.exchanges.rows = s.exchanges.rows.map g ∧
    ∀ e ∈ s.exchanges.rows, RowStep s' e (g e)
  stopped : ∀ token, s.db.stoppedInstance (some token) = true →
    s'.db.stoppedInstance (some token) = true
  taskEvents : s'.db.taskEvents = s.db.taskEvents

theorem RowStep.same {s' : Tables} (e : ExchangeRow) : RowStep s' e e where
  exchange_id := rfl
  internal_task_id := rfl
  cleaned := id
  content_bytes := Nat.le_refl _
  claimed := fun _ hstate howner => Or.inr (Or.inl ⟨hstate, howner⟩)

theorem RowStep.trans {s₁ s₂ : Tables} {e e₁ e₂ : ExchangeRow}
    (hstopped : ∀ token, s₁.db.stoppedInstance (some token) = true →
      s₂.db.stoppedInstance (some token) = true)
    (h₁ : RowStep s₁ e e₁) (h₂ : RowStep s₂ e₁ e₂) : RowStep s₂ e e₂ where
  exchange_id := h₂.exchange_id.trans h₁.exchange_id
  internal_task_id := h₂.internal_task_id.trans h₁.internal_task_id
  cleaned := fun h => h₂.cleaned (h₁.cleaned h)
  content_bytes := Nat.le_trans h₂.content_bytes h₁.content_bytes
  claimed := by
    intro owner hstate howner
    rcases h₁.claimed owner hstate howner with hcleaned | ⟨hstate₁, howner₁⟩ | hstop
    · exact Or.inl (h₂.cleaned hcleaned)
    · exact h₂.claimed owner hstate₁ howner₁
    · exact Or.inr (Or.inr (hstopped owner hstop))

namespace CleanStep

variable {s s₁ s₂ : Tables}

theorem refl (s : Tables) : CleanStep s s where
  rows := ⟨id, (List.map_id _).symm, fun e _ => .same e⟩
  stopped := fun _ h => h
  taskEvents := rfl

theorem trans (h₁ : CleanStep s s₁) (h₂ : CleanStep s₁ s₂) : CleanStep s s₂ where
  rows := by
    obtain ⟨g₁, hrows₁, hg₁⟩ := h₁.rows
    obtain ⟨g₂, hrows₂, hg₂⟩ := h₂.rows
    refine ⟨g₂ ∘ g₁, ?_, ?_⟩
    · rw [hrows₂, hrows₁, List.map_map]
    · intro e he
      have he₁ : g₁ e ∈ s₁.exchanges.rows := by
        rw [hrows₁]
        exact List.mem_map_of_mem he
      exact (hg₁ e he).trans h₂.stopped (hg₂ (g₁ e) he₁)
  stopped := fun token h => h₂.stopped token (h₁.stopped token h)
  taskEvents := h₂.taskEvents.trans h₁.taskEvents

/-- An `UPDATE` of the exchanges. -/
theorem updated {p : ExchangeRow → Bool} {f : ExchangeRow → ExchangeRow}
    {hf : ∀ e, (f e).exchange_id = e.exchange_id}
    (h : ∀ e ∈ s.exchanges.rows, p e = true → RowStep s e (f e)) :
    CleanStep s (s.updateExchanges p f hf) where
  rows := by
    refine ⟨fun e => if p e then f e else e, rfl, ?_⟩
    intro e he
    have hstep : RowStep s e (if p e then f e else e) := by
      by_cases hp : p e = true
      · rw [if_pos hp]
        exact h e he hp
      · rw [if_neg hp]
        exact .same e
    exact ⟨hstep.1, hstep.2, hstep.3, hstep.4, hstep.5⟩
  stopped := fun _ h => h
  taskEvents := rfl

/-- A write of the runtimes. -/
theorem instances {db : Db}
    (hstopped : ∀ token, s.db.stoppedInstance (some token) = true →
      db.stoppedInstance (some token) = true)
    (hevents : db.taskEvents = s.db.taskEvents) : CleanStep s { s with db := db } where
  rows := ⟨id, (List.map_id _).symm, fun e _ => .same e⟩
  stopped := hstopped
  taskEvents := hevents

theorem taskEnded (h : CleanStep s s₁) {e e₁ : ExchangeRow}
    (he : e₁.internal_task_id = e.internal_task_id) : s₁.taskEnded e₁ = s.taskEnded e := by
  unfold Tables.taskEnded lastEventRow
  rw [he, h.taskEvents]

theorem keys (h : CleanStep s s₁) :
    s₁.exchanges.rows.map (·.exchange_id) = s.exchanges.rows.map (·.exchange_id) := by
  obtain ⟨g, hrows, hg⟩ := h.rows
  rw [hrows, List.map_map]
  apply List.map_congr_left
  intro e he
  exact (hg e he).exchange_id

theorem cleanedUp (h : CleanStep s s₁) {exchange_id : Uuid}
    (hcleaned : s.cleanedUp exchange_id = true) : s₁.cleanedUp exchange_id = true := by
  obtain ⟨g, hrows, hg⟩ := h.rows
  unfold Tables.cleanedUp at hcleaned ⊢
  rw [List.any_eq_true] at hcleaned ⊢
  obtain ⟨e, he, hkey⟩ := hcleaned
  rw [decide_eq_true_eq] at hkey
  have hstep := hg e he
  refine ⟨g e, ?_, ?_⟩
  · rw [hrows]
    exact List.mem_map_of_mem he
  · rw [decide_eq_true_eq]
    exact ⟨hstep.exchange_id.trans hkey.1, hstep.cleaned hkey.2⟩

end CleanStep

/-! ### What leaves the content alone -/

/-- No content goes and no exchange becomes cleaned. -/
structure ContentKept (s s' : Tables) : Prop where
  contentOf : ∀ exchange_id, s'.contentOf exchange_id = s.contentOf exchange_id
  cleanedUp : ∀ exchange_id, s'.cleanedUp exchange_id = true → s.cleanedUp exchange_id = true

namespace ContentKept

variable {s s₁ s₂ : Tables}

theorem refl (s : Tables) : ContentKept s s := ⟨fun _ => rfl, fun _ h => h⟩

theorem trans (h₁ : ContentKept s s₁) (h₂ : ContentKept s₁ s₂) : ContentKept s s₂ where
  contentOf := fun x => (h₂.contentOf x).trans (h₁.contentOf x)
  cleanedUp := fun x h => h₁.cleanedUp x (h₂.cleanedUp x h)

theorem updated {p : ExchangeRow → Bool} {f : ExchangeRow → ExchangeRow}
    {hf : ∀ e, (f e).exchange_id = e.exchange_id}
    (h : ∀ e ∈ s.exchanges.rows, p e = true → (f e).cleanup_state = .cleaned →
      e.cleanup_state = .cleaned) :
    ContentKept s (s.updateExchanges p f hf) where
  contentOf := fun _ => rfl
  cleanedUp := by
    intro x hcleaned
    unfold Tables.cleanedUp at hcleaned ⊢
    rw [List.any_eq_true] at hcleaned ⊢
    obtain ⟨e', he', hkey⟩ := hcleaned
    rw [decide_eq_true_eq] at hkey
    rcases mem_updateExchanges.1 he' with ⟨e, he, hp, rfl⟩ | ⟨he, -⟩
    · refine ⟨e, he, ?_⟩
      rw [decide_eq_true_eq]
      exact ⟨(hf e).symm.trans hkey.1, h e he hp hkey.2⟩
    · refine ⟨e', he, ?_⟩
      rw [decide_eq_true_eq]
      exact hkey

theorem not_removes (h : ContentKept s s₁) (exchange_id : Uuid) :
    ¬ Removes s s₁ exchange_id := by
  intro hremoves
  rcases hremoves with hcontent | ⟨hbefore, hafter⟩
  · exact hcontent (h.contentOf exchange_id)
  · rw [h.cleanedUp exchange_id hafter] at hbefore
    cases hbefore

end ContentKept

/-! ### The projection -/

section Projection

variable {s : Tables}

theorem ended_cleanup (e : ExchangeRow) : (s.ended e).cleanup_state = e.cleanup_state ∧
    (s.ended e).cleanup_owner = e.cleanup_owner ∧
    (s.ended e).cleanup_revision = e.cleanup_revision ∧
    (s.ended e).internal_task_id = e.internal_task_id ∧
    (s.ended e).content_bytes = e.content_bytes := by
  unfold Tables.ended
  split
  · exact ⟨rfl, rfl, rfl, rfl, rfl⟩
  · exact ⟨rfl, rfl, rfl, rfl, rfl⟩

theorem ended_rowStep (s' : Tables) (e : ExchangeRow) : RowStep s' e (s.ended e) := by
  obtain ⟨hstate, howner, -, htask, hbytes⟩ := ended_cleanup (s := s) e
  constructor
  · exact s.ended_exchange_id e
  · exact htask
  · intro h
    exact hstate.trans h
  · exact Nat.le_of_eq hbytes
  · intro owner hclaimed howned
    exact Or.inr (Or.inl ⟨hstate.trans hclaimed, howner.trans howned⟩)

/-- The projection of every task, or of one. -/
theorem projected_kept (p : ExchangeRow → Bool) :
    CleanStep s (s.updateExchanges p s.ended s.ended_exchange_id) ∧
      ContentKept s (s.updateExchanges p s.ended s.ended_exchange_id) := by
  constructor
  · exact .updated fun e _ _ => ended_rowStep s e
  · apply ContentKept.updated
    intro e _ _ hcleaned
    exact (ended_cleanup e).1.symm.trans hcleaned

/-- What the ended exchanges that are not cleaned hold. -/
def Tables.weight (s : Tables) (e : ExchangeRow) : Nat :=
  if s.taskEnded e = true ∧ e.cleanup_state ≠ .cleaned then e.content_bytes else 0

/-- The sum of the ceiling check, over the tables as they were. -/
theorem retainedTerminalBytes_eq : (retainedTerminalBytes s).1 = s.exchanges.total s.weight := by
  show ((s.exchanges.rows.map fun e => if decide (e.terminal_at = none) && s.taskEnded e
    then s.ended e else e).map fun e => if retained (reconcileTerminals s) e then e.content_bytes
      else 0).sum = (s.exchanges.rows.map s.weight).sum
  rw [List.map_map]
  apply congrArg List.sum
  apply List.map_congr_left
  intro e _
  show (if retained (reconcileTerminals s) (if decide (e.terminal_at = none) && s.taskEnded e
    then s.ended e else e) then (if decide (e.terminal_at = none) && s.taskEnded e then s.ended e
      else e).content_bytes else 0) = s.weight e
  obtain ⟨hstate, -, -, htask, hbytes⟩ := ended_cleanup (s := s) e
  have hended : (reconcileTerminals s).taskEnded (s.ended e) = s.taskEnded e := by
    unfold Tables.taskEnded
    rw [htask]
    rfl
  by_cases htaskEnded : s.taskEnded e = true
  · by_cases hterminal : e.terminal_at = none
    · have hselected : (decide (e.terminal_at = none) && s.taskEnded e) = true := by
        simp [hterminal, htaskEnded]
      obtain ⟨-, event, -, hrow, -⟩ := Tables.ended_eq htaskEnded
      have hset : (s.ended e).terminal_at ≠ none := by
        rw [hrow]
        simp
      rw [if_pos hselected]
      simp [retained, Tables.weight, hset, hstate, hended, htaskEnded, hbytes]
    · have hselected : ¬ (decide (e.terminal_at = none) && s.taskEnded e) = true := by
        simp [hterminal]
      have hsame : (reconcileTerminals s).taskEnded e = s.taskEnded e := rfl
      rw [if_neg hselected]
      simp [retained, Tables.weight, hterminal, hsame, htaskEnded]
  · have hselected : ¬ (decide (e.terminal_at = none) && s.taskEnded e) = true := by
      simp [htaskEnded]
    have hsame : (reconcileTerminals s).taskEnded e = s.taskEnded e := rfl
    rw [if_neg hselected]
    simp [retained, Tables.weight, hsame, htaskEnded]

/-- **What is retained never grows.** -/
theorem CleanStep.retained_le {s₁ : Tables} (h : CleanStep s s₁) :
    (retainedTerminalBytes s₁).1 ≤ (retainedTerminalBytes s).1 := by
  rw [retainedTerminalBytes_eq, retainedTerminalBytes_eq]
  obtain ⟨g, hrows, hg⟩ := h.rows
  show (s₁.exchanges.rows.map s₁.weight).sum ≤ (s.exchanges.rows.map s.weight).sum
  rw [hrows, List.map_map]
  apply List.sum_le_sum
  intro e he
  have hstep := hg e he
  have hended := h.taskEnded hstep.internal_task_id
  have hbytes := hstep.content_bytes
  show (if s₁.taskEnded (g e) = true ∧ (g e).cleanup_state ≠ .cleaned then (g e).content_bytes
    else 0) ≤ if s.taskEnded e = true ∧ e.cleanup_state ≠ .cleaned then e.content_bytes else 0
  by_cases hweighs : s.taskEnded e = true ∧ e.cleanup_state ≠ .cleaned
  · rw [if_pos hweighs]
    split
    · exact hbytes
    · omega
  · have hnot : ¬ (s₁.taskEnded (g e) = true ∧ (g e).cleanup_state ≠ .cleaned) := by
      intro hafter
      apply hweighs
      exact ⟨hended.symm.trans hafter.1, fun hcleaned => hafter.2 (hstep.cleaned hcleaned)⟩
    rw [if_neg hnot, if_neg hweighs]

end Projection

/-! ### The claims -/

/-- The runtime has, or had, the exchange: it is cleaned, claimed by it, or the runtime has
stopped. -/
def Tables.Held (s : Tables) (runtime : String) (exchange_id : Uuid) : Prop :=
  ∃ e ∈ s.exchanges.rows, e.exchange_id = exchange_id ∧
    (e.cleanup_state = .cleaned ∨
      (e.cleanup_state = .claimed ∧ e.cleanup_owner = some runtime) ∨
      s.db.stoppedInstance (some runtime) = true)

theorem CleanStep.held {s s₁ : Tables} (h : CleanStep s s₁) {runtime : String}
    {exchange_id : Uuid} (hheld : s.Held runtime exchange_id) : s₁.Held runtime exchange_id := by
  obtain ⟨g, hrows, hg⟩ := h.rows
  obtain ⟨e, he, hkey, hcase⟩ := hheld
  have hstep := hg e he
  refine ⟨g e, ?_, hstep.exchange_id.trans hkey, ?_⟩
  · rw [hrows]
    exact List.mem_map_of_mem he
  · rcases hcase with hcleaned | ⟨hclaimed, howned⟩ | hstopped
    · exact Or.inl (hstep.cleaned hcleaned)
    · exact hstep.claimed runtime hclaimed howned
    · exact Or.inr (Or.inr (h.stopped runtime hstopped))

/-- A runtime is not active and stopped at once. -/
theorem active_not_stopped {s : Tables} {runtime : String}
    (hactive : s.activeRuntime runtime = true) :
    s.db.stoppedInstance (some runtime) = false := by
  rw [Bool.eq_false_iff]
  intro hstopped
  unfold Tables.activeRuntime at hactive
  unfold Db.stoppedInstance at hstopped
  rw [List.any_eq_true] at hactive hstopped
  obtain ⟨r, hr, hactive⟩ := hactive
  obtain ⟨r', hr', hstopped⟩ := hstopped
  rw [decide_eq_true_eq] at hactive hstopped
  have hkey : r'.instance_token = r.instance_token :=
    (Option.some.inj hstopped.1).trans hactive.1.symm
  obtain rfl := s.db.runtimeInstances.eq_of_key_eq hr' hr hkey
  rw [hactive.2] at hstopped
  cases hstopped.2

section Claims

variable [Externals] {s : Tables} {runtime : String} {now : DateTime}

omit [Externals] in
theorem claimable_unheld {e : ExchangeRow} (hclaimable : s.claimable e = true)
    (hactive : s.activeRuntime runtime = true) :
    ¬ (e.cleanup_state = .cleaned ∨
      (e.cleanup_state = .claimed ∧ e.cleanup_owner = some runtime) ∨
      s.db.stoppedInstance (some runtime) = true) := by
  have hrunning := active_not_stopped hactive
  unfold Tables.claimable at hclaimable
  simp only [Bool.and_eq_true, Bool.or_eq_true, decide_eq_true_eq] at hclaimable
  intro hheld
  rcases hheld with hcleaned | ⟨hclaimed, howned⟩ | hstopped
  · rcases hclaimable.2 with hpending | hclaimed
    · rw [hpending] at hcleaned
      cases hcleaned
    · rw [hclaimed.1] at hcleaned
      cases hcleaned
  · rcases hclaimable.2 with hpending | hclaimed'
    · rw [hpending] at hclaimed
      cases hclaimed
    · have hstopped := hclaimed'.2
      unfold Tables.ownerStopped at hstopped
      rw [howned, hrunning] at hstopped
      cases hstopped
  · rw [hrunning] at hstopped
    cases hstopped

theorem claimOne_step (candidate : Uuid × Nat) :
    CleanStep s (claimOne runtime now candidate s).2 ∧
      ContentKept s (claimOne runtime now candidate s).2 := by
  constructor
  · apply CleanStep.updated
    intro e he hp
    simp only [Bool.and_eq_true] at hp
    have hunheld := claimable_unheld hp.1.2 hp.2
    constructor
    · rfl
    · rfl
    · intro hcleaned
      exact absurd (Or.inl hcleaned) hunheld
    · exact Nat.le_refl _
    · intro owner hclaimed howned
      -- the owner of a claim that is taken over has stopped
      have hclaimable := hp.1.2
      unfold Tables.claimable Tables.ownerStopped at hclaimable
      rw [hclaimed, howned] at hclaimable
      simp only [Bool.and_eq_true, reduceCtorEq, decide_false, Bool.false_or, decide_true,
        true_and] at hclaimable
      exact Or.inr (Or.inr hclaimable.2.1)
  · apply ContentKept.updated
    intro e _ _ hcleaned
    cases hcleaned

/-- **What a claim takes**: an exchange that its runtime did not have. -/
theorem claimOne_fresh {candidate : Uuid × Nat}
    (h : (claimOne runtime now candidate s).1 = .ok true) :
    candidate.1 ∈ s.exchanges.rows.map (·.exchange_id) ∧ ¬ s.Held runtime candidate.1 ∧
      (claimOne runtime now candidate s).2.Held runtime candidate.1 := by
  have haffected := Except.ok.inj h
  rw [decide_eq_true_eq, Table.affected_eq_one_iff (k := candidate.1)] at haffected
  · obtain ⟨e, hget, hp⟩ := haffected
    have he := Table.mem_of_get hget
    have hselected := hp
    rw [Bool.and_eq_true, Bool.and_eq_true, decide_eq_true_eq] at hp
    refine ⟨?_, ?_, ?_⟩
    · rw [← hp.1.1.1]
      exact List.mem_map_of_mem he
    · intro hheld
      obtain ⟨e', he', hkey, hcase⟩ := hheld
      obtain rfl := s.exchanges.eq_of_key_eq he' he (hkey.trans hp.1.1.1.symm)
      exact claimable_unheld hp.1.2 hp.2 hcase
    · refine ⟨e.claimedBy runtime now, ?_, hp.1.1.1, Or.inr (Or.inl ⟨rfl, rfl⟩)⟩
      exact mem_updateExchanges.2 (Or.inl ⟨e, he, hselected, rfl⟩)
  · intro e hp
    rw [Bool.and_eq_true, Bool.and_eq_true, decide_eq_true_eq] at hp
    exact hp.1.1.1

/-- A candidate whose row is as it was read is claimed by an active runtime. -/
theorem claimOne_taken {e : ExchangeRow} (he : e ∈ s.exchanges.rows)
    (hclaimable : s.claimable e = true) (hactive : s.activeRuntime runtime = true) :
    (claimOne runtime now (e.exchange_id, e.cleanup_revision) s).1 = .ok true := by
  show Except.ok (decide (s.exchanges.affected _ = 1)) = Except.ok true
  apply congrArg Except.ok
  rw [decide_eq_true_eq, Table.affected_eq_one_iff (k := e.exchange_id)]
  · refine ⟨e, Table.get_of_mem he, ?_⟩
    simp [hclaimable, hactive]
  · intro e' hp
    rw [Bool.and_eq_true, Bool.and_eq_true, decide_eq_true_eq] at hp
    exact hp.1.1.1

/-- **The loop of `claim_cleanup`.** -/
theorem claimAll_spec (runtime : String) (now : DateTime) (candidates : List (Uuid × Nat)) :
    CleanStep s (claimAll runtime now candidates s).2 ∧
    ContentKept s (claimAll runtime now candidates s).2 ∧
    ((claimAll runtime now candidates s).1.map (·.exchange_id)).Nodup ∧
    ∀ claim ∈ (claimAll runtime now candidates s).1,
      claim.exchange_id ∈ s.exchanges.rows.map (·.exchange_id) ∧
      ¬ s.Held runtime claim.exchange_id ∧
      (claimAll runtime now candidates s).2.Held runtime claim.exchange_id := by
  induction candidates generalizing s with
  | nil => exact ⟨.refl s, .refl s, List.nodup_nil, fun _ h => absurd h List.not_mem_nil⟩
  | cons candidate rest ih =>
    have hone : CleanStep s (claimOne runtime now candidate s).2 := (claimOne_step candidate).1
    have hkept : ContentKept s (claimOne runtime now candidate s).2 :=
      (claimOne_step candidate).2
    obtain ⟨hstep, hcontent, hnodup, hclaims⟩ := ih (s := (claimOne runtime now candidate s).2)
    have hlater : ∀ claim ∈ (claimAll runtime now rest (claimOne runtime now candidate s).2).1,
        claim.exchange_id ∈ s.exchanges.rows.map (·.exchange_id) ∧
        ¬ s.Held runtime claim.exchange_id ∧
        (claimAll runtime now rest (claimOne runtime now candidate s).2).2.Held runtime
          claim.exchange_id := by
      intro claim hclaim
      obtain ⟨hknown, hfresh, hheld⟩ := hclaims claim hclaim
      rw [hone.keys] at hknown
      exact ⟨hknown, fun h => hfresh (hone.held h), hheld⟩
    unfold claimAll
    dsimp only
    by_cases htaken : (claimOne runtime now candidate s).1 = .ok true
    · obtain ⟨hknown, hfresh, hheld⟩ := claimOne_fresh htaken
      rw [if_pos htaken]
      refine ⟨hone.trans hstep, hkept.trans hcontent, ?_, ?_⟩
      · rw [List.map_cons, List.nodup_cons]
        refine ⟨?_, hnodup⟩
        intro hmem
        obtain ⟨claim, hclaim, hsame⟩ := List.mem_map.mp hmem
        apply (hclaims claim hclaim).2.1
        rw [hsame]
        exact hheld
      · intro claim hclaim
        rcases List.mem_cons.mp hclaim with rfl | hrest
        · exact ⟨hknown, hfresh, hstep.held hheld⟩
        · exact hlater claim hrest
    · rw [if_neg htaken]
      exact ⟨hone.trans hstep, hkept.trans hcontent, hnodup, hlater⟩

omit [Externals] in
theorem reconciled_kept : CleanStep s (reconcileTerminals s) ∧
    ContentKept s (reconcileTerminals s) :=
  projected_kept _

/-- **`claim_cleanup`.** -/
theorem claimCleanup_spec (runtime : String) (before : DateTime) (limit : Nat) (now : DateTime)
    (s : Tables) :
    CleanStep s (claimCleanup runtime before limit now s).2 ∧
    ContentKept s (claimCleanup runtime before limit now s).2 ∧
    ∀ claims, (claimCleanup runtime before limit now s).1 = .ok claims →
      (claims.map (·.exchange_id)).Nodup ∧
      ∀ claim ∈ claims, claim.exchange_id ∈ s.exchanges.rows.map (·.exchange_id) ∧
        ¬ s.Held runtime claim.exchange_id ∧
        (claimCleanup runtime before limit now s).2.Held runtime claim.exchange_id := by
  obtain ⟨hstep, hkept⟩ := reconciled_kept (s := s)
  obtain ⟨hall, hallKept, hnodup, hclaims⟩ := claimAll_spec (s := reconcileTerminals s)
    runtime now (cleanupCandidates before limit (reconcileTerminals s))
  unfold claimCleanup
  split
  · refine ⟨.refl s, .refl s, ?_⟩
    intro claims hresult
    cases hresult
  · refine ⟨hstep.trans hall, hkept.trans hallKept, ?_⟩
    intro claims hresult
    obtain rfl := Except.ok.inj hresult
    refine ⟨hnodup, ?_⟩
    intro claim hclaim
    obtain ⟨hknown, hfresh, hheld⟩ := hclaims claim hclaim
    rw [hstep.keys] at hknown
    exact ⟨hknown, fun h => hfresh (hstep.held h), hheld⟩

/-- **A batch is empty only when nothing can be claimed.** -/
theorem claimCleanup_nil {before : DateTime} {limit : Nat}
    (h : (claimCleanup runtime before limit now s).1 = .ok []) :
    s.activeRuntime runtime = false ∨ s.NothingLeft (Externals.toRfc3339 before) := by
  unfold claimCleanup at h
  split at h
  · cases h
  · rename_i hlimit
    by_cases hactive : s.activeRuntime runtime = true
    · refine Or.inr ?_
      have hnone : cleanupCandidates before limit (reconcileTerminals s) = [] := by
        cases hcandidates : cleanupCandidates before limit (reconcileTerminals s) with
        | nil => rfl
        | cons candidate rest =>
          have hmem : candidate ∈ cleanupCandidates before limit (reconcileTerminals s) := by
            rw [hcandidates]
            exact List.mem_cons_self
          obtain ⟨e, he, rfl⟩ := List.mem_map.mp hmem
          have hsorted := List.mem_of_mem_take he
          rw [List.mem_insertionSort, List.mem_filter, Bool.and_eq_true] at hsorted
          have htaken : (claimOne runtime now (e.exchange_id, e.cleanup_revision)
              (reconcileTerminals s)).1 = .ok true :=
            claimOne_taken hsorted.1 hsorted.2.1 hactive
          have hclaims := Except.ok.inj h
          rw [hcandidates] at hclaims
          unfold claimAll at hclaims
          dsimp only at hclaims
          rw [if_pos htaken] at hclaims
          cases hclaims
      intro e he hclaimable
      rw [Bool.eq_false_iff]
      intro hold
      have hmem : e ∈ (reconcileTerminals s).exchanges.rows.filter fun e =>
          (reconcileTerminals s).claimable e &&
            e.terminal_at.any fun at_ => decide (at_ ≤ Externals.toRfc3339 before) := by
        rw [List.mem_filter, Bool.and_eq_true]
        exact ⟨he, hclaimable, hold⟩
      unfold cleanupCandidates at hnone
      rw [List.map_eq_nil_iff, List.take_eq_nil_iff] at hnone
      rcases hnone with hzero | hsorted
      · omega
      · have hlength := congrArg List.length hsorted
        rw [List.length_insertionSort, List.length_nil] at hlength
        rw [List.eq_nil_of_length_eq_zero hlength] at hmem
        exact absurd hmem List.not_mem_nil
    · exact Or.inl (by simpa using hactive)

end Claims

/-! ### The removal -/

/-- What goes with one exchange is nothing of another one: an owner has one row. -/
theorem dropped_parts {α : Type} {key : α → Uuid} (owners : Table key) (exchange : α → Uuid)
    (parts : Table PartRow.key) {x y : Uuid} (hne : y ≠ x) :
    ((parts.deleteWhere fun p => owners.rows.any fun m =>
        decide (exchange m = x ∧ key m = p.owner_id)).rows.filter fun p =>
      (owners.deleteWhere fun m => decide (exchange m = x)).rows.any fun m =>
        decide (exchange m = y ∧ key m = p.owner_id)) =
    parts.rows.filter fun p => owners.rows.any fun m =>
      decide (exchange m = y ∧ key m = p.owner_id) := by
  show ((parts.rows.filter fun p => !owners.rows.any fun m =>
    decide (exchange m = x ∧ key m = p.owner_id)).filter _) = _
  rw [List.filter_filter]
  apply List.filter_congr
  intro p _
  rw [Bool.eq_iff_iff, Bool.and_eq_true, Bool.not_eq_true', List.any_eq_true, List.any_eq_true,
    List.any_eq_false]
  constructor
  · intro h
    obtain ⟨⟨m, hm, hy⟩, -⟩ := h
    exact ⟨m, (Table.mem_deleteWhere.1 hm).1, hy⟩
  · intro h
    obtain ⟨m, hm, hy⟩ := h
    have hkey := hy
    rw [decide_eq_true_eq] at hkey
    refine ⟨⟨m, Table.mem_deleteWhere.2 ⟨hm, ?_⟩, hy⟩, ?_⟩
    · rw [decide_eq_false_iff_not, hkey.1]
      exact hne
    · intro m' hm' hx
      rw [decide_eq_true_eq] at hx
      obtain rfl := owners.eq_of_key_eq hm' hm (hx.2.trans hkey.2.symm)
      exact hne (hkey.1.symm.trans hx.1)

theorem dropped_owners {α : Type} {key : α → Uuid} (owners : Table key) (exchange : α → Uuid)
    {x y : Uuid} (hne : y ≠ x) :
    ((owners.deleteWhere fun m => decide (exchange m = x)).rows.filter fun m =>
      decide (exchange m = y)) = owners.rows.filter fun m => decide (exchange m = y) := by
  show ((owners.rows.filter fun m => !decide (exchange m = x)).filter _) = _
  rw [List.filter_filter]
  apply List.filter_congr
  intro m _
  by_cases hy : exchange m = y
  · have hx : ¬ exchange m = x := fun hx => hne (hy.symm.trans hx)
    simp [hy, hne]
  · simp [hy]

theorem contentOf_dropContent {s : Tables} {x y : Uuid} (hne : y ≠ x) :
    (s.dropContent x).contentOf y = s.contentOf y := by
  unfold Tables.contentOf
  have hmessages := dropped_owners s.messages (·.exchange_id) hne
  have hparts := dropped_parts s.messages (·.exchange_id) s.messageParts hne
  have hartifacts := dropped_owners s.artifacts (·.exchange_id) hne
  have hartifactParts := dropped_parts s.artifacts (·.exchange_id) s.artifactParts hne
  exact congr (congrArg Prod.mk hmessages)
    (congr (congrArg Prod.mk hparts) (congr (congrArg Prod.mk hartifacts) hartifactParts))

section Removal

variable [Externals] {s : Tables} {runtime : String} {claim : CleanupClaim} {now : DateTime}

theorem cleanClaim_step : CleanStep s (cleanClaim runtime claim now s).2 := by
  unfold cleanClaim
  split
  · have hdrop : CleanStep s (s.dropContent claim.exchange_id) :=
      ⟨⟨id, (List.map_id _).symm, fun e _ => .same e⟩, fun _ h => h, rfl⟩
    apply hdrop.trans
    apply CleanStep.updated
    intro e _ _
    exact ⟨rfl, rfl, fun _ => rfl, Nat.zero_le _, fun _ _ _ => Or.inl rfl⟩
  · exact .refl s

/-- **Content goes by a claim that holds**, and with it the exchange becomes cleaned. -/
theorem cleanClaim_removes {x : Uuid} (h : Removes s (cleanClaim runtime claim now s).2 x) :
    claim.exchange_id = x ∧ (∃ e ∈ s.exchanges.rows, claim.holds runtime s e = true) ∧
      s.cleanedUp x = false ∧ (cleanClaim runtime claim now s).2.cleanedUp x = true := by
  by_cases hholds : s.exchanges.rows.any (claim.holds runtime s) = true
  · have hrow := hholds
    rw [List.any_eq_true] at hrow
    obtain ⟨e, he, hclaim⟩ := hrow
    have hfields := hclaim
    unfold CleanupClaim.holds at hfields
    rw [Bool.and_eq_true, Bool.and_eq_true, decide_eq_true_eq] at hfields
    have hbefore : s.cleanedUp claim.exchange_id = false := by
      rw [Bool.eq_false_iff]
      intro hcleaned
      unfold Tables.cleanedUp at hcleaned
      rw [List.any_eq_true] at hcleaned
      obtain ⟨e', he', hkey⟩ := hcleaned
      rw [decide_eq_true_eq] at hkey
      obtain rfl := s.exchanges.eq_of_key_eq he' he (hkey.1.trans hfields.1.1.1.symm)
      rw [hkey.2] at hfields
      exact absurd hfields.1.1.2.1 (by decide)
    have hsame : claim.exchange_id = x := by
      by_contra hne
      unfold cleanClaim at h
      rw [if_pos hholds] at h
      rcases h with hcontent | ⟨huncleaned, hcleaned⟩
      · exact hcontent (contentOf_dropContent fun hx => hne hx.symm)
      · unfold Tables.cleanedUp at hcleaned huncleaned
        rw [List.any_eq_true] at hcleaned
        obtain ⟨e', he', hkey⟩ := hcleaned
        rw [decide_eq_true_eq] at hkey
        rcases mem_updateExchanges.1 he' with ⟨e₁, -, hp, rfl⟩ | ⟨hmem, -⟩
        · rw [Bool.and_eq_true, decide_eq_true_eq] at hp
          exact hne (hp.1.1.symm.trans hkey.1)
        · rw [List.any_eq_false] at huncleaned
          apply huncleaned e' hmem
          rw [decide_eq_true_eq]
          exact hkey
    refine ⟨hsame, ⟨e, he, hclaim⟩, hsame ▸ hbefore, ?_⟩
    unfold cleanClaim
    rw [if_pos hholds]
    unfold Tables.cleanedUp
    rw [List.any_eq_true]
    refine ⟨e.cleaned now, mem_updateExchanges.2 (Or.inl ⟨e, he, ?_, rfl⟩), ?_⟩
    · rw [Bool.and_eq_true, decide_eq_true_eq]
      exact ⟨⟨hfields.1.1.1, hfields.1.1.2.2.1, hfields.1.1.2.2.2⟩, hfields.2⟩
    · rw [decide_eq_true_eq]
      exact ⟨hfields.1.1.1.trans hsame, rfl⟩
  · have hsame : (cleanClaim runtime claim now s).2 = s := by
      unfold cleanClaim
      rw [if_neg hholds]
    rw [hsame] at h
    exact absurd h ((ContentKept.refl s).not_removes x)

end Removal

/-! ### One move -/

section Moves

variable [Externals] {s : Tables}

omit [Externals] in
/-- A runtime that has stopped is not written again. -/
theorem updateInstance_stopped {p : RuntimeInstanceRow → Bool}
    {f : RuntimeInstanceRow → RuntimeInstanceRow}
    {hf : ∀ r, (f r).instance_token = r.instance_token} {db : Db} {token : String}
    (hp : ∀ r, p r = true → r.state ≠ .stopped)
    (h : db.stoppedInstance (some token) = true) :
    (updateInstance p f hf db).2.stoppedInstance (some token) = true := by
  unfold Db.stoppedInstance at h ⊢
  rw [List.any_eq_true] at h ⊢
  obtain ⟨r, hr, hstopped⟩ := h
  have hunselected : p r = false := by
    rw [Bool.eq_false_iff]
    intro hselected
    rw [decide_eq_true_eq] at hstopped
    exact hp r hselected hstopped.2
  have hmem : r ∈ (db.runtimeInstances.updateWhere p f hf).rows :=
    Table.mem_updateWhere.2 (Or.inr ⟨hr, hunselected⟩)
  exact ⟨r, hmem, hstopped⟩

omit [Externals] in
theorem beginRuntime_stopped {token fingerprint now runtime : String} {db : Db}
    (h : db.stoppedInstance (some runtime) = true) :
    (beginRuntime token fingerprint now db).2.stoppedInstance (some runtime) = true := by
  unfold beginRuntime
  split
  · exact h
  · split
    · rename_i t hinsert
      unfold Db.stoppedInstance at h ⊢
      rw [List.any_eq_true] at h ⊢
      obtain ⟨r, hr, hstopped⟩ := h
      refine ⟨r, ?_, hstopped⟩
      show r ∈ t.rows
      exact (Table.mem_insert hinsert).mpr (Or.inl hr)
    · exact h

theorem besideCleanup_step (o : BesideCleanup) : CleanStep s (besideCleanup o s) := by
  cases o with
  | beginRuntime token fingerprint now =>
    apply CleanStep.instances
    · intro runtime h
      exact beginRuntime_stopped h
    · obtain ⟨t, ht⟩ := beginRuntime_frame token fingerprint now s.db
      rw [ht]
  | stoppingRuntime token now =>
    apply CleanStep.instances
    · intro runtime h
      apply updateInstance_stopped _ h
      intro r hp hstopped
      rw [decide_eq_true_eq, hstopped] at hp
      exact absurd hp.2 (by decide)
    · rfl
  | stopRuntime token now =>
    apply CleanStep.instances
    · intro runtime h
      apply updateInstance_stopped _ h
      intro r hp hstopped
      rw [decide_eq_true_eq, hstopped] at hp
      exact absurd hp.2 (by decide)
    · rfl
  | heartbeatRuntime token now =>
    apply CleanStep.instances
    · intro runtime h
      apply updateInstance_stopped _ h
      intro r hp hstopped
      rw [decide_eq_true_eq, hstopped] at hp
      exact absurd hp.2 (by decide)
    · rfl
  | projectTaskTerminal internal_task_id => exact (projected_kept _).1
  | retainedTerminalBytes => exact reconciled_kept.1
  | claimCleanup runtime before limit now =>
    exact (claimCleanup_spec runtime before limit now s).1
  | cleanClaim runtime claim now => exact cleanClaim_step

/-- Of what the rest of the world does only `clean_claim` removes content. -/
theorem besideCleanup_removes {o : BesideCleanup} {x : Uuid}
    (h : Removes s (besideCleanup o s) x) : ∃ runtime claim now,
      o = .cleanClaim runtime claim now ∧ Removes s (cleanClaim runtime claim now s).2 x := by
  have hkept : ∀ s', ContentKept s s' → Removes s s' x → False :=
    fun s' hkept => hkept.not_removes x
  have hinstances : ∀ db, ContentKept s { s with db := db } := fun _ => ⟨fun _ => rfl, fun _ => id⟩
  cases o with
  | beginRuntime token fingerprint now => exact absurd h (hkept _ (hinstances _))
  | stoppingRuntime token now => exact absurd h (hkept _ (hinstances _))
  | stopRuntime token now => exact absurd h (hkept _ (hinstances _))
  | heartbeatRuntime token now => exact absurd h (hkept _ (hinstances _))
  | projectTaskTerminal internal_task_id => exact absurd h (hkept _ (projected_kept _).2)
  | retainedTerminalBytes => exact absurd h (hkept _ reconciled_kept.2)
  | claimCleanup runtime before limit now =>
    exact absurd h (hkept _ (claimCleanup_spec runtime before limit now s).2.1)
  | cleanClaim runtime claim now => exact ⟨runtime, claim, now, rfl, h⟩

omit [Externals] in
/-- A relation between the tables that an unanswered statement keeps. -/
theorem statement_rel {α : Type} {R : Tables → Prop} {answer : Answer}
    {f : Tables → Except A2aError α × Tables} (hsame : R s) (heffect : R (f s).2) :
    R (statement answer f s).2 := by
  rcases statement_store answer f s with h | h
  · rw [h]
    exact hsame
  · rw [h]
    exact heffect

/-- The store after a claim of a batch. -/
theorem claimBatch_store (c : CleanupLoop) (i : CleanupInput) :
    CleanStep s (c.claimBatch i s).2 ∧ ContentKept s (c.claimBatch i s).2 := by
  have hclaim := claimCleanup_spec c.runtime i.now c.policy.batch i.now s
  unfold CleanupLoop.claimBatch
  cases c.policy.ttl with
  | none => exact ⟨.refl s, .refl s⟩
  | some ttl =>
    exact statement_rel (R := fun s' => CleanStep s s' ∧ ContentKept s s') ⟨.refl s, .refl s⟩
      ⟨hclaim.1, hclaim.2.1⟩

theorem advance_cleanStep (index : Nat) (i : CleanupInput) (c : CleanupLoop) :
    CleanStep s (c.advance index i s).2.1 := by
  unfold CleanupLoop.advance
  split
  · exact .refl s
  · dsimp only
    unfold CleanupLoop.step
    cases c.phase with
    | retaining => exact statement_rel (R := CleanStep s) (.refl s) reconciled_kept.1
    | claiming => exact (claimBatch_store c i).1
    | cleaning claim rest => exact statement_rel (R := CleanStep s) (.refl s) cleanClaim_step
    | checking => exact statement_rel (R := CleanStep s) (.refl s) reconciled_kept.1
    | returned result => exact .refl s

/-- Of the steps of a loop only `clean_claim` removes content. -/
theorem advance_removes {index : Nat} {i : CleanupInput} {c : CleanupLoop} {x : Uuid}
    (h : Removes s (c.advance index i s).2.1 x) : ∃ claim rest, c.phase = .cleaning claim rest ∧
      Removes s (cleanClaim c.runtime claim i.now s).2 x := by
  have hkept : ∀ s', ContentKept s s' → Removes s s' x → False :=
    fun s' hkept => hkept.not_removes x
  unfold CleanupLoop.advance at h
  split at h
  · exact absurd h (hkept _ (.refl s))
  · dsimp only at h
    unfold CleanupLoop.step at h
    cases hphase : c.phase with
    | retaining =>
      rw [hphase] at h
      exact absurd h (hkept _ (statement_rel (R := ContentKept s) (.refl s) reconciled_kept.2))
    | claiming =>
      rw [hphase] at h
      exact absurd h (hkept _ (claimBatch_store c i).2)
    | cleaning claim rest =>
      rw [hphase] at h
      refine ⟨claim, rest, rfl, ?_⟩
      rcases statement_store i.answer (cleanClaim c.runtime claim i.now) s with hs | hs
      · dsimp only at h
        rw [hs] at h
        exact absurd h (hkept _ (.refl s))
      · dsimp only at h
        rw [hs] at h
        exact h
    | checking =>
      rw [hphase] at h
      exact absurd h (hkept _ (statement_rel (R := ContentKept s) (.refl s) reconciled_kept.2))
    | returned result =>
      rw [hphase] at h
      exact absurd h (hkept _ (.refl s))

end Moves

/-! ### The progress of a loop -/

/-- The exchanges that the loop in a place has claimed. -/
def claimedBy (index : Nat) (log : List CleanupEvent) : List Uuid :=
  log.filterMap fun
    | .claimed i exchange_id => if i = index then some exchange_id else none
    | _ => none

/-- The steps of the loop in a place. -/
def workedBy (index : Nat) (log : List CleanupEvent) : Nat := log.count (.worked index)

def CleanupEvent.index : CleanupEvent → Nat
  | .worked i => i
  | .claimed i _ => i
  | .exhausted i => i

/-- The steps of a batch that are still to come. -/
def CleanupPhase.owed : CleanupPhase → Nat
  | .cleaning _ rest => rest.length + 1
  | _ => 0

/-- The steps since the last batch. -/
def CleanupPhase.spent : CleanupPhase → Nat
  | .retaining => 0
  | .claiming => 1
  | .cleaning _ _ => 0
  | .checking => 2
  | .returned _ => 3

/-- **The measure of a loop**: each exchange that it has claimed, once and for all, pays for
three steps. -/
structure LoopInv (index : Nat) (c : CleanupLoop) (s : Tables) (log : List CleanupEvent) :
    Prop where
  held : ∀ x ∈ claimedBy index log, s.Held c.runtime x
  nodup : (claimedBy index log).Nodup
  paid : workedBy index log + c.phase.owed ≤ 3 * (claimedBy index log).length + c.phase.spent
  checked : c.phase = .checking → (retainedTerminalBytes s).1 ≤ c.policy.low_watermark ∨
    .exhausted index ∈ log

theorem claimedBy_append (index : Nat) (log events : List CleanupEvent) :
    claimedBy index (log ++ events) = claimedBy index log ++ claimedBy index events :=
  List.filterMap_append

theorem workedBy_append (index : Nat) (log events : List CleanupEvent) :
    workedBy index (log ++ events) = workedBy index log + workedBy index events :=
  List.count_append

/-- What the events of other loops add. -/
theorem beside_events {index : Nat} {events : List CleanupEvent}
    (h : ∀ e ∈ events, e.index ≠ index) :
    claimedBy index events = [] ∧ workedBy index events = 0 := by
  constructor
  · unfold claimedBy
    rw [List.filterMap_eq_nil_iff]
    intro e he
    have hindex := h e he
    cases e with
    | worked i => rfl
    | claimed i x => exact if_neg hindex
    | exhausted i => rfl
  · unfold workedBy
    rw [List.count_eq_zero]
    intro hmem
    exact h _ hmem rfl

theorem claimedBy_notes {index : Nat} (claims : List CleanupClaim) :
    claimedBy index (CleanupLoop.notes index (.ok claims)) = claims.map (·.exchange_id) := by
  cases claims with
  | nil => rfl
  | cons claim rest =>
    show (List.map (fun claim => CleanupEvent.claimed index claim.exchange_id)
      (claim :: rest)).filterMap _ = _
    rw [List.filterMap_map]
    rw [← List.filterMap_eq_map]
    apply List.filterMap_congr
    intro a _
    exact if_pos rfl

theorem workedBy_notes {index : Nat} (result : Except A2aError (List CleanupClaim)) :
    workedBy index (CleanupLoop.notes index result) = 0 := by
  unfold workedBy
  rw [List.count_eq_zero]
  intro hmem
  cases result with
  | error error => exact absurd hmem List.not_mem_nil
  | ok claims =>
    cases claims with
    | nil => exact absurd hmem (by simp [CleanupLoop.notes])
    | cons claim rest => exact absurd hmem (by simp [CleanupLoop.notes])

/-- A batch that was claimed is one of fresh exchanges. -/
theorem claimBatch_ok [Externals] {c : CleanupLoop} {i : CleanupInput} {s : Tables}
    {claims : List CleanupClaim} (h : (c.claimBatch i s).1 = .ok claims) :
    (c.claimBatch i s).2 = (claimCleanup c.runtime i.now c.policy.batch i.now s).2 ∧
      (claimCleanup c.runtime i.now c.policy.batch i.now s).1 = .ok claims := by
  unfold CleanupLoop.claimBatch at h ⊢
  cases httl : c.policy.ttl with
  | none =>
    rw [httl] at h
    cases h
  | some ttl =>
    rw [httl] at h
    dsimp only at h ⊢
    have hok := statement_ok h
    rw [hok] at h ⊢
    exact ⟨rfl, h⟩

section Progress

variable [Externals] {s : Tables} {log : List CleanupEvent} {index : Nat} {c : CleanupLoop}

omit [Externals] in
/-- A step that claims nothing. -/
theorem LoopInv.worked (h : LoopInv index c s log) {s' : Tables} (hstep : CleanStep s s')
    {phase : CleanupPhase} {events : List CleanupEvent}
    (hclaims : claimedBy index events = []) (hworked : workedBy index events = 0)
    (hphase : c.phase.spent + 1 + phase.owed ≤ phase.spent + c.phase.owed)
    (hchecked : phase = .checking → (retainedTerminalBytes s').1 ≤ c.policy.low_watermark ∨
      .exhausted index ∈ events) :
    LoopInv index { c with phase := phase } s' (log ++ .worked index :: events) := by
  have hids : claimedBy index (log ++ .worked index :: events) = claimedBy index log := by
    rw [claimedBy_append]
    show claimedBy index log ++ claimedBy index events = claimedBy index log
    rw [hclaims, List.append_nil]
  have hcount : workedBy index (log ++ .worked index :: events) = workedBy index log + 1 := by
    rw [workedBy_append]
    show workedBy index log + (CleanupEvent.worked index :: events).count (.worked index) = _
    rw [List.count_cons_self]
    show workedBy index log + (workedBy index events + 1) = _
    rw [hworked]
  constructor
  · intro x hx
    rw [hids] at hx
    exact hstep.held (h.held x hx)
  · rw [hids]
    exact h.nodup
  · rw [hids, hcount]
    have hpaid := h.paid
    show workedBy index log + 1 + phase.owed ≤ 3 * (claimedBy index log).length + phase.spent
    omega
  · intro hphase
    rcases hchecked hphase with hretained | hmem
    · exact Or.inl hretained
    · exact Or.inr (List.mem_append_right _ (List.mem_cons_of_mem _ hmem))

/-- A step that claims a batch. -/
theorem LoopInv.claims (h : LoopInv index c s log) (hphase : c.phase = .claiming)
    {i : CleanupInput} {claim : CleanupClaim} {rest : List CleanupClaim}
    (hclaims : (c.claimBatch i s).1 = .ok (claim :: rest)) :
    LoopInv index { c with phase := .cleaning claim rest } (c.claimBatch i s).2
      (log ++ .worked index :: CleanupLoop.notes index (.ok (claim :: rest))) := by
  obtain ⟨hstore, hresult⟩ := claimBatch_ok hclaims
  obtain ⟨hstep, -, hspec⟩ := claimCleanup_spec c.runtime i.now c.policy.batch i.now s
  obtain ⟨hnodup, hfresh⟩ := hspec _ hresult
  rw [hstore]
  have hids : claimedBy index (log ++ .worked index :: CleanupLoop.notes index
      (.ok (claim :: rest))) = claimedBy index log ++ (claim :: rest).map (·.exchange_id) := by
    rw [claimedBy_append]
    show claimedBy index log ++ claimedBy index (CleanupLoop.notes index (.ok (claim :: rest))) = _
    rw [claimedBy_notes]
  have hcount : workedBy index (log ++ .worked index :: CleanupLoop.notes index
      (.ok (claim :: rest))) = workedBy index log + 1 := by
    rw [workedBy_append]
    show workedBy index log + (CleanupEvent.worked index :: CleanupLoop.notes index
      (.ok (claim :: rest))).count (.worked index) = _
    rw [List.count_cons_self]
    show workedBy index log + (workedBy index (CleanupLoop.notes index (.ok (claim :: rest))) + 1) =
      _
    rw [workedBy_notes]
  constructor
  · intro x hx
    rw [hids, List.mem_append] at hx
    rcases hx with hold | hnew
    · exact hstep.held (h.held x hold)
    · obtain ⟨a, ha, rfl⟩ := List.mem_map.mp hnew
      exact (hfresh a ha).2.2
  · rw [hids, List.nodup_append]
    refine ⟨h.nodup, hnodup, ?_⟩
    intro x hx y hy hsame
    obtain ⟨a, ha, rfl⟩ := List.mem_map.mp hy
    rw [hsame] at hx
    exact (hfresh a ha).2.1 (h.held _ hx)
  · rw [hids, hcount]
    have hpaid := h.paid
    rw [hphase] at hpaid
    simp only [CleanupPhase.owed, CleanupPhase.spent, List.length_append, List.length_map,
      List.length_cons] at hpaid ⊢
    omega
  · intro hchecking
    cases hchecking

/-- **A step of the loop is paid for.** -/
theorem LoopInv.advance (h : LoopInv index c s log) (i : CleanupInput) :
    LoopInv index (c.advance index i s).1 (c.advance index i s).2.1
      (log ++ (c.advance index i s).2.2) := by
  have hstep := advance_cleanStep (s := s) index i c
  unfold CleanupLoop.advance at hstep ⊢
  by_cases hreturned : c.returned = true
  · rw [if_pos hreturned, List.append_nil]
    exact h
  · rw [if_neg hreturned] at hstep ⊢
    dsimp only at hstep ⊢
    unfold CleanupLoop.step at hstep ⊢
    cases hphase : c.phase with
    | retaining =>
      rw [hphase] at hstep
      dsimp only at hstep ⊢
      cases hresult : (statement i.answer retainedBytes s).1 with
      | error error =>
        apply h.worked hstep rfl rfl
        · rw [hphase]
          show 0 + 1 + 0 ≤ 3 + 0
          omega
        · intro hchecking
          cases hchecking
      | ok bytes =>
        have hbytes : bytes = (retainedTerminalBytes s).1 := by
          rw [statement_ok hresult] at hresult
          exact (Except.ok.inj hresult).symm
        by_cases hover : c.policy.low_watermark < bytes
        · have hnext : CleanupLoop.afterRetained c.policy.low_watermark (.ok bytes) = .claiming :=
            if_pos hover
          rw [hnext]
          apply h.worked hstep rfl rfl
          · rw [hphase]
            decide
          · intro hchecking
            cases hchecking
        · have hnext : CleanupLoop.afterRetained c.policy.low_watermark (.ok bytes) = .checking :=
            if_neg hover
          rw [hnext]
          apply h.worked hstep rfl rfl
          · rw [hphase]
            decide
          · intro _
            have hretained := hstep.retained_le
            exact Or.inl (by omega)
    | claiming =>
      rw [hphase] at hstep
      dsimp only at hstep ⊢
      cases hresult : (c.claimBatch i s).1 with
      | error error =>
        apply h.worked hstep rfl rfl
        · rw [hphase]
          show 1 + 1 + 0 ≤ 3 + 0
          omega
        · intro hchecking
          cases hchecking
      | ok claims =>
        cases claims with
        | nil =>
          apply h.worked hstep rfl (workedBy_notes _)
          · rw [hphase]
            decide
          · intro _
            exact Or.inr List.mem_cons_self
        | cons claim rest => exact h.claims hphase hresult
    | cleaning claim rest =>
      rw [hphase] at hstep
      dsimp only at hstep ⊢
      cases hresult : (statement i.answer (cleanClaim c.runtime claim i.now) s).1 with
      | error error =>
        apply h.worked hstep rfl rfl
        · rw [hphase]
          show 0 + 1 + 0 ≤ 3 + (rest.length + 1)
          omega
        · intro hchecking
          cases hchecking
      | ok done =>
        cases rest with
        | nil =>
          apply h.worked hstep rfl rfl
          · rw [hphase]
            show 0 + 1 + 0 ≤ 0 + 1
            omega
          · intro hchecking
            cases hchecking
        | cons next rest =>
          apply h.worked hstep rfl rfl
          · rw [hphase]
            show 0 + 1 + (rest.length + 1) ≤ 0 + ((next :: rest).length + 1)
            rw [List.length_cons]
            omega
          · intro hchecking
            cases hchecking
    | checking =>
      rw [hphase] at hstep
      dsimp only at hstep ⊢
      have hnext : ∀ result, CleanupLoop.afterCheck c.policy.byte_ceiling result ≠ .checking ∧
          (CleanupLoop.afterCheck c.policy.byte_ceiling result).spent = 3 ∧
          (CleanupLoop.afterCheck c.policy.byte_ceiling result).owed = 0 := by
        intro result
        cases result with
        | error error => exact ⟨nofun, rfl, rfl⟩
        | ok bytes =>
          unfold CleanupLoop.afterCheck
          dsimp only
          split
          · exact ⟨nofun, rfl, rfl⟩
          · exact ⟨nofun, rfl, rfl⟩
      obtain ⟨hother, hspent, howed⟩ := hnext (statement i.answer retainedBytes s).1
      apply h.worked hstep rfl rfl
      · rw [hphase, hspent, howed]
        decide
      · intro hchecking
        exact absurd hchecking hother
    | returned result =>
      unfold CleanupLoop.returned at hreturned
      rw [hphase] at hreturned
      exact absurd rfl hreturned

end Progress

/-! ### A run -/

section Run

variable [Externals]

theorem cleanup_succ (s : Tables) {moves : List CleanupMove} {n : Nat} {m : CleanupMove}
    (h : moves[n]? = some m) : cleanupAt s moves (n + 1) =
      cleanupSystem.move (cleanupAt s moves n) m.move := by
  have hmoves : (moves.map CleanupMove.move)[n]? = some m.move := by
    rw [List.getElem?_map, h]
    rfl
  exact System.worldAt_succ hmoves

theorem cleanup_end (s : Tables) {moves : List CleanupMove} {n : Nat} (h : moves[n]? = none) :
    cleanupAt s moves (n + 1) = cleanupAt s moves n := by
  have hmoves : (moves.map CleanupMove.move)[n]? = none := by
    rw [List.getElem?_map, h]
    rfl
  exact System.worldAt_end hmoves

/-- What every move keeps, over moves of a run. -/
theorem cleanup_invariant {s : Tables} {moves : List CleanupMove}
    (P : World Tables CleanupLoop CleanupEvent → Prop) (hinit : P ⟨s, [], []⟩)
    (hmove : ∀ w m, P w → P (cleanupSystem.move w (CleanupMove.move m))) (n : Nat) :
    P (cleanupAt s moves n) := by
  induction n with
  | zero => exact hinit
  | succ n ih =>
    cases hm : moves[n]? with
    | none =>
      rw [cleanup_end s hm]
      exact ih
    | some m =>
      rw [cleanup_succ s hm]
      exact hmove _ m ih

/-- What a move does to the tables. -/
theorem move_cleanStep (w : World Tables CleanupLoop CleanupEvent) (m : CleanupMove) :
    CleanStep w.store (cleanupSystem.move w m.move).store := by
  cases m with
  | startCleanup runtime policy => exact .refl _
  | advance index input =>
    cases hc : w.procs[index]? with
    | none =>
      have hsame : cleanupSystem.move w (.advance index input) = w :=
        System.move_advance_none hc
      show CleanStep w.store (cleanupSystem.move w (.advance index input)).store
      rw [hsame]
      exact .refl _
    | some c =>
      show CleanStep w.store (cleanupSystem.move w (.advance index input)).store
      rw [System.move_advance_some hc]
      exact advance_cleanStep index input c
  | beside o => exact besideCleanup_step o

theorem cleanupAt_step (s : Tables) (moves : List CleanupMove) {k n : Nat} (h : k ≤ n) :
    CleanStep (cleanupAt s moves k).store (cleanupAt s moves n).store := by
  induction h with
  | refl => exact .refl _
  | @step n hn ih =>
    cases hm : moves[n]? with
    | none =>
      rw [cleanup_end s hm]
      exact ih
    | some m =>
      rw [cleanup_succ s hm]
      exact ih.trans (move_cleanStep _ m)

/-- **A removal is the work of the holder of a claim.** -/
theorem move_removes {w : World Tables CleanupLoop CleanupEvent} {m : CleanupMove} {x : Uuid}
    (h : Removes w.store (cleanupSystem.move w m.move).store x) :
    (∃ runtime claim, m.Cleans w runtime claim ∧ claim.exchange_id = x ∧
      ∃ e ∈ w.store.exchanges.rows, claim.holds runtime w.store e = true) ∧
    w.store.cleanedUp x = false ∧ (cleanupSystem.move w m.move).store.cleanedUp x = true := by
  have hnone : ¬ Removes w.store w.store x := (ContentKept.refl _).not_removes x
  -- a removal leaves its mark, whatever statement it was
  have hmark : ∀ s', Removes w.store s' x → w.store.cleanedUp x = false →
      ∀ runtime claim now, s' = (cleanClaim runtime claim now w.store).2 →
      s'.cleanedUp x = true := by
    intro s' hremoves _ runtime claim now hs
    rw [hs] at hremoves ⊢
    exact (cleanClaim_removes hremoves).2.2.2
  cases m with
  | startCleanup runtime policy => exact absurd h hnone
  | advance index input =>
    cases hc : w.procs[index]? with
    | none =>
      have hsame : cleanupSystem.move w (.advance index input) = w :=
        System.move_advance_none hc
      change Removes w.store (cleanupSystem.move w (.advance index input)).store x at h
      rw [hsame] at h
      exact absurd h hnone
    | some c =>
      change Removes w.store (cleanupSystem.move w (.advance index input)).store x at h
      show _ ∧ _ ∧ (cleanupSystem.move w (.advance index input)).store.cleanedUp x = true
      rw [System.move_advance_some hc] at h ⊢
      obtain ⟨claim, rest, hphase, hremoves⟩ := advance_removes h
      obtain ⟨hclaim, hholds, hbefore, -⟩ := cleanClaim_removes hremoves
      refine ⟨⟨c.runtime, claim, ⟨c, rest, hc, rfl, hphase⟩, hclaim, hholds⟩, hbefore, ?_⟩
      have hadvance : (c.advance index input w.store).2.1 =
          (statement input.answer (cleanClaim c.runtime claim input.now) w.store).2 := by
        unfold CleanupLoop.advance CleanupLoop.returned CleanupLoop.step
        rw [hphase]
        rfl
      change Removes w.store (c.advance index input w.store).2.1 x at h
      show (c.advance index input w.store).2.1.cleanedUp x = true
      rcases statement_store input.answer (cleanClaim c.runtime claim input.now) w.store
        with hs | hs
      · rw [hadvance, hs] at h
        exact absurd h hnone
      · exact hmark _ h hbefore c.runtime claim input.now (hadvance.trans hs)
  | beside o =>
    obtain ⟨runtime, claim, now, rfl, hremoves⟩ := besideCleanup_removes h
    obtain ⟨hclaim, hholds, hbefore, hafter⟩ := cleanClaim_removes hremoves
    exact ⟨⟨runtime, claim, ⟨rfl, rfl⟩, hclaim, hholds⟩, hbefore, hafter⟩

omit [Externals] in
theorem LoopInv.beside {index : Nat} {c : CleanupLoop} {s s' : Tables}
    {log events : List CleanupEvent} (h : LoopInv index c s log) (hstep : CleanStep s s')
    (hevents : ∀ e ∈ events, e.index ≠ index) : LoopInv index c s' (log ++ events) := by
  obtain ⟨hclaims, hworked⟩ := beside_events hevents
  have hids : claimedBy index (log ++ events) = claimedBy index log := by
    rw [claimedBy_append, hclaims, List.append_nil]
  have hcount : workedBy index (log ++ events) = workedBy index log := by
    rw [workedBy_append, hworked]
    rfl
  constructor
  · intro x hx
    rw [hids] at hx
    exact hstep.held (h.held x hx)
  · rw [hids]
    exact h.nodup
  · rw [hids, hcount]
    exact h.paid
  · intro hphase
    rcases h.checked hphase with hretained | hmem
    · exact Or.inl (Nat.le_trans hstep.retained_le hretained)
    · exact Or.inr (List.mem_append_left _ hmem)

omit [Externals] in
theorem notes_index {index : Nat} {result : Except A2aError (List CleanupClaim)}
    {e : CleanupEvent} (h : e ∈ CleanupLoop.notes index result) : e.index = index := by
  cases result with
  | error error => exact absurd h List.not_mem_nil
  | ok claims =>
    cases claims with
    | nil =>
      obtain rfl := List.mem_singleton.mp h
      rfl
    | cons claim rest =>
      obtain ⟨a, -, rfl⟩ := List.mem_map.mp h
      rfl

theorem advance_index {index : Nat} {i : CleanupInput} {c : CleanupLoop} {s : Tables}
    {e : CleanupEvent} (h : e ∈ (c.advance index i s).2.2) : e.index = index := by
  unfold CleanupLoop.advance at h
  split at h
  · exact absurd h List.not_mem_nil
  · rcases List.mem_cons.mp h with rfl | hmem
    · rfl
    · unfold CleanupLoop.step at hmem
      split at hmem
      · exact absurd hmem List.not_mem_nil
      · exact notes_index hmem
      · exact absurd hmem List.not_mem_nil
      · exact absurd hmem List.not_mem_nil
      · exact absurd hmem List.not_mem_nil

/-- Every loop keeps its measure, and the log is about loops that were started. -/
structure CleanupInv (w : World Tables CleanupLoop CleanupEvent) : Prop where
  loops : ∀ i c, w.procs[i]? = some c → LoopInv i c w.store w.log
  started : ∀ e ∈ w.log, e.index < w.procs.length

theorem CleanupInv.move {w : World Tables CleanupLoop CleanupEvent} (h : CleanupInv w)
    (m : CleanupMove) : CleanupInv (cleanupSystem.move w m.move) := by
  have hstep := move_cleanStep w m
  cases m with
  | startCleanup runtime policy =>
    constructor
    · intro i c hc
      change (w.procs ++ [⟨runtime, policy, .retaining⟩])[i]? = some c at hc
      by_cases hi : i < w.procs.length
      · rw [List.getElem?_append_left hi] at hc
        exact h.loops i c hc
      · -- a loop that starts finds nothing of its own in the log
        have hnew : ∀ e ∈ w.log, e.index ≠ i := by
          intro e he
          have hlt := h.started e he
          omega
        obtain ⟨hclaims, hworked⟩ := beside_events hnew
        rw [List.getElem?_append_right (by omega)] at hc
        have hphase : c.phase = .retaining := by
          rw [List.getElem?_singleton] at hc
          split at hc
          · rw [← Option.some.inj hc]
          · cases hc
        change LoopInv i c w.store w.log
        constructor
        · intro x hx
          rw [hclaims] at hx
          exact absurd hx List.not_mem_nil
        · rw [hclaims]
          exact List.nodup_nil
        · rw [hclaims, hworked, hphase]
          decide
        · intro hchecking
          rw [hphase] at hchecking
          cases hchecking
    · intro e he
      have hlt := h.started e he
      show e.index < (w.procs ++ [_]).length
      rw [List.length_append]
      omega
  | advance index input =>
    cases hc : w.procs[index]? with
    | none =>
      have hsame : cleanupSystem.move w (.advance index input) = w :=
        System.move_advance_none hc
      show CleanupInv (cleanupSystem.move w (.advance index input))
      rw [hsame]
      exact h
    | some c =>
      change CleanStep w.store (cleanupSystem.move w (.advance index input)).store at hstep
      show CleanupInv (cleanupSystem.move w (.advance index input))
      rw [System.move_advance_some hc] at hstep ⊢
      have hlt : index < w.procs.length := (List.getElem?_eq_some_iff.mp hc).1
      constructor
      · intro j d hd
        change (w.procs.set index _)[j]? = some d at hd
        by_cases hj : index = j
        · subst hj
          rw [List.getElem?_set_self hlt] at hd
          obtain rfl := Option.some.inj hd
          exact (h.loops index c hc).advance input
        · rw [List.getElem?_set_ne hj] at hd
          refine (h.loops j d hd).beside hstep ?_
          intro e he hindex
          exact hj ((advance_index he).symm.trans hindex)
      · intro e he
        show e.index < (w.procs.set index _).length
        rw [List.length_set]
        rcases List.mem_append.mp he with hold | hnew
        · exact h.started e hold
        · rw [advance_index hnew]
          exact hlt
  | beside o =>
    constructor
    · intro i c hc
      have hnone : ∀ e ∈ ([] : List CleanupEvent), e.index ≠ i := fun _ he =>
        absurd he List.not_mem_nil
      have hkept := (h.loops i c hc).beside hstep hnone
      rw [List.append_nil] at hkept
      exact hkept
    · exact h.started

theorem cleanupInv (s : Tables) (moves : List CleanupMove) (n : Nat) :
    CleanupInv (cleanupAt s moves n) := by
  apply cleanup_invariant
  · constructor
    · intro i c hc
      cases hc
    · intro e he
      exact absurd he List.not_mem_nil
  · intro w m h
    exact h.move m

/-! ### How a loop ends -/

/-- The answers of the statements of the loop. -/
theorem claimBatch_error {c : CleanupLoop} {i : CleanupInput} {s : Tables} {error : A2aError}
    (h : (c.claimBatch i s).1 = .error error) :
    error ≠ .recoveryNeeded ∧ (i.answer ≠ .ok ∨ c.policy.ttl = none) := by
  unfold CleanupLoop.claimBatch at h
  cases httl : c.policy.ttl with
  | none =>
    rw [httl] at h
    obtain rfl := Except.error.inj h
    exact ⟨nofun, Or.inr rfl⟩
  | some ttl =>
    rw [httl] at h
    cases hanswer : i.answer with
    | ok =>
      -- the batch of a validated policy is in range
      rw [hanswer] at h
      have hpos := c.policy.batch_pos
      have hle := c.policy.batch_le
      have hrange : ¬ (c.policy.batch = 0 ∨ 256 < c.policy.batch) := by omega
      change (claimCleanup c.runtime i.now c.policy.batch i.now s).1 = .error error at h
      unfold claimCleanup at h
      rw [if_neg hrange] at h
      cases h
    | failed =>
      rw [hanswer] at h
      obtain rfl := Except.error.inj h
      exact ⟨nofun, Or.inl nofun⟩
    | lost =>
      rw [hanswer] at h
      obtain rfl := Except.error.inj h
      exact ⟨nofun, Or.inl nofun⟩

omit [Externals] in
/-- A statement that cannot fail itself. -/
theorem statement_error {α : Type} {answer : Answer} {f : Tables → Except A2aError α × Tables}
    {s : Tables} {error : A2aError} {a : α} (hf : (f s).1 = .ok a)
    (h : (statement answer f s).1 = .error error) :
    error ≠ .recoveryNeeded ∧ answer ≠ .ok := by
  cases answer with
  | ok =>
    change (f s).1 = .error error at h
    rw [hf] at h
    cases h
  | failed =>
    obtain rfl := Except.error.inj h
    exact ⟨nofun, nofun⟩
  | lost =>
    obtain rfl := Except.error.inj h
    exact ⟨nofun, nofun⟩

/-- What a result of the loop says of the tables that its last step found. -/
def CleanupLoop.Ends (c : CleanupLoop) (i : CleanupInput) (s : Tables) :
    Except A2aError Unit → Prop
  | .ok () => (retainedTerminalBytes s).1 ≤ c.policy.byte_ceiling
  | .error .recoveryNeeded =>
    c.phase = .checking ∧ c.policy.byte_ceiling < (retainedTerminalBytes s).1
  | .error _ => i.answer ≠ .ok ∨ c.policy.ttl = none

omit [Externals] in
theorem ends_error {c : CleanupLoop} {i : CleanupInput} {s : Tables} {error : A2aError}
    (hne : error ≠ .recoveryNeeded) (h : i.answer ≠ .ok ∨ c.policy.ttl = none) :
    c.Ends i s (.error error) := by
  cases error with
  | recoveryNeeded => exact absurd rfl hne
  | _ => exact h

/-- **How the loop ends.** -/
theorem advance_ends {index : Nat} {i : CleanupInput} {c : CleanupLoop} {s : Tables}
    {result : Except A2aError Unit} (hrunning : c.returned = false)
    (h : (c.advance index i s).1.phase = .returned result) : c.Ends i s result := by
  have hrunning' : ¬ c.returned = true := by
    rw [hrunning]
    decide
  unfold CleanupLoop.advance at h
  rw [if_neg hrunning'] at h
  change (c.step index i s).1 = .returned result at h
  unfold CleanupLoop.step at h
  cases hphase : c.phase with
  | retaining =>
    rw [hphase] at h
    dsimp only at h
    cases hanswer : (statement i.answer retainedBytes s).1 with
    | error error =>
      rw [hanswer] at h
      obtain rfl := CleanupPhase.returned.inj h
      obtain ⟨hne, hfailed⟩ := statement_error rfl hanswer
      exact ends_error hne (Or.inl hfailed)
    | ok bytes =>
      rw [hanswer] at h
      unfold CleanupLoop.afterRetained at h
      dsimp only at h
      split at h
      · cases h
      · cases h
  | claiming =>
    rw [hphase] at h
    dsimp only at h
    cases hanswer : (c.claimBatch i s).1 with
    | error error =>
      rw [hanswer] at h
      obtain rfl := CleanupPhase.returned.inj h
      obtain ⟨hne, hfailed⟩ := claimBatch_error hanswer
      exact ends_error hne hfailed
    | ok claims =>
      rw [hanswer] at h
      cases claims with
      | nil => cases h
      | cons claim rest => cases h
  | cleaning claim rest =>
    rw [hphase] at h
    dsimp only at h
    have hvalue : ∃ done, (cleanClaim c.runtime claim i.now s).1 = .ok done := by
      unfold cleanClaim
      split
      · exact ⟨_, rfl⟩
      · exact ⟨_, rfl⟩
    obtain ⟨done, hdone⟩ := hvalue
    cases hanswer : (statement i.answer (cleanClaim c.runtime claim i.now) s).1 with
    | error error =>
      rw [hanswer] at h
      obtain rfl := CleanupPhase.returned.inj h
      obtain ⟨hne, hfailed⟩ := statement_error hdone hanswer
      exact ends_error hne (Or.inl hfailed)
    | ok done =>
      rw [hanswer] at h
      cases rest with
      | nil => cases h
      | cons next rest => cases h
  | checking =>
    rw [hphase] at h
    dsimp only at h
    cases hanswer : (statement i.answer retainedBytes s).1 with
    | error error =>
      rw [hanswer] at h
      obtain rfl := CleanupPhase.returned.inj h
      obtain ⟨hne, hfailed⟩ := statement_error rfl hanswer
      exact ends_error hne (Or.inl hfailed)
    | ok bytes =>
      have hbytes : bytes = (retainedTerminalBytes s).1 := by
        rw [statement_ok hanswer] at hanswer
        exact (Except.ok.inj hanswer).symm
      rw [hanswer] at h
      unfold CleanupLoop.afterCheck at h
      dsimp only at h
      split at h
      · rename_i hover
        obtain rfl := CleanupPhase.returned.inj h
        rw [hbytes] at hover
        exact ⟨hphase, hover⟩
      · rename_i hfits
        obtain rfl := CleanupPhase.returned.inj h
        show (retainedTerminalBytes s).1 ≤ c.policy.byte_ceiling
        omega
  | returned result =>
    unfold CleanupLoop.returned at hrunning
    rw [hphase] at hrunning
    cases hrunning

/-- A step that finds nothing to claim finds nothing that can be claimed. -/
theorem advance_exhausted {index : Nat} {i : CleanupInput} {c : CleanupLoop} {s : Tables}
    (h : .exhausted index ∈ (c.advance index i s).2.2) :
    s.activeRuntime c.runtime = false ∨ s.NothingLeft (Externals.toRfc3339 i.now) := by
  unfold CleanupLoop.advance at h
  split at h
  · exact absurd h List.not_mem_nil
  · rcases List.mem_cons.mp h with hworked | hmem
    · cases hworked
    · unfold CleanupLoop.step at hmem
      split at hmem
      · exact absurd hmem List.not_mem_nil
      · dsimp only at hmem
        cases hresult : (c.claimBatch i s).1 with
        | error error =>
          rw [hresult] at hmem
          exact absurd hmem List.not_mem_nil
        | ok claims =>
          cases claims with
          | nil => exact claimCleanup_nil (claimBatch_ok hresult).2
          | cons claim rest =>
            rw [hresult] at hmem
            exact absurd hmem (by simp [CleanupLoop.notes])
      · exact absurd hmem List.not_mem_nil
      · exact absurd hmem List.not_mem_nil
      · exact absurd hmem List.not_mem_nil

/-- A loop keeps its place, its runtime and its policy. -/
theorem cleanup_same {s : Tables} {moves : List CleanupMove} {k n index : Nat} (h : k ≤ n)
    {c : CleanupLoop} (hc : (cleanupAt s moves k).procs[index]? = some c) :
    ∃ c', (cleanupAt s moves n).procs[index]? = some c' ∧ c'.runtime = c.runtime ∧
      c'.policy = c.policy := by
  induction h with
  | refl => exact ⟨c, hc, rfl, rfl⟩
  | @step n hn ih =>
    obtain ⟨c', hc', hruntime, hpolicy⟩ := ih
    cases hm : moves[n]? with
    | none =>
      rw [cleanup_end s hm]
      exact ⟨c', hc', hruntime, hpolicy⟩
    | some m =>
      rw [cleanup_succ s hm]
      have hlt := (List.getElem?_eq_some_iff.mp hc').1
      cases m with
      | startCleanup runtime policy =>
        refine ⟨c', ?_, hruntime, hpolicy⟩
        show ((cleanupAt s moves n).procs ++ [_])[index]? = some c'
        rw [List.getElem?_append_left hlt]
        exact hc'
      | advance i input =>
        cases hd : (cleanupAt s moves n).procs[i]? with
        | none =>
          have hsame : cleanupSystem.move (cleanupAt s moves n) (.advance i input) =
              cleanupAt s moves n := System.move_advance_none hd
          refine ⟨c', ?_, hruntime, hpolicy⟩
          show (cleanupSystem.move (cleanupAt s moves n) (.advance i input)).procs[index]? = some c'
          rw [hsame]
          exact hc'
        | some d =>
          show ∃ c', (cleanupSystem.move (cleanupAt s moves n) (.advance i input)).procs[index]? =
            some c' ∧ _
          rw [System.move_advance_some hd]
          show ∃ c', ((cleanupAt s moves n).procs.set i _)[index]? = some c' ∧ _
          by_cases hi : i = index
          · subst hi
            rw [hc'] at hd
            obtain rfl := Option.some.inj hd
            rw [List.getElem?_set_self hlt]
            refine ⟨_, rfl, ?_, ?_⟩
            · show (c'.advance i input _).1.runtime = c.runtime
              unfold CleanupLoop.advance
              split
              · exact hruntime
              · exact hruntime
            · show (c'.advance i input _).1.policy = c.policy
              unfold CleanupLoop.advance
              split
              · exact hpolicy
              · exact hpolicy
          · rw [List.getElem?_set_ne hi]
            exact ⟨c', hc', hruntime, hpolicy⟩
      | beside o => exact ⟨c', hc', hruntime, hpolicy⟩

/-- Where the note comes from. -/
theorem exhausted_when {s : Tables} {moves : List CleanupMove} {n index : Nat}
    (h : .exhausted index ∈ (cleanupAt s moves n).log) : ∃ k < n, ∃ input c,
      moves[k]? = some (.advance index input) ∧
      (cleanupAt s moves k).procs[index]? = some c ∧
      ((cleanupAt s moves k).store.activeRuntime c.runtime = false ∨
        (cleanupAt s moves k).store.NothingLeft (Externals.toRfc3339 input.now)) := by
  induction n with
  | zero => exact absurd h List.not_mem_nil
  | succ n ih =>
    have hearlier : .exhausted index ∈ (cleanupAt s moves n).log → ∃ k < n + 1, ∃ input c,
        moves[k]? = some (.advance index input) ∧
        (cleanupAt s moves k).procs[index]? = some c ∧
        ((cleanupAt s moves k).store.activeRuntime c.runtime = false ∨
          (cleanupAt s moves k).store.NothingLeft (Externals.toRfc3339 input.now)) := by
      intro hlog
      obtain ⟨k, hk, hcase⟩ := ih hlog
      exact ⟨k, Nat.lt_succ_of_lt hk, hcase⟩
    cases hm : moves[n]? with
    | none =>
      rw [cleanup_end s hm] at h
      exact hearlier h
    | some m =>
      rw [cleanup_succ s hm] at h
      cases m with
      | startCleanup runtime policy => exact hearlier h
      | advance i input =>
        change .exhausted index ∈ (cleanupSystem.move (cleanupAt s moves n)
          (.advance i input)).log at h
        cases hd : (cleanupAt s moves n).procs[i]? with
        | none =>
          have hsame : cleanupSystem.move (cleanupAt s moves n) (.advance i input) =
              cleanupAt s moves n := System.move_advance_none hd
          rw [hsame] at h
          exact hearlier h
        | some d =>
          rw [System.move_advance_some hd] at h
          rcases List.mem_append.mp h with hold | hnew
          · exact hearlier hold
          · have hindex : index = i := advance_index hnew
            subst hindex
            exact ⟨n, Nat.lt_succ_self n, input, d, hm, hd, advance_exhausted hnew⟩
      | beside o => exact hearlier h

/-- **The cleanup is fenced, and every loop of it ends.**  Over any tables and every run: content
goes only by the call of an active runtime that owns the exchange's current claim, of an exchange
that has ended, and only once; a loop takes no more than three steps for each exchange; and it
returns with what is retained below the ceiling, or with `RecoveryNeeded` when at its last claim
nothing could be cleaned, unless a statement failed or the configured age is out of range. -/
theorem cleanup_fenced (s : Tables) (moves : List CleanupMove) :
    (∀ n x, Removes (cleanupAt s moves n).store (cleanupAt s moves (n + 1)).store x →
      (∃ m runtime claim, moves[n]? = some m ∧ m.Cleans (cleanupAt s moves n) runtime claim ∧
        claim.exchange_id = x ∧ ∃ e ∈ (cleanupAt s moves n).store.exchanges.rows,
          claim.holds runtime (cleanupAt s moves n).store e = true) ∧
      ∀ k, n < k →
        ¬ Removes (cleanupAt s moves k).store (cleanupAt s moves (k + 1)).store x) ∧
    (∀ n index, workedBy index (cleanupAt s moves n).log ≤ 3 * s.exchanges.rows.length + 3) ∧
    ∀ n index input c, moves[n]? = some (.advance index input) →
      (cleanupAt s moves n).procs[index]? = some c → c.returned = false →
      workedBy index (cleanupAt s moves (n + 1)).log =
        workedBy index (cleanupAt s moves n).log + 1 ∧
      ∀ c' result, (cleanupAt s moves (n + 1)).procs[index]? = some c' →
        c'.phase = .returned result →
        c.Ends input (cleanupAt s moves n).store result ∧
        (result = .error .recoveryNeeded → ∃ k < n, ∃ earlier,
          moves[k]? = some (.advance index earlier) ∧
          ((cleanupAt s moves k).store.activeRuntime c.runtime = false ∨
            (cleanupAt s moves k).store.NothingLeft (Externals.toRfc3339 earlier.now))) := by
  refine ⟨?_, ?_, ?_⟩
  · intro n x hremoves
    cases hm : moves[n]? with
    | none =>
      rw [cleanup_end s hm] at hremoves
      exact absurd hremoves ((ContentKept.refl _).not_removes x)
    | some m =>
      rw [cleanup_succ s hm] at hremoves
      obtain ⟨⟨runtime, claim, hcleans, hclaim, hholds⟩, -, hafter⟩ := move_removes hremoves
      refine ⟨⟨m, runtime, claim, rfl, hcleans, hclaim, hholds⟩, ?_⟩
      intro k hk hagain
      rw [← cleanup_succ s hm] at hafter
      have hcleaned := (cleanupAt_step s moves (Nat.succ_le_of_lt hk)).cleanedUp hafter
      cases hm' : moves[k]? with
      | none =>
        rw [cleanup_end s hm'] at hagain
        exact (ContentKept.refl _).not_removes x hagain
      | some m' =>
        rw [cleanup_succ s hm'] at hagain
        have hbefore := (move_removes hagain).2.1
        rw [hcleaned] at hbefore
        cases hbefore
  · intro n index
    have hinv := cleanupInv s moves n
    by_cases hindex : index < (cleanupAt s moves n).procs.length
    · have hloop := hinv.loops index _ (List.getElem?_eq_getElem hindex)
      have hbound : (claimedBy index (cleanupAt s moves n).log).length ≤
          s.exchanges.rows.length := by
        have hkeys := (cleanupAt_step s moves (Nat.zero_le n)).keys
        have hsubset : claimedBy index (cleanupAt s moves n).log ⊆
            s.exchanges.rows.map (·.exchange_id) := by
          intro x hx
          obtain ⟨e, he, hkey, -⟩ := hloop.held x hx
          have hmem : x ∈ (cleanupAt s moves n).store.exchanges.rows.map (·.exchange_id) := by
            rw [← hkey]
            exact List.mem_map_of_mem he
          rw [hkeys] at hmem
          exact hmem
        have hlength := (List.Nodup.subperm hloop.nodup hsubset).length_le
        rw [List.length_map] at hlength
        exact hlength
      have hpaid := hloop.paid
      have hspent : ∀ phase : CleanupPhase, phase.spent ≤ 3 := by
        intro phase
        cases phase with
        | _ => simp [CleanupPhase.spent]
      have hthree := hspent ((cleanupAt s moves n).procs[index]).phase
      omega
    · have hnone : ∀ e ∈ (cleanupAt s moves n).log, e.index ≠ index := by
        intro e he
        have hlt := hinv.started e he
        omega
      rw [(beside_events hnone).2]
      omega
  · intro n index input c hm hc hrunning
    have hlt := (List.getElem?_eq_some_iff.mp hc).1
    have hnext : cleanupAt s moves (n + 1) = cleanupSystem.move (cleanupAt s moves n)
        (.advance index input) := cleanup_succ s hm
    rw [System.move_advance_some hc] at hnext
    have hrunning' : ¬ c.returned = true := by
      rw [hrunning]
      decide
    constructor
    · rw [hnext]
      show workedBy index ((cleanupAt s moves n).log ++
        (c.advance index input (cleanupAt s moves n).store).2.2) = _
      rw [workedBy_append]
      apply congrArg (workedBy index (cleanupAt s moves n).log + ·)
      unfold CleanupLoop.advance
      rw [if_neg hrunning']
      show (CleanupEvent.worked index :: _).count (CleanupEvent.worked index) = 1
      rw [List.count_cons_self]
      apply congrArg (· + 1)
      rw [List.count_eq_zero]
      intro hmem
      unfold CleanupLoop.step at hmem
      split at hmem
      · exact absurd hmem List.not_mem_nil
      · dsimp only at hmem
        have hzero : workedBy index (CleanupLoop.notes index
            (c.claimBatch input (cleanupAt s moves n).store).1) = 0 := workedBy_notes _
        exact List.count_eq_zero.mp hzero hmem
      · exact absurd hmem List.not_mem_nil
      · exact absurd hmem List.not_mem_nil
      · exact absurd hmem List.not_mem_nil
    · intro c' result hc' hphase
      rw [hnext] at hc'
      change ((cleanupAt s moves n).procs.set index _)[index]? = some c' at hc'
      rw [List.getElem?_set_self hlt] at hc'
      obtain rfl := Option.some.inj hc'
      have hends := advance_ends hrunning hphase
      refine ⟨hends, ?_⟩
      intro hresult
      rw [hresult] at hends
      obtain ⟨hchecking, hover⟩ := hends
      rcases ((cleanupInv s moves n).loops index c hc).checked hchecking with hlow | hexhausted
      · have hwatermark := c.policy.low_watermark_lt
        omega
      · obtain ⟨k, hk, earlier, d, hearlier, hd, hleft⟩ := exhausted_when hexhausted
        obtain ⟨d', hd', hruntime, -⟩ := cleanup_same (Nat.le_of_lt hk) hd
        rw [hc] at hd'
        obtain rfl := Option.some.inj hd'
        rw [← hruntime] at hleft
        exact ⟨k, hk, earlier, hearlier, hleft⟩

end Run

end A2a

end GuiguBridge
