import GuiguBridge.Lib.Eviction
import GuiguBridge.Runtime.TerminalClosure

/-!
# The cancellation tables

`Cancellation` (`src/src/bus/control.rs`) keeps the reasons for which tasks are stopped.  The
tasks that the worker owns are in one table; a reason that comes before its task waits in a
second one, and the tasks that are finished are remembered in a third, so that a late reason is
dropped.  The last two forget their oldest entry when they are full.

* `CancellationState`, `cancel`, `cancelAll`, `activate`, `retire`, `reasonFor` — as the source
  has them;
* `cancel_cases` — what a reason can do;
* `ControlInv` — a task is in one table at most, and **the ceilings are kept**.
-/

namespace GuiguBridge

open Relational

/-- `MAX_PENDING_CANCELLATIONS`. -/
def maxPendingCancellations : Nat := 1024

/-- `MAX_REASON_BYTES`. -/
def maxReasonBytes : Nat := 128

/-- `MAX_RETIRED_TASKS`. -/
def maxRetiredTasks : Nat := 1024

/-- `bounded_reason`. -/
def boundedReason (reason : String) : String :=
  if reason.utf8ByteSize ≤ maxReasonBytes then reason
  else String.ofList (takeBytes maxReasonBytes reason.toList)

structure CancellationState where
  global : Option String
  /-- The tasks that the worker owns, each with its reason. -/
  active : Table (Prod.fst (α := TaskId) (β := Option String))
  pending : AgedMap TaskId String
  retired : AgedMap TaskId Unit

namespace CancellationState

def new : CancellationState := ⟨none, Table.empty, AgedMap.empty, AgedMap.empty⟩

/-- `remember_pending`. -/
def rememberPending (task_id : TaskId) (reason : String) (s : CancellationState) :
    CancellationState :=
  { s with pending := s.pending.remember maxPendingCancellations task_id reason }

/-- `remember_retired`. -/
def rememberRetired (task_id : TaskId) (s : CancellationState) : CancellationState :=
  { s with retired := s.retired.remember maxRetiredTasks task_id () }

/-- `Cancellation::cancel`. -/
def cancel (task_id : TaskId) (reason : String) (s : CancellationState) : CancellationState :=
  match s.active.get task_id with
  | some (_, some _) => s
  | some (_, none) => { s with active := s.active.put (task_id, some (boundedReason reason)) }
  | none =>
    if (s.retired.get task_id).isNone ∧ (s.pending.get task_id).isNone then
      s.rememberPending task_id (boundedReason reason)
    else s

/-- `Cancellation::cancel_all`. -/
def cancelAll (reason : String) (s : CancellationState) : CancellationState :=
  match s.global with
  | some _ => s
  | none => { s with global := some (boundedReason reason) }

/-- The reason of the task itself. -/
def ownReason (s : CancellationState) (task_id : TaskId) : Option String :=
  match s.active.get task_id with
  | some (_, some reason) => some reason
  | _ => (s.pending.get task_id).map Aged.value

/-- `Cancellation::reason_for`. -/
def reasonFor (s : CancellationState) (task_id : TaskId) : Option String :=
  match s.ownReason task_id with
  | some reason => some reason
  | none => s.global

/-- `Cancellation::activate`. -/
def activate (task_id : TaskId) (s : CancellationState) : CancellationState :=
  let promoted := (s.pending.get task_id).map Aged.value
  { s with
    retired := s.retired.remove task_id
    pending := s.pending.remove task_id
    active := match s.active.get task_id with
      | some _ => s.active
      | none => s.active.put (task_id, promoted) }

/-- `Cancellation::retire`; whether anything was released is not part of the state. -/
def retire (task_id : TaskId) (s : CancellationState) : CancellationState :=
  rememberRetired task_id
    { s with active := s.active.remove task_id, pending := s.pending.remove task_id }

/-- `Cancellation::is_retired`. -/
def isRetired (s : CancellationState) (task_id : TaskId) : Bool := (s.retired.get task_id).isSome

end CancellationState

/-- A call on the handle. -/
inductive CancelCall where
  | cancel (task_id : TaskId) (reason : String)
  | cancelAll (reason : String)
  | activate (task_id : TaskId)
  | retire (task_id : TaskId)
  deriving DecidableEq

/-- The task that a call is about. -/
def CancelCall.task : CancelCall → Option TaskId
  | .cancel task_id _ | .activate task_id | .retire task_id => some task_id
  | .cancelAll _ => none

def cancelStep (s : CancellationState) : CancelCall → CancellationState
  | .cancel task_id reason => s.cancel task_id reason
  | .cancelAll reason => s.cancelAll reason
  | .activate task_id => s.activate task_id
  | .retire task_id => s.retire task_id

/-- The tables after the first `n` calls. -/
def cancellationAt (calls : List CancelCall) (n : Nat) : CancellationState :=
  (calls.take n).foldl cancelStep CancellationState.new

theorem cancellationAt_succ {calls : List CancelCall} {n : Nat} {call : CancelCall}
    (h : calls[n]? = some call) :
    cancellationAt calls (n + 1) = cancelStep (cancellationAt calls n) call := by
  unfold cancellationAt
  rw [List.take_add_one, h]
  simp

theorem cancellationAt_end {calls : List CancelCall} {n : Nat} (h : calls[n]? = none) :
    cancellationAt calls (n + 1) = cancellationAt calls n := by
  unfold cancellationAt
  rw [List.take_add_one, h]
  simp

/-! ### The tables are disjoint and bounded -/

/-- The three tables: a task is in one at most, and the ceilings are kept. -/
structure ControlInv (s : CancellationState) : Prop where
  active_pending : ∀ t, s.active.get t = none ∨ s.pending.get t = none
  active_retired : ∀ t, s.active.get t = none ∨ s.retired.get t = none
  pending_retired : ∀ t, s.pending.get t = none ∨ s.retired.get t = none
  pending_len : s.pending.table.rows.length ≤ maxPendingCancellations
  retired_len : s.retired.table.rows.length ≤ maxRetiredTasks

namespace CancellationState

variable {s : CancellationState} {t u : TaskId} {reason : String}

/-! #### What a call can do -/

/-- The task is in no table, or it is owned without a reason. -/
structure Unarmed (s : CancellationState) (t : TaskId) : Prop where
  retired : s.retired.get t = none
  pending : s.pending.get t = none
  active : ∀ e, s.active.get t = some e → e.2 = none

/-- A reason for a task that is neither owned nor finished, and has none, waits. -/
def waits (s : CancellationState) (t : TaskId) : Bool :=
  (s.active.get t).isNone && (s.retired.get t).isNone && (s.pending.get t).isNone

theorem waits_iff : s.waits t = true ↔
    s.active.get t = none ∧ s.retired.get t = none ∧ s.pending.get t = none := by
  unfold waits
  simp only [Bool.and_eq_true, Option.isNone_iff_eq_none, and_assoc]

/-- `cancel` writes the reason of an owned task, lets it wait, or does nothing. -/
theorem cancel_cases (s : CancellationState) (t : TaskId) (reason : String) :
    (s.active.get t = some (t, none) ∧
      s.cancel t reason =
        { s with active := s.active.put (t, some (boundedReason reason)) }) ∨
    (s.waits t = true ∧ s.cancel t reason = s.rememberPending t (boundedReason reason)) ∨
    (¬ Unarmed s t ∧ s.cancel t reason = s) := by
  unfold cancel
  cases hactive : s.active.get t with
  | some e =>
    obtain ⟨u, own⟩ := e
    have hkey : u = t := Table.key_of_get hactive
    cases own with
    | some r =>
      refine Or.inr (Or.inr ⟨?_, rfl⟩)
      intro hun
      have hnone := hun.active _ hactive
      cases hnone
    | none =>
      rw [hkey]
      exact Or.inl ⟨rfl, rfl⟩
  | none =>
    dsimp only
    split
    · rename_i hfree
      refine Or.inr (Or.inl ⟨?_, rfl⟩)
      rw [waits_iff]
      exact ⟨hactive, Option.isNone_iff_eq_none.mp hfree.1, Option.isNone_iff_eq_none.mp hfree.2⟩
    · rename_i htaken
      refine Or.inr (Or.inr ⟨?_, rfl⟩)
      intro hun
      apply htaken
      rw [hun.retired, hun.pending]
      exact ⟨rfl, rfl⟩

theorem get_active_activate (s : CancellationState) (t u : TaskId) :
    (s.activate t).active.get u =
      if u = t then some ((s.active.get t).getD (t, (s.pending.get t).map Aged.value))
      else s.active.get u := by
  unfold activate
  dsimp only
  cases hactive : s.active.get t with
  | some e =>
    dsimp only
    split
    · rename_i heq
      rw [heq, hactive]
      rfl
    · rfl
  | none =>
    dsimp only
    split
    · rename_i heq
      rw [heq]
      exact s.active.get_put_self (t, (s.pending.get t).map Aged.value)
    · rename_i hne
      exact s.active.get_put_of_ne (r := (t, (s.pending.get t).map Aged.value)) hne

/-! #### Each call keeps the invariant -/

theorem inv_cancel (h : ControlInv s) (t : TaskId) (reason : String) :
    ControlInv (s.cancel t reason) := by
  rcases cancel_cases s t reason with ⟨hactive, hs⟩ | ⟨hwaits, hs⟩ | ⟨-, hs⟩
  · -- the task was owned before
    have hnone : ∀ u, s.active.get u = none →
        (s.active.put (t, some (boundedReason reason))).get u = none := by
      intro u hu
      have hne : u ≠ t := by
        rintro rfl
        rw [hactive] at hu
        cases hu
      rw [s.active.get_put_of_ne (r := (t, some (boundedReason reason))) hne]
      exact hu
    rw [hs]
    exact ⟨fun u => (h.active_pending u).imp_left (hnone u),
      fun u => (h.active_retired u).imp_left (hnone u), h.pending_retired, h.pending_len,
      h.retired_len⟩
  · rw [waits_iff] at hwaits
    obtain ⟨hactive, hretired, -⟩ := hwaits
    rw [hs]
    refine ⟨?_, h.active_retired, ?_, AgedMap.remember_len (by decide) h.pending_len,
      h.retired_len⟩
    · intro u
      by_cases heq : u = t
      · rw [heq]
        exact Or.inl hactive
      · exact (h.active_pending u).imp_right (AgedMap.get_remember_none heq)
    · intro u
      by_cases heq : u = t
      · rw [heq]
        exact Or.inr hretired
      · exact (h.pending_retired u).imp_left (AgedMap.get_remember_none heq)
  · rw [hs]
    exact h

theorem inv_activate (h : ControlInv s) (t : TaskId) : ControlInv (s.activate t) := by
  have hactive : ∀ u, u ≠ t → (s.activate t).active.get u = s.active.get u := by
    intro u hne
    rw [get_active_activate, if_neg hne]
  have hpending : ∀ u, u ≠ t → (s.activate t).pending.get u = s.pending.get u :=
    fun u hne => s.pending.get_remove_of_ne hne
  have hretired : ∀ u, u ≠ t → (s.activate t).retired.get u = s.retired.get u :=
    fun u hne => s.retired.get_remove_of_ne hne
  have hpending' : (s.activate t).pending.get t = none := s.pending.get_remove_self t
  have hretired' : (s.activate t).retired.get t = none := s.retired.get_remove_self t
  refine ⟨?_, ?_, ?_, ?_, ?_⟩
  · intro u
    by_cases heq : u = t
    · exact Or.inr (heq ▸ hpending')
    · rw [hactive u heq, hpending u heq]
      exact h.active_pending u
  · intro u
    by_cases heq : u = t
    · exact Or.inr (heq ▸ hretired')
    · rw [hactive u heq, hretired u heq]
      exact h.active_retired u
  · intro u
    by_cases heq : u = t
    · exact Or.inr (heq ▸ hretired')
    · rw [hpending u heq, hretired u heq]
      exact h.pending_retired u
  · exact (s.pending.table.length_remove_le t).trans h.pending_len
  · exact (s.retired.table.length_remove_le t).trans h.retired_len

theorem inv_retire (h : ControlInv s) (t : TaskId) : ControlInv (s.retire t) := by
  have hactive : ∀ u, s.active.get u = none → (s.retire t).active.get u = none := by
    intro u hu
    by_cases heq : u = t
    · rw [heq]
      exact s.active.get_remove_self t
    · exact (s.active.get_remove_of_ne heq).trans hu
  have hpending : ∀ u, s.pending.get u = none → (s.retire t).pending.get u = none := by
    intro u hu
    by_cases heq : u = t
    · rw [heq]
      exact s.pending.get_remove_self t
    · exact (s.pending.get_remove_of_ne heq).trans hu
  have hretired : ∀ u, u ≠ t → s.retired.get u = none → (s.retire t).retired.get u = none :=
    fun u hne hu => AgedMap.get_remember_none hne hu
  refine ⟨?_, ?_, ?_, ?_, AgedMap.remember_len (by decide) h.retired_len⟩
  · intro u
    exact (h.active_pending u).imp (hactive u) (hpending u)
  · intro u
    by_cases heq : u = t
    · rw [heq]
      exact Or.inl (s.active.get_remove_self t)
    · exact (h.active_retired u).imp (hactive u) (hretired u heq)
  · intro u
    by_cases heq : u = t
    · rw [heq]
      exact Or.inl (s.pending.get_remove_self t)
    · exact (h.pending_retired u).imp (hpending u) (hretired u heq)
  · exact (s.pending.table.length_remove_le t).trans h.pending_len

theorem inv_cancelAll (h : ControlInv s) (reason : String) : ControlInv (s.cancelAll reason) := by
  unfold cancelAll
  split
  · exact h
  · exact ⟨h.active_pending, h.active_retired, h.pending_retired, h.pending_len, h.retired_len⟩

theorem inv_step (h : ControlInv s) (call : CancelCall) : ControlInv (cancelStep s call) := by
  cases call with
  | cancel t reason => exact inv_cancel h t reason
  | cancelAll reason => exact inv_cancelAll h reason
  | activate t => exact inv_activate h t
  | retire t => exact inv_retire h t

end CancellationState

/-- **The tables are disjoint and bounded after any calls.** -/
theorem cancellationAt_inv (calls : List CancelCall) (n : Nat) :
    ControlInv (cancellationAt calls n) := by
  induction n with
  | zero =>
    refine ⟨fun _ => Or.inl rfl, fun _ => Or.inl rfl, fun _ => Or.inl rfl, ?_, ?_⟩
    · exact Nat.zero_le _
    · exact Nat.zero_le _
  | succ n ih =>
    cases hcall : calls[n]? with
    | none =>
      rw [cancellationAt_end hcall]
      exact ih
    | some call =>
      rw [cancellationAt_succ hcall]
      exact CancellationState.inv_step ih call

end GuiguBridge
