import GuiguBridge.Bus.Control

/-!
# The history of a reason

What the calls on a `Cancellation` say about the reason of one task (`src/src/bus/control.rs`).

* `armedAt`, `othersArmed` — the reasons that start to wait, call by call;
* `Watched` — where a reason is after it was recorded; `watched_step` — **only `retire` and a full
  table take it away**;
* `First` — the first reason of a task, told from the calls alone;
* `reasonFor_others` — what is called for another task does not reach a task that is owned;
* `cancellation_tables` — the laws together;
* `early_displacement` — the counter of the waiting reasons wraps, and then a new reason counts as
  the oldest one.
-/

namespace GuiguBridge

open Relational

/-! ### Numbers of waiting reasons -/

/-- The task whose reason starts to wait with call `k`. -/
def armedAt (calls : List CancelCall) (k : Nat) : Option TaskId :=
  match calls[k]? with
  | some (.cancel task_id _) => if (cancellationAt calls k).waits task_id then some task_id else none
  | _ => none

/-- How many reasons started to wait with the first `n` calls. -/
def armedCount (calls : List CancelCall) (n : Nat) : Nat :=
  (List.range n).countP fun k => (armedAt calls k).isSome

/-- The other tasks whose reasons started to wait after call `i` and before call `n`. -/
def othersArmed (calls : List CancelCall) (t : TaskId) (i n : Nat) : List TaskId :=
  ((List.range n).filter fun k => decide (i < k)).filterMap fun k =>
    (armedAt calls k).filter fun u => decide (u ≠ t)

theorem mem_othersArmed {calls : List CancelCall} {t u : TaskId} {i n : Nat} :
    u ∈ othersArmed calls t i n ↔ u ≠ t ∧ ∃ k, i < k ∧ k < n ∧ armedAt calls k = some u := by
  unfold othersArmed
  simp only [List.mem_filterMap, List.mem_filter, List.mem_range, decide_eq_true_eq,
    Option.filter_eq_some_iff]
  constructor
  · rintro ⟨k, ⟨hk, hi⟩, harmed, hne⟩
    exact ⟨hne, k, hi, hk, harmed⟩
  · rintro ⟨hne, k, hi, hk, harmed⟩
    exact ⟨k, ⟨hk, hi⟩, harmed, hne⟩

theorem othersArmed_mono {calls : List CancelCall} {t u : TaskId} {i n n' : Nat} (hn : n ≤ n')
    (h : u ∈ othersArmed calls t i n) : u ∈ othersArmed calls t i n' := by
  obtain ⟨hne, k, hi, hk, harmed⟩ := mem_othersArmed.1 h
  exact mem_othersArmed.2 ⟨hne, k, hi, by omega, harmed⟩

theorem armedCount_succ (calls : List CancelCall) (n : Nat) :
    armedCount calls (n + 1) =
      armedCount calls n + if (armedAt calls n).isSome then 1 else 0 := by
  unfold armedCount
  rw [List.range_succ, List.countP_append, List.countP_singleton]

section

variable {calls : List CancelCall} {n : Nat}

/-- A call whose task does not start to wait leaves the counter, and adds no waiting reason. -/
theorem pending_kept {call : CancelCall} (hcall : calls[n]? = some call)
    (harmed : armedAt calls n = none) :
    (cancellationAt calls (n + 1)).pending.next = (cancellationAt calls n).pending.next ∧
      ∀ e ∈ (cancellationAt calls (n + 1)).pending.table.rows,
        e ∈ (cancellationAt calls n).pending.table.rows := by
  rw [cancellationAt_succ hcall]
  cases call with
  | cancel t reason =>
    show ((cancellationAt calls n).cancel t reason).pending.next = _ ∧
      ∀ e ∈ ((cancellationAt calls n).cancel t reason).pending.table.rows, _
    rcases (cancellationAt calls n).cancel_cases t reason with ⟨-, hs⟩ | ⟨hwaits, -⟩ | ⟨-, hs⟩
    · rw [hs]
      exact ⟨rfl, fun _ h => h⟩
    · simp only [armedAt, hcall, hwaits, if_true] at harmed
      cases harmed
    · rw [hs]
      exact ⟨rfl, fun _ h => h⟩
  | cancelAll reason =>
    show ((cancellationAt calls n).cancelAll reason).pending.next = _ ∧
      ∀ e ∈ ((cancellationAt calls n).cancelAll reason).pending.table.rows, _
    unfold CancellationState.cancelAll
    split
    · exact ⟨rfl, fun _ h => h⟩
    · exact ⟨rfl, fun _ h => h⟩
  | activate t => exact ⟨rfl, fun _ h => (Table.mem_remove.1 h).1⟩
  | retire t => exact ⟨rfl, fun _ h => (Table.mem_remove.1 h).1⟩

/-- The call with which a reason starts to wait. -/
theorem armedAt_some {u : TaskId} (h : armedAt calls n = some u) :
    ∃ reason, calls[n]? = some (.cancel u reason) ∧ (cancellationAt calls n).waits u = true ∧
      cancellationAt calls (n + 1) =
        (cancellationAt calls n).rememberPending u (boundedReason reason) := by
  unfold armedAt at h
  split at h
  · rename_i t reason hcall
    split at h
    · rename_i hwaits
      obtain rfl := Option.some.inj h
      refine ⟨reason, hcall, hwaits, ?_⟩
      rw [cancellationAt_succ hcall]
      show (cancellationAt calls n).cancel t reason = _
      rcases (cancellationAt calls n).cancel_cases t reason with ⟨hactive, -⟩ | ⟨-, hs⟩ |
        ⟨hun, -⟩
      · rw [(CancellationState.waits_iff.1 hwaits).1] at hactive
        cases hactive
      · exact hs
      · obtain ⟨hactive, hretired, hpending⟩ := CancellationState.waits_iff.1 hwaits
        refine absurd ⟨hretired, hpending, ?_⟩ hun
        intro e he
        rw [hactive] at he
        cases he
    · cases h
  · cases h

theorem pending_numbers (calls : List CancelCall) (n : Nat) :
    (cancellationAt calls n).pending.next = UInt64.ofNat (armedCount calls n) ∧
      ∀ e ∈ (cancellationAt calls n).pending.table.rows, e.number < armedCount calls n := by
  induction n with
  | zero => exact ⟨rfl, fun e he => absurd he List.not_mem_nil⟩
  | succ n ih =>
    obtain ⟨hnext, hless⟩ := ih
    rw [armedCount_succ]
    cases hcall : calls[n]? with
    | none =>
      have harmed : armedAt calls n = none := by simp [armedAt, hcall]
      rw [cancellationAt_end hcall, harmed]
      exact ⟨hnext, hless⟩
    | some call =>
      cases harmed : armedAt calls n with
      | none =>
        obtain ⟨hnext', hrows⟩ := pending_kept hcall harmed
        rw [hnext', hnext]
        exact ⟨rfl, fun e he => hless e (hrows e he)⟩
      | some u =>
        obtain ⟨reason, -, -, hs⟩ := armedAt_some harmed
        rw [hs]
        refine ⟨?_, ?_⟩
        · show (cancellationAt calls n).pending.next + 1 = UInt64.ofNat (armedCount calls n + 1)
          rw [hnext, UInt64.ofNat_add]
          rfl
        · intro e he
          show e.number < armedCount calls n + 1
          rcases AgedMap.mem_remember he with rfl | ⟨hold, -⟩
          · show (cancellationAt calls n).pending.next.toNat < armedCount calls n + 1
            rw [hnext, UInt64.toNat_ofNat']
            have hmod := Nat.mod_le (armedCount calls n) (2 ^ 64)
            omega
          · have hlt := hless e hold
            omega

/-! ### The first reason of a task -/

/-- Where the reason of `t` is, some time after it was recorded with call `i`. -/
inductive Watched (calls : List CancelCall) (t : TaskId) (reason : String) (i n : Nat) : Prop where
  | owned (h : (cancellationAt calls n).active.get t = some (t, some reason))
  | waiting (e : Aged TaskId String) (hmem : e ∈ (cancellationAt calls n).pending.table.rows)
      (hkey : e.key = t) (hvalue : e.value = reason)
      (hlater : ∀ e' ∈ (cancellationAt calls n).pending.table.rows, e'.key ≠ t →
        e'.number < e.number ∨ e'.key ∈ othersArmed calls t i n)
  | displaced (m : Nat) (hi : i < m) (hm : m ≤ n)
      (hactive : (cancellationAt calls m).active.get t = none)
      (hmany : maxPendingCancellations ≤ (othersArmed calls t i m).dedup.length)

variable {t : TaskId} {reason : String} {i : Nat}

/-- Nothing but `retire` takes the reason of an owned task away. -/
theorem active_kept {s : CancellationState} (h : s.active.get t = some (t, some reason))
    {call : CancelCall} (hcall : call ≠ .retire t) :
    (cancelStep s call).active.get t = some (t, some reason) := by
  cases call with
  | cancel u r =>
    show (s.cancel u r).active.get t = _
    rcases s.cancel_cases u r with ⟨hactive, hs⟩ | ⟨-, hs⟩ | ⟨-, hs⟩
    · have hne : t ≠ u := by
        rintro rfl
        rw [h] at hactive
        cases hactive
      rw [hs]
      exact (s.active.get_put_of_ne (r := (u, some (boundedReason r))) hne).trans h
    · rw [hs]
      exact h
    · rw [hs]
      exact h
  | cancelAll r =>
    show (s.cancelAll r).active.get t = _
    unfold CancellationState.cancelAll
    split
    · exact h
    · exact h
  | activate u =>
    show (s.activate u).active.get t = _
    rw [CancellationState.get_active_activate]
    split
    · rename_i heq
      rw [← heq, h]
      rfl
    · exact h
  | retire u =>
    have hne : t ≠ u := by
      rintro rfl
      exact hcall rfl
    exact (s.active.get_remove_of_ne hne).trans h

/-- A waiting reason after the next call. -/
theorem waiting_kept {e : Aged TaskId String} {call : CancelCall}
    (hcall : calls[n]? = some call) (hretire : call ≠ .retire t) (hi : i < n)
    (hmem : e ∈ (cancellationAt calls n).pending.table.rows) (hkey : e.key = t)
    (hvalue : e.value = reason)
    (hlater : ∀ e' ∈ (cancellationAt calls n).pending.table.rows, e'.key ≠ t →
      e'.number < e.number ∨ e'.key ∈ othersArmed calls t i n) :
    Watched calls t reason i (n + 1) := by
  have hget : (cancellationAt calls n).pending.get t = some e :=
    (Table.get_eq_some_iff _ _ _).mpr ⟨hmem, hkey⟩
  have hlater' : ∀ e' ∈ (cancellationAt calls n).pending.table.rows, e'.key ≠ t →
      e'.number < e.number ∨ e'.key ∈ othersArmed calls t i (n + 1) := by
    intro e' he' hne
    exact (hlater e' he' hne).imp_right (othersArmed_mono (Nat.le_succ n))
  have hunowned : (cancellationAt calls n).active.get t = none := by
    rcases (cancellationAt_inv calls n).active_pending t with h | h
    · exact h
    · rw [hget] at h
      cases h
  cases harmed : armedAt calls n with
  | some u =>
    -- another reason starts to wait, and this one may have to go
    obtain ⟨r, -, hwaits, hs⟩ := armedAt_some harmed
    obtain ⟨-, -, hfree⟩ := CancellationState.waits_iff.1 hwaits
    have hne : u ≠ t := by
      rintro rfl
      rw [hget] at hfree
      cases hfree
    have hnew : u ∈ othersArmed calls t i (n + 1) :=
      mem_othersArmed.2 ⟨hne, n, hi, Nat.lt_succ_self n, harmed⟩
    by_cases hkept : e ∈ (cancellationAt calls (n + 1)).pending.table.rows
    · refine .waiting e hkept hkey hvalue ?_
      intro e' he' hne'
      rw [hs] at he'
      rcases AgedMap.mem_remember he' with rfl | ⟨hold, -⟩
      · exact Or.inr hnew
      · exact hlater' e' hold hne'
    · refine .displaced (n + 1) (by omega) (Nat.le_refl _) ?_ ?_
      · rw [hs]
        exact hunowned
      · rw [hs] at hkept
        have hneKey : e.key ≠ u := by
          rw [hkey]
          exact hne.symm
        refine AgedMap.displaced_others hmem hneKey hfree hkept ?_ hnew
        intro e' he' hne'
        rw [hkey] at hne'
        exact hlater' e' he' hne'
  | none =>
    obtain ⟨-, hrows⟩ := pending_kept hcall harmed
    by_cases hkept : e ∈ (cancellationAt calls (n + 1)).pending.table.rows
    · exact .waiting e hkept hkey hvalue fun e' he' => hlater' e' (hrows e' he')
    · -- only `activate` takes it, and then the task is owned
      rw [cancellationAt_succ hcall] at hkept
      cases call with
      | cancel u r =>
        refine absurd ?_ hkept
        show e ∈ ((cancellationAt calls n).cancel u r).pending.table.rows
        rcases (cancellationAt calls n).cancel_cases u r with ⟨-, hs⟩ | ⟨hwaits, -⟩ | ⟨-, hs⟩
        · rw [hs]
          exact hmem
        · simp only [armedAt, hcall, hwaits, if_true] at harmed
          cases harmed
        · rw [hs]
          exact hmem
      | cancelAll r =>
        refine absurd ?_ hkept
        show e ∈ ((cancellationAt calls n).cancelAll r).pending.table.rows
        unfold CancellationState.cancelAll
        split
        · exact hmem
        · exact hmem
      | activate u =>
        have heq : t = u := by
          by_contra hne
          refine hkept (Table.mem_remove.2 ⟨hmem, ?_⟩)
          rw [hkey]
          exact hne
        refine .owned ?_
        rw [cancellationAt_succ hcall]
        show ((cancellationAt calls n).activate u).active.get t = _
        rw [CancellationState.get_active_activate, if_pos heq, ← heq, hunowned, hget,
          ← hvalue]
        rfl
      | retire u =>
        refine absurd (Table.mem_remove.2 ⟨hmem, ?_⟩) hkept
        rw [hkey]
        rintro rfl
        exact hretire rfl

theorem watched_step (h : Watched calls t reason i n) (hi : i < n)
    (hretire : calls[n]? ≠ some (.retire t)) : Watched calls t reason i (n + 1) := by
  cases hcall : calls[n]? with
  | none =>
    have hsame := cancellationAt_end hcall
    have hmono {u : TaskId} : u ∈ othersArmed calls t i n → u ∈ othersArmed calls t i (n + 1) :=
      othersArmed_mono (Nat.le_succ n)
    cases h with
    | owned h => exact .owned (hsame ▸ h)
    | waiting e hmem hkey hvalue hlater =>
      refine .waiting e (hsame ▸ hmem) hkey hvalue ?_
      intro e' he' hne
      rw [hsame] at he'
      exact (hlater e' he' hne).imp_right hmono
    | displaced m hi hm hactive hmany => exact .displaced m hi (by omega) hactive hmany
  | some call =>
    have hne : call ≠ .retire t := by
      rintro rfl
      exact hretire hcall
    cases h with
    | owned h =>
      refine .owned ?_
      rw [cancellationAt_succ hcall]
      exact active_kept h hne
    | waiting e hmem hkey hvalue hlater =>
      exact waiting_kept hcall hne hi hmem hkey hvalue hlater
    | displaced m hi hm hactive hmany => exact .displaced m hi (by omega) hactive hmany

/-- The call that records the first reason. -/
theorem watched_start (hcall : calls[i]? = some (.cancel t reason))
    (hun : (cancellationAt calls i).Unarmed t) (hcount : armedCount calls i < 2 ^ 64) :
    Watched calls t (boundedReason reason) i (i + 1) := by
  have hsucc : cancellationAt calls (i + 1) = (cancellationAt calls i).cancel t reason :=
    cancellationAt_succ hcall
  rcases (cancellationAt calls i).cancel_cases t reason with ⟨hactive, hs⟩ | ⟨hwaits, hs⟩ |
    ⟨hnot, -⟩
  · refine .owned ?_
    rw [hsucc, hs]
    exact (cancellationAt calls i).active.get_put_self (t, some (boundedReason reason))
  · obtain ⟨hnext, hless⟩ := pending_numbers calls i
    refine .waiting ⟨t, boundedReason reason, (cancellationAt calls i).pending.next⟩ ?_ rfl rfl ?_
    · rw [hsucc, hs]
      exact AgedMap.remember_self
    · intro e' he' hne
      rw [hsucc, hs] at he'
      rcases AgedMap.mem_remember he' with rfl | ⟨hold, -⟩
      · exact absurd rfl hne
      · have hlt := hless e' hold
        refine Or.inl ?_
        show e'.number < (cancellationAt calls i).pending.next.toNat
        rw [hnext, UInt64.toNat_ofNat', Nat.mod_eq_of_lt hcount]
        exact hlt
  · exact absurd hun hnot

/-- **The first reason of a task stays until the task is retired**, or until the waiting reasons
have filled up after it. -/
theorem first_reason_kept (hcall : calls[i]? = some (.cancel t reason))
    (hun : (cancellationAt calls i).Unarmed t) (hcount : armedCount calls i < 2 ^ 64)
    (hi : i < n) (hretire : ∀ k, i < k → k < n → calls[k]? ≠ some (.retire t)) :
    (cancellationAt calls n).reasonFor t = some (boundedReason reason) ∨
      ∃ m, i < m ∧ m ≤ n ∧ (cancellationAt calls m).active.get t = none ∧
        maxPendingCancellations ≤ (othersArmed calls t i m).dedup.length := by
  have hwatched : ∀ d, i + 1 + d ≤ n → Watched calls t (boundedReason reason) i (i + 1 + d) := by
    intro d
    induction d with
    | zero =>
      intro _
      exact watched_start hcall hun hcount
    | succ d ih =>
      intro hd
      show Watched calls t (boundedReason reason) i (i + 1 + d + 1)
      have hlt : i < i + 1 + d := by omega
      exact watched_step (ih (by omega)) hlt (hretire (i + 1 + d) hlt (by omega))
  have hn := hwatched (n - (i + 1)) (by omega)
  rw [show i + 1 + (n - (i + 1)) = n by omega] at hn
  cases hn with
  | owned h =>
    refine Or.inl ?_
    unfold CancellationState.reasonFor CancellationState.ownReason
    rw [h]
  | waiting e hmem hkey hvalue hlater =>
    have hget : (cancellationAt calls n).pending.get t = some e :=
      (Table.get_eq_some_iff _ _ _).mpr ⟨hmem, hkey⟩
    have hnone : (cancellationAt calls n).active.get t = none := by
      rcases (cancellationAt_inv calls n).active_pending t with h | h
      · exact h
      · rw [hget] at h
        cases h
    refine Or.inl ?_
    unfold CancellationState.reasonFor CancellationState.ownReason
    rw [hnone, hget]
    show some e.value = _
    rw [hvalue]
  | displaced m hi hm hactive hmany => exact Or.inr ⟨m, hi, hm, hactive, hmany⟩

end

/-! ### First calls, and calls for other tasks -/

/-- Call `i` is the first about a reason of `t`: no reason was recorded since the last time `t` was
retired, and a task that was retired has been taken up again. -/
structure First (calls : List CancelCall) (t : TaskId) (i : Nat) : Prop where
  reason : ∀ k, k < i → ∀ r, calls[k]? = some (.cancel t r) →
    ∃ m, k < m ∧ m < i ∧ calls[m]? = some (.retire t)
  retire : ∀ k, k < i → calls[k]? = some (.retire t) →
    ∃ m, k < m ∧ m < i ∧ calls[m]? = some (.activate t)

section

variable {calls : List CancelCall} {t : TaskId}

/-- Without a reason since the last `retire` the task has none. -/
theorem no_reason (n : Nat) (h : ∀ k, k < n → ∀ r, calls[k]? = some (.cancel t r) →
    ∃ m, k < m ∧ m < n ∧ calls[m]? = some (.retire t)) :
    (cancellationAt calls n).pending.get t = none ∧
      ∀ e, (cancellationAt calls n).active.get t = some e → e.2 = none := by
  induction n with
  | zero =>
    refine ⟨rfl, ?_⟩
    intro e he
    cases he
  | succ n ih =>
    cases hcall : calls[n]? with
    | none =>
      rw [cancellationAt_end hcall]
      refine ih ?_
      intro k hk r hr
      obtain ⟨m, hkm, hm, hretire⟩ := h k (by omega) r hr
      have hne : m ≠ n := by
        rintro rfl
        rw [hcall] at hretire
        cases hretire
      exact ⟨m, hkm, by omega, hretire⟩
    | some call =>
      rw [cancellationAt_succ hcall]
      by_cases hretired : call = .retire t
      · rw [hretired]
        refine ⟨AgedMap.get_remove_self _ t, ?_⟩
        intro e he
        have hnone := (cancellationAt calls n).active.get_remove_self t
        have he' : ((cancellationAt calls n).active.remove t).get t = some e := he
        rw [hnone] at he'
        cases he'
      · have hbefore := ih (by
          intro k hk r hr
          obtain ⟨m, hkm, hm, hretire⟩ := h k (by omega) r hr
          have hne : m ≠ n := by
            rintro rfl
            rw [hcall] at hretire
            exact hretired (Option.some.inj hretire)
          exact ⟨m, hkm, by omega, hretire⟩)
        obtain ⟨hpending, hactive⟩ := hbefore
        cases call with
        | cancel u r =>
          have hne : t ≠ u := by
            rintro rfl
            obtain ⟨m, hkm, hm, -⟩ := h n (Nat.lt_succ_self n) r hcall
            omega
          show ((cancellationAt calls n).cancel u r).pending.get t = none ∧
            ∀ e, ((cancellationAt calls n).cancel u r).active.get t = some e → e.2 = none
          rcases (cancellationAt calls n).cancel_cases u r with ⟨-, hs⟩ | ⟨-, hs⟩ | ⟨-, hs⟩
          · rw [hs]
            refine ⟨hpending, ?_⟩
            intro e he
            refine hactive e ?_
            exact ((cancellationAt calls n).active.get_put_of_ne
              (r := (u, some (boundedReason r))) hne).symm.trans he
          · rw [hs]
            exact ⟨AgedMap.get_remember_none hne hpending, hactive⟩
          · rw [hs]
            exact ⟨hpending, hactive⟩
        | cancelAll r =>
          show ((cancellationAt calls n).cancelAll r).pending.get t = none ∧
            ∀ e, ((cancellationAt calls n).cancelAll r).active.get t = some e → e.2 = none
          unfold CancellationState.cancelAll
          split
          · exact ⟨hpending, hactive⟩
          · exact ⟨hpending, hactive⟩
        | activate u =>
          refine ⟨?_, ?_⟩
          · by_cases heq : t = u
            · rw [heq]
              exact AgedMap.get_remove_self _ u
            · exact (AgedMap.get_remove_of_ne _ heq).trans hpending
          · intro e he
            have he' : ((cancellationAt calls n).activate u).active.get t = some e := he
            rw [CancellationState.get_active_activate] at he'
            split at he'
            · rename_i heq
              rw [← heq, hpending] at he'
              cases hown : (cancellationAt calls n).active.get t with
              | none =>
                rw [hown] at he'
                obtain rfl := Option.some.inj he'
                rfl
              | some e₀ =>
                rw [hown] at he'
                obtain rfl := Option.some.inj he'
                exact hactive _ hown
            · exact hactive e he'
        | retire u =>
          have hne : t ≠ u := by
            rintro rfl
            exact hretired rfl
          refine ⟨(AgedMap.get_remove_of_ne _ hne).trans hpending, ?_⟩
          intro e he
          exact hactive e (((cancellationAt calls n).active.get_remove_of_ne hne).symm.trans he)

/-- A task that was taken up again after each `retire` is not remembered as finished. -/
theorem not_retired (n : Nat) (h : ∀ k, k < n → calls[k]? = some (.retire t) →
    ∃ m, k < m ∧ m < n ∧ calls[m]? = some (.activate t)) :
    (cancellationAt calls n).retired.get t = none := by
  induction n with
  | zero => rfl
  | succ n ih =>
    cases hcall : calls[n]? with
    | none =>
      rw [cancellationAt_end hcall]
      refine ih ?_
      intro k hk hr
      obtain ⟨m, hkm, hm, hactivate⟩ := h k (by omega) hr
      have hne : m ≠ n := by
        rintro rfl
        rw [hcall] at hactivate
        cases hactivate
      exact ⟨m, hkm, by omega, hactivate⟩
    | some call =>
      rw [cancellationAt_succ hcall]
      by_cases hactivated : call = .activate t
      · rw [hactivated]
        exact AgedMap.get_remove_self _ t
      · have hbefore := ih (by
          intro k hk hr
          obtain ⟨m, hkm, hm, hactivate⟩ := h k (by omega) hr
          have hne : m ≠ n := by
            rintro rfl
            rw [hcall] at hactivate
            exact hactivated (Option.some.inj hactivate)
          exact ⟨m, hkm, by omega, hactivate⟩)
        cases call with
        | cancel u r =>
          show ((cancellationAt calls n).cancel u r).retired.get t = none
          rcases (cancellationAt calls n).cancel_cases u r with ⟨-, hs⟩ | ⟨-, hs⟩ | ⟨-, hs⟩
          · rw [hs]
            exact hbefore
          · rw [hs]
            exact hbefore
          · rw [hs]
            exact hbefore
        | cancelAll r =>
          show ((cancellationAt calls n).cancelAll r).retired.get t = none
          unfold CancellationState.cancelAll
          split
          · exact hbefore
          · exact hbefore
        | activate u =>
          have hne : t ≠ u := by
            rintro rfl
            exact hactivated rfl
          exact (AgedMap.get_remove_of_ne _ hne).trans hbefore
        | retire u =>
          have hne : t ≠ u := by
            rintro rfl
            obtain ⟨m, hkm, hm, -⟩ := h n (Nat.lt_succ_self n) hcall
            omega
          exact AgedMap.get_remember_none hne hbefore

/-- A first reason finds its task unarmed. -/
theorem first_unarmed {i : Nat} (h : First calls t i) : (cancellationAt calls i).Unarmed t := by
  obtain ⟨hpending, hactive⟩ := no_reason i h.reason
  exact ⟨not_retired i h.retire, hpending, hactive⟩

end

/-- **What is called for another task does not reach an owned one**; the first `cancel_all`
reaches those that have no reason. -/
theorem reasonFor_others {s : CancellationState} {t : TaskId} (hinv : ControlInv s)
    (hactive : s.active.get t ≠ none) {call : CancelCall} (hother : call.task ≠ some t)
    (hchange : (cancelStep s call).reasonFor t ≠ s.reasonFor t) :
    ∃ reason, call = .cancelAll reason ∧ s.global = none ∧ s.ownReason t = none := by
  have hpending : s.pending.get t = none := by
    rcases hinv.active_pending t with h | h
    · exact absurd h hactive
    · exact h
  have hsame : ∀ s' : CancellationState, s'.global = s.global →
      s'.active.get t = s.active.get t → s'.pending.get t = none →
      s'.reasonFor t = s.reasonFor t := by
    intro s' hglobal hactive' hpending'
    unfold CancellationState.reasonFor CancellationState.ownReason
    rw [hglobal, hactive', hpending', hpending]
  cases call with
  | cancel u r =>
    have hne : t ≠ u := by
      rintro rfl
      exact hother rfl
    refine absurd ?_ hchange
    show (s.cancel u r).reasonFor t = s.reasonFor t
    rcases s.cancel_cases u r with ⟨-, hs⟩ | ⟨-, hs⟩ | ⟨-, hs⟩
    · rw [hs]
      exact hsame _ rfl (s.active.get_put_of_ne (r := (u, some (boundedReason r))) hne) hpending
    · rw [hs]
      exact hsame _ rfl rfl (AgedMap.get_remember_none hne hpending)
    · rw [hs]
  | cancelAll r =>
    refine ⟨r, rfl, ?_⟩
    cases hglobal : s.global with
    | some g =>
      refine absurd ?_ hchange
      show (s.cancelAll r).reasonFor t = s.reasonFor t
      simp only [CancellationState.cancelAll, hglobal]
    | none =>
      refine ⟨rfl, ?_⟩
      by_contra hown
      obtain ⟨own, hown⟩ := Option.ne_none_iff_exists'.mp hown
      refine hchange ?_
      show (s.cancelAll r).reasonFor t = s.reasonFor t
      have hown' : (s.cancelAll r).ownReason t = some own := by
        simp only [CancellationState.cancelAll, hglobal]
        exact hown
      unfold CancellationState.reasonFor
      rw [hown', hown]
  | activate u =>
    have hne : t ≠ u := by
      rintro rfl
      exact hother rfl
    refine absurd ?_ hchange
    refine hsame _ rfl ?_ ((AgedMap.get_remove_of_ne _ hne).trans hpending)
    show (s.activate u).active.get t = s.active.get t
    rw [CancellationState.get_active_activate, if_neg hne]
  | retire u =>
    have hne : t ≠ u := by
      rintro rfl
      exact hother rfl
    refine absurd ?_ hchange
    show (s.retire u).reasonFor t = s.reasonFor t
    exact hsame (s.retire u) rfl (s.active.get_remove_of_ne hne)
      ((AgedMap.get_remove_of_ne _ hne).trans hpending)

/-- **The cancellation tables over any calls.**  The tables stay disjoint and bounded.  The first
reason of a task, recorded before the counter of the waiting reasons wraps, stays until the task
is retired; only a task that is not owned can lose it, after as many other tasks were armed as may
wait.  What is called for another task does not reach an owned one, the first `cancel_all`
apart. -/
theorem cancellation_tables (calls : List CancelCall) (n : Nat) :
    ControlInv (cancellationAt calls n) ∧
    (∀ i t reason, i < n → calls[i]? = some (.cancel t reason) →
      (cancellationAt calls i).Unarmed t → armedCount calls i < 2 ^ 64 →
      (∀ k, i < k → k < n → calls[k]? ≠ some (.retire t)) →
      (cancellationAt calls n).reasonFor t = some (boundedReason reason) ∨
        ∃ m, i < m ∧ m ≤ n ∧ (cancellationAt calls m).active.get t = none ∧
          maxPendingCancellations ≤ (othersArmed calls t i m).dedup.length) ∧
    (∀ i t, First calls t i → (cancellationAt calls i).Unarmed t) ∧
    (∀ t call, (cancellationAt calls n).active.get t ≠ none → call.task ≠ some t →
      (cancelStep (cancellationAt calls n) call).reasonFor t ≠
        (cancellationAt calls n).reasonFor t →
      ∃ reason, call = .cancelAll reason ∧ (cancellationAt calls n).global = none ∧
        (cancellationAt calls n).ownReason t = none) := by
  refine ⟨cancellationAt_inv calls n, ?_, fun i t h => first_unarmed h, ?_⟩
  · intro i t reason hi hcall hun hcount hretire
    exact first_reason_kept hcall hun hcount hi hretire
  · intro t call hactive hother hchange
    exact reasonFor_others (cancellationAt_inv calls n) hactive hother hchange

/-! ### The counter wraps -/

def wrapTask (k : Nat) : TaskId := ⟨BitVec.ofNat 128 k⟩

theorem wrapTask_inj {k k' : Nat} (hk : k < 2 ^ 128) (hk' : k' < 2 ^ 128)
    (h : wrapTask k = wrapTask k') : k = k' := by
  have hnat : (BitVec.ofNat 128 k).toNat = (BitVec.ofNat 128 k').toNat :=
    congrArg (fun t => t.uuid.toNat) h
  simp only [BitVec.toNat_ofNat, Nat.mod_eq_of_lt hk, Nat.mod_eq_of_lt hk'] at hnat
  exact hnat

/-- `n` tasks are armed and retired one after the other. -/
def cycles : Nat → List CancelCall
  | 0 => []
  | n + 1 => cycles n ++ [.cancel (wrapTask n) "stop", .retire (wrapTask n)]

/-- `n` more tasks are armed, from number `c` on. -/
def fill (c : Nat) : Nat → List CancelCall
  | 0 => []
  | n + 1 => fill c n ++ [.cancel (wrapTask (c + n)) "stop"]

/-- Nothing is owned, nothing is global, and the tasks before number `c` may be finished. -/
structure Quiet (c : Nat) (s : CancellationState) : Prop where
  active : s.active = Table.empty
  global : s.global = none
  retired : ∀ e ∈ s.retired.table.rows, ∃ k, k < c ∧ e.key = wrapTask k

/-- The entry of the task with number `c + x`. -/
def wrapEntry (c x : Nat) : Aged TaskId String := ⟨wrapTask (c + x), "stop", UInt64.ofNat (c + x)⟩

def wrapEntries (c : Nat) : Nat → List (Aged TaskId String)
  | 0 => []
  | n + 1 => wrapEntry c n :: wrapEntries c n

theorem length_wrapEntries (c n : Nat) : (wrapEntries c n).length = n := by
  induction n with
  | zero => rfl
  | succ n ih => rw [wrapEntries, List.length_cons, ih]

theorem mem_wrapEntries {c n : Nat} {e : Aged TaskId String} (h : e ∈ wrapEntries c n) :
    ∃ x, x < n ∧ e = wrapEntry c x := by
  induction n with
  | zero => exact absurd h List.not_mem_nil
  | succ n ih =>
    rcases List.mem_cons.mp h with rfl | hrest
    · exact ⟨n, Nat.lt_succ_self n, rfl⟩
    · obtain ⟨x, hx, he⟩ := ih hrest
      exact ⟨x, by omega, he⟩

/-- The next task of a quiet state is armed. -/
theorem quiet_cancel {c n : Nat} {s : CancellationState} (hq : Quiet c s)
    (hrows : s.pending.table.rows = wrapEntries c n) (hc : c + n < 2 ^ 128) :
    cancelStep s (.cancel (wrapTask (c + n)) "stop") = s.rememberPending (wrapTask (c + n)) "stop"
      ∧ s.pending.get (wrapTask (c + n)) = none := by
  have hretired : s.retired.get (wrapTask (c + n)) = none := by
    refine (Table.get_eq_none_iff _ _).mpr ?_
    intro e he hkey
    obtain ⟨k, hk, hek⟩ := hq.retired e he
    have heq := wrapTask_inj (by omega) hc (hek.symm.trans hkey)
    omega
  have hpending : s.pending.get (wrapTask (c + n)) = none := by
    refine (Table.get_eq_none_iff _ _).mpr ?_
    intro e he hkey
    rw [hrows] at he
    obtain ⟨x, hx, rfl⟩ := mem_wrapEntries he
    have heq : c + x = c + n := wrapTask_inj (by omega) hc hkey
    omega
  refine ⟨?_, hpending⟩
  have hbound : boundedReason "stop" = "stop" := by decide
  show s.cancel (wrapTask (c + n)) "stop" = _
  unfold CancellationState.cancel
  rw [hq.active, hretired, hpending, hbound]
  rfl

theorem cycles_quiet (n : Nat) (hn : n < 2 ^ 128) :
    Quiet n ((cycles n).foldl cancelStep .new) ∧
      ((cycles n).foldl cancelStep .new).pending.table.rows = [] ∧
      ((cycles n).foldl cancelStep .new).pending.next = UInt64.ofNat n := by
  induction n with
  | zero => exact ⟨⟨rfl, rfl, fun e he => absurd he List.not_mem_nil⟩, rfl, rfl⟩
  | succ n ih =>
    obtain ⟨hq, hrows, hnext⟩ := ih (by omega)
    rw [cycles, List.foldl_append]
    generalize (cycles n).foldl cancelStep .new = s at hq hrows hnext ⊢
    obtain ⟨hcancel, hfree⟩ := quiet_cancel (n := 0) hq hrows (by omega)
    rw [Nat.add_zero] at hcancel hfree
    show Quiet (n + 1) ((cancelStep s (.cancel (wrapTask n) "stop")).retire (wrapTask n)) ∧
      ((cancelStep s (.cancel (wrapTask n) "stop")).retire (wrapTask n)).pending.table.rows = [] ∧
      ((cancelStep s (.cancel (wrapTask n) "stop")).retire (wrapTask n)).pending.next =
        UInt64.ofNat (n + 1)
    rw [hcancel]
    refine ⟨⟨?_, hq.global, ?_⟩, ?_, ?_⟩
    · show s.active.remove (wrapTask n) = Table.empty
      rw [hq.active]
      rfl
    · intro e he
      rcases AgedMap.mem_remember he with rfl | ⟨hold, -⟩
      · exact ⟨n, Nat.lt_succ_self n, rfl⟩
      · obtain ⟨k, hk, hkey⟩ := hq.retired e hold
        exact ⟨k, by omega, hkey⟩
    · refine List.eq_nil_iff_forall_not_mem.mpr ?_
      intro e he
      obtain ⟨he, hkey⟩ := Table.mem_remove.1 he
      rcases AgedMap.mem_remember he with rfl | ⟨hold, -⟩
      · exact hkey rfl
      · rw [hrows] at hold
        exact absurd hold List.not_mem_nil
    · show s.pending.next + 1 = UInt64.ofNat (n + 1)
      rw [hnext, UInt64.ofNat_add]
      rfl

theorem fill_quiet {c : Nat} {s : CancellationState} (hq : Quiet c s)
    (hrows : s.pending.table.rows = []) (hnext : s.pending.next = UInt64.ofNat c) (n : Nat)
    (hn : n ≤ maxPendingCancellations) (hc : c + n < 2 ^ 128) :
    Quiet c ((fill c n).foldl cancelStep s) ∧
      ((fill c n).foldl cancelStep s).pending.table.rows = wrapEntries c n ∧
      ((fill c n).foldl cancelStep s).pending.next = UInt64.ofNat (c + n) := by
  induction n with
  | zero => exact ⟨hq, hrows, hnext⟩
  | succ n ih =>
    obtain ⟨hq', hrows', hnext'⟩ := ih (by omega) (by omega)
    rw [fill, List.foldl_append]
    generalize (fill c n).foldl cancelStep s = s' at hq' hrows' hnext' ⊢
    obtain ⟨hcancel, hfree⟩ := quiet_cancel hq' hrows' (by omega)
    show Quiet c (cancelStep s' (.cancel (wrapTask (c + n)) "stop")) ∧
      (cancelStep s' (.cancel (wrapTask (c + n)) "stop")).pending.table.rows =
        wrapEntries c (n + 1) ∧
      (cancelStep s' (.cancel (wrapTask (c + n)) "stop")).pending.next = UInt64.ofNat (c + (n + 1))
    rw [hcancel]
    refine ⟨⟨hq'.active, hq'.global, hq'.retired⟩, ?_, ?_⟩
    · have hroom : s'.pending.makeRoom maxPendingCancellations = s'.pending := by
        unfold AgedMap.makeRoom
        rw [if_neg]
        rw [hrows', length_wrapEntries]
        omega
      show ((s'.pending.makeRoom maxPendingCancellations).table.put
        ⟨wrapTask (c + n), "stop", s'.pending.next⟩).rows = wrapEntries c (n + 1)
      rw [hroom, hnext']
      show wrapEntry c n :: (s'.pending.table.remove (wrapTask (c + n))).rows = _
      rw [Table.remove_of_get_none hfree, hrows']
      rfl
    · show s'.pending.next + 1 = UInt64.ofNat (c + (n + 1))
      rw [hnext', ← Nat.add_assoc]
      exact (UInt64.ofNat_add (c + n) 1).symm

/-- The calls before the one that is armed under number zero again. -/
def wrapBefore (c d : Nat) : List CancelCall := cycles c ++ fill c d

/-- One more task is armed, and then another one. -/
def wrapRun (c d : Nat) : List CancelCall :=
  wrapBefore c d ++
    [.cancel (wrapTask (c + d)) "stop", .cancel (wrapTask (c + (d + 1))) "stop"]

theorem cycles_task {n : Nat} {call : CancelCall} (h : call ∈ cycles n) :
    ∃ k, k < n ∧ call.task = some (wrapTask k) := by
  induction n with
  | zero => exact absurd h List.not_mem_nil
  | succ n ih =>
    rcases List.mem_append.mp h with hold | hnew
    · obtain ⟨k, hk, htask⟩ := ih hold
      exact ⟨k, by omega, htask⟩
    · refine ⟨n, Nat.lt_succ_self n, ?_⟩
      rcases List.mem_cons.mp hnew with rfl | hnew
      · rfl
      · rw [List.mem_singleton.mp hnew]
        rfl

theorem fill_task {c n : Nat} {call : CancelCall} (h : call ∈ fill c n) :
    ∃ x, x < n ∧ call.task = some (wrapTask (c + x)) := by
  induction n with
  | zero => exact absurd h List.not_mem_nil
  | succ n ih =>
    rcases List.mem_append.mp h with hold | hnew
    · obtain ⟨x, hx, htask⟩ := ih hold
      exact ⟨x, by omega, htask⟩
    · refine ⟨n, Nat.lt_succ_self n, ?_⟩
      rw [List.mem_singleton.mp hnew]
      rfl

section

variable {c d : Nat}

/-- No call before is about that task. -/
theorem wrapBefore_task (hsize : c + d < 2 ^ 128) {k : Nat} (hk : k < (wrapBefore c d).length)
    {call : CancelCall} (h : (wrapRun c d)[k]? = some call) :
    call.task ≠ some (wrapTask (c + d)) := by
  have hmem : call ∈ wrapBefore c d := by
    unfold wrapRun at h
    rw [List.getElem?_append_left hk] at h
    exact List.mem_of_getElem? h
  intro htask
  rcases List.mem_append.mp hmem with hcycle | hfill
  · obtain ⟨x, hx, hx'⟩ := cycles_task hcycle
    have heq := wrapTask_inj (by omega) hsize (Option.some.inj (hx'.symm.trans htask))
    omega
  · obtain ⟨x, hx, hx'⟩ := fill_task hfill
    have heq := wrapTask_inj (by omega) hsize (Option.some.inj (hx'.symm.trans htask))
    omega

theorem wrapRun_at : (wrapRun c d)[(wrapBefore c d).length]? =
    some (.cancel (wrapTask (c + d)) "stop") := by
  unfold wrapRun
  rw [List.getElem?_append_right (Nat.le_refl _), Nat.sub_self]
  rfl

theorem wrapRun_next : (wrapRun c d)[(wrapBefore c d).length + 1]? =
    some (.cancel (wrapTask (c + (d + 1))) "stop") := by
  unfold wrapRun
  rw [List.getElem?_append_right (by omega), Nat.add_sub_cancel_left]
  rfl

theorem wrapRun_kept {k : Nat} (hlow : (wrapBefore c d).length < k)
    (hhigh : k < (wrapBefore c d).length + 2) :
    (wrapRun c d)[k]? ≠ some (.retire (wrapTask (c + d))) := by
  obtain rfl : k = (wrapBefore c d).length + 1 := by omega
  rw [wrapRun_next]
  intro h
  cases h

theorem wrapRun_first (hsize : c + d < 2 ^ 128) :
    First (wrapRun c d) (wrapTask (c + d)) (wrapBefore c d).length := by
  constructor
  · intro k hk r hcall
    exact absurd rfl (wrapBefore_task hsize hk hcall)
  · intro k hk hcall
    exact absurd rfl (wrapBefore_task hsize hk hcall)

/-- When the counter has wrapped, the last of the waiting entries has the least number. -/
theorem wrap_oldest {s : CancellationState} (hwrap : c + d = 2 ^ 64)
    (hd : d + 1 = maxPendingCancellations)
    (hrows : s.pending.table.rows = wrapEntries c (d + 1)) :
    s.pending.oldest = some (wrapEntry c d) := by
  have hsmall : maxPendingCancellations = 1024 := rfl
  have hnum : ∀ x, (wrapEntry c x).number = (c + x) % 2 ^ 64 := fun x => UInt64.toNat_ofNat'
  cases hold : s.pending.oldest with
  | none =>
    have hnil : s.pending.table.rows = [] := List.argmin_eq_none.mp hold
    rw [hrows] at hnil
    cases hnil
  | some e =>
    have hmem : e ∈ wrapEntries c (d + 1) :=
      hrows ▸ (List.argmin_mem hold : e ∈ s.pending.table.rows)
    have hle : e.number ≤ (wrapEntry c d).number := by
      refine List.le_of_mem_argmin ?_ hold
      rw [hrows]
      exact List.mem_cons_self
    obtain ⟨x, hx, rfl⟩ := mem_wrapEntries hmem
    rw [hnum, hnum, hwrap] at hle
    have hx' : x = d := by omega
    rw [hx']

theorem wrapRun_displaces (hwrap : c + d = 2 ^ 64) (hd : d + 1 = maxPendingCancellations) :
    (cancellationAt (wrapRun c d) ((wrapBefore c d).length + 2)).reasonFor (wrapTask (c + d)) =
      none := by
  have hsmall : maxPendingCancellations = 1024 := rfl
  obtain ⟨hq, hrows, hnext⟩ := cycles_quiet c (by omega)
  obtain ⟨hq', hrows', -⟩ := fill_quiet hq hrows hnext (d + 1) (by omega) (by omega)
  have hall : cancellationAt (wrapRun c d) ((wrapBefore c d).length + 2) = cancelStep
      ((fill c (d + 1)).foldl cancelStep ((cycles c).foldl cancelStep .new))
      (.cancel (wrapTask (c + (d + 1))) "stop") := by
    unfold cancellationAt
    rw [List.take_of_length_le (by simp [wrapRun]), fill]
    unfold wrapRun wrapBefore
    rw [List.foldl_append, List.foldl_append, List.foldl_append]
    rfl
  rw [hall]
  generalize (fill c (d + 1)).foldl cancelStep ((cycles c).foldl cancelStep .new) = s at hq' hrows'
  obtain ⟨hcancel, -⟩ := quiet_cancel hq' hrows' (by omega)
  rw [hcancel]
  have hfull : maxPendingCancellations ≤ s.pending.table.rows.length := by
    rw [hrows', length_wrapEntries]
    omega
  have hne : (wrapEntry c d).key ≠ wrapTask (c + (d + 1)) := by
    intro h
    have heq := wrapTask_inj (by omega) (by omega) h
    omega
  have hnone : (s.rememberPending (wrapTask (c + (d + 1))) "stop").pending.get
      (wrapTask (c + d)) = none :=
    AgedMap.get_remember_oldest hfull (wrap_oldest hwrap hd hrows') hne
  unfold CancellationState.reasonFor CancellationState.ownReason
  rw [hnone]
  have hactive : (s.rememberPending (wrapTask (c + (d + 1))) "stop").active = s.active := rfl
  have hglobal : (s.rememberPending (wrapTask (c + (d + 1))) "stop").global = s.global := rfl
  rw [hactive, hglobal, hq'.active, hq'.global]
  rfl

/-- Only one task is armed after it. -/
theorem wrapRun_others {m : Nat} (hm : m ≤ (wrapBefore c d).length + 2) :
    (othersArmed (wrapRun c d) (wrapTask (c + d)) (wrapBefore c d).length m).dedup.length ≤ 1 := by
  have hsub : (othersArmed (wrapRun c d) (wrapTask (c + d)) (wrapBefore c d).length m).dedup ⊆
      (armedAt (wrapRun c d) ((wrapBefore c d).length + 1)).toList := by
    intro u hu
    rw [List.mem_dedup] at hu
    obtain ⟨-, k, hlow, hhigh, harmed⟩ := mem_othersArmed.1 hu
    obtain rfl : k = (wrapBefore c d).length + 1 := by omega
    rw [harmed]
    exact List.mem_singleton.mpr rfl
  have hle := (List.subperm_of_subset (List.nodup_dedup _) hsub).length_le
  have hone : (armedAt (wrapRun c d) ((wrapBefore c d).length + 1)).toList.length ≤ 1 := by
    cases armedAt (wrapRun c d) ((wrapBefore c d).length + 1) with
    | none => exact Nat.zero_le 1
    | some u => exact Nat.le_refl 1
  omega

end

/-- With this many tasks the counter has 1023 numbers left before it wraps. -/
def wrapCycles : Nat := 2 ^ 64 - 1023

/-- **A reason is displaced by the next one**: the counter has wrapped, and the latest of the
waiting reasons counts as the oldest. -/
theorem early_displacement :
    let i := (wrapBefore wrapCycles 1023).length
    let t := wrapTask (wrapCycles + 1023)
    (wrapRun wrapCycles 1023)[i]? = some (.cancel t "stop") ∧
    First (wrapRun wrapCycles 1023) t i ∧
    (∀ k, i < k → k < i + 2 → (wrapRun wrapCycles 1023)[k]? ≠ some (.retire t)) ∧
    (cancellationAt (wrapRun wrapCycles 1023) (i + 2)).reasonFor t = none ∧
    ∀ m, m ≤ i + 2 → (othersArmed (wrapRun wrapCycles 1023) t i m).dedup.length ≤ 1 := by
  have hwrap : wrapCycles + 1023 = 2 ^ 64 := by
    unfold wrapCycles
    omega
  have hsize : wrapCycles + 1023 < 2 ^ 128 := by omega
  exact ⟨wrapRun_at, wrapRun_first hsize, fun k hlow hhigh => wrapRun_kept hlow hhigh,
    wrapRun_displaces hwrap (by decide), fun m hm => wrapRun_others hm⟩

end GuiguBridge
