import Mathlib.Data.List.Nodup
import Mathlib.Data.Set.Insert
import Mathlib.Logic.Relation
import Mathlib.Tactic.Common

/-!
# Requests and their responses over one channel

Many callers share one connection.  A request gets a key, waits in a queue, is written, and is
pending until a response under its key arrives, its caller gives up, or the connection fails it.

* `Ledger` — which keys are in which place, and the log of what happened to them;
* `Ledger.Step` — the moves; `settle` takes keys out of the queue and of the pending ones, each
  failed or given up by its caller;
* `Ledger.Inv`, `Inv.step` — what every move keeps;
* `Correlated` — **a response completes the request under its key that it is the first one for**;
* `Answered` — **the first response to a written request is not lost**.
-/

namespace Correlation

variable {κ ρ τ : Type} [DecidableEq κ]

/-- What happens to a key. -/
inductive Event (κ ρ τ : Type) where
  | accepted (k : κ)
  | abandoned (k : κ)
  | wrote (k : κ)
  | responded (k : κ) (outcome : ρ)
  | completed (k : κ) (result : τ)

/-- The keys by their places; `gone` are the keys whose callers gave up. -/
structure Ledger (κ ρ τ : Type) where
  issued : Set κ
  calling : List κ
  queued : List κ
  pending : List κ
  gone : List κ
  log : List (Event κ ρ τ)

/-- The keys that were completed. -/
def completedKeys (log : List (Event κ ρ τ)) : List κ :=
  log.filterMap fun
    | .completed k _ => some k
    | _ => none

/-- The keys that were accepted. -/
def acceptedKeys (log : List (Event κ ρ τ)) : List κ :=
  log.filterMap fun
    | .accepted k => some k
    | _ => none

/-- The keys that were written. -/
def wroteKeys (log : List (Event κ ρ τ)) : List κ :=
  log.filterMap fun
    | .wrote k => some k
    | _ => none

/-- The request was written, and no response under its key came since. -/
def Waiting (k : κ) (log : List (Event κ ρ τ)) : Prop :=
  ∃ before after, log = before ++ .wrote k :: after ∧ ∀ outcome, .responded k outcome ∉ after

/-- A result that answers a response follows that response, the first one under its key since
the request was written. -/
def Correlated (answers : ρ → τ → Prop) (log : List (Event κ ρ τ)) : Prop :=
  ∀ before k result after, log = before ++ .completed k result :: after →
    ∀ o, answers o result → ∃ earlier outcome, before = earlier ++ [.responded k outcome] ∧
      Waiting k earlier ∧ answers outcome result

/-- The first response to a written request completes it, unless it is completed already or its
caller gave up. -/
def Answered (answers : ρ → τ → Prop) (log : List (Event κ ρ τ)) : Prop :=
  ∀ before k outcome after, log = before ++ .responded k outcome :: after → Waiting k before →
    (∃ result rest, after = .completed k result :: rest ∧ answers outcome result) ∨
      k ∈ completedKeys before ∨ .abandoned k ∈ before

/-- The completions of keys whose callers still wait. -/
def completions (gone : List κ) (results : List (κ × τ)) : List (Event κ ρ τ) :=
  (results.filter fun r => decide (r.1 ∉ gone)).map fun r => .completed r.1 r.2

namespace Ledger

/-- A place that only loses keys, each of them in `results` or given up. -/
structure Leaves (gone : List κ) (results : List (κ × τ)) (keys keys' : List κ) : Prop where
  sublist : keys'.Sublist keys
  left : ∀ k ∈ keys, k ∉ keys' → k ∈ gone ∨ k ∈ results.map (·.1)

variable (answers : ρ → τ → Prop)

/-- **The moves.** -/
inductive Step : Ledger κ ρ τ → Ledger κ ρ τ → Prop
  | issue (l : Ledger κ ρ τ) (k : κ) (hfresh : k ∉ l.issued) :
    Step l { l with issued := insert k l.issued, calling := l.calling ++ [k] }
  | accept (l : Ledger κ ρ τ) (k : κ) (hcalling : k ∈ l.calling) :
    Step l { l with calling := l.calling.filter fun j => decide (j ≠ k),
                    queued := l.queued ++ [k], log := l.log ++ [.accepted k] }
  | refuse (l : Ledger κ ρ τ) (k : κ) :
    Step l { l with calling := l.calling.filter fun j => decide (j ≠ k) }
  | abandon (l : Ledger κ ρ τ) (k : κ) (hissued : k ∈ l.issued) :
    Step l { l with calling := l.calling.filter fun j => decide (j ≠ k), gone := k :: l.gone,
                    log := l.log ++ [.abandoned k] }
  | write (l : Ledger κ ρ τ) (k : κ) (rest : List κ) (hqueued : l.queued = k :: rest) :
    Step l { l with queued := rest, pending := l.pending ++ [k], log := l.log ++ [.wrote k] }
  | settle (l : Ledger κ ρ τ) (queued pending : List κ) (results : List (κ × τ))
    (hqueued : Leaves l.gone results l.queued queued)
    (hpending : Leaves l.gone results l.pending pending)
    (hnodup : (results.map (·.1)).Nodup)
    (hresults : ∀ k ∈ results.map (·.1),
      (k ∈ l.queued ∧ k ∉ queued) ∨ (k ∈ l.pending ∧ k ∉ pending))
    (hfailures : ∀ r ∈ results, ∀ o, ¬ answers o r.2) :
    Step l { l with queued := queued, pending := pending,
                    log := l.log ++ completions l.gone results }
  | respond (l : Ledger κ ρ τ) (k : κ) (outcome : ρ) (result : τ)
    (hanswers : answers outcome result) :
    Step l { l with pending := l.pending.filter fun j => decide (j ≠ k),
                    log := l.log ++ .responded k outcome ::
                      if k ∈ l.pending ∧ k ∉ l.gone then [.completed k result] else [] }

/-- What every move keeps. -/
structure Inv (l : Ledger κ ρ τ) : Prop where
  nodup : (l.calling ++ (l.queued ++ l.pending)).Nodup
  issued : ∀ k ∈ l.calling ++ (l.queued ++ l.pending), k ∈ l.issued
  unaccepted : ∀ k ∈ l.calling, .accepted k ∉ l.log
  unwritten : ∀ k ∈ l.calling ++ l.queued, .wrote k ∉ l.log
  uncompleted : ∀ k ∈ l.calling ++ (l.queued ++ l.pending), k ∉ completedKeys l.log
  waiting : ∀ k ∈ l.pending, Waiting k l.log
  gone : ∀ k, k ∈ l.gone ↔ .abandoned k ∈ l.log
  logged : ∀ k, k ∈ acceptedKeys l.log ∨ .wrote k ∈ l.log ∨ k ∈ completedKeys l.log →
    k ∈ l.issued
  accepted_once : (acceptedKeys l.log).Nodup
  wrote_once : (wroteKeys l.log).Nodup
  completed_once : (completedKeys l.log).Nodup
  accounted : ∀ k, .accepted k ∈ l.log → k ∈ l.queued ∨ k ∈ l.pending ∨
    k ∈ completedKeys l.log ∨ .abandoned k ∈ l.log
  written : ∀ k, .wrote k ∈ l.log → k ∈ l.pending ∨ k ∈ completedKeys l.log ∨
    .abandoned k ∈ l.log
  correlated : Correlated answers l.log
  answered : Answered answers l.log

/-- Nothing happened yet. -/
def empty : Ledger κ ρ τ := ⟨∅, [], [], [], [], []⟩

end Ledger

/-! ### Logs -/

section Logs

variable {answers : ρ → τ → Prop} {log events : List (Event κ ρ τ)} {k : κ}

omit [DecidableEq κ] in
@[simp] theorem completedKeys_append (log events : List (Event κ ρ τ)) :
    completedKeys (log ++ events) = completedKeys log ++ completedKeys events :=
  List.filterMap_append

omit [DecidableEq κ] in
@[simp] theorem acceptedKeys_append (log events : List (Event κ ρ τ)) :
    acceptedKeys (log ++ events) = acceptedKeys log ++ acceptedKeys events :=
  List.filterMap_append

omit [DecidableEq κ] in
@[simp] theorem wroteKeys_append (log events : List (Event κ ρ τ)) :
    wroteKeys (log ++ events) = wroteKeys log ++ wroteKeys events :=
  List.filterMap_append

omit [DecidableEq κ] in
theorem mem_wroteKeys : k ∈ wroteKeys log ↔ Event.wrote k ∈ log := by
  unfold wroteKeys
  rw [List.mem_filterMap]
  constructor
  · intro h
    obtain ⟨e, he, hkey⟩ := h
    cases e with
    | wrote j =>
      obtain rfl := Option.some.inj hkey
      exact he
    | _ => cases hkey
  · intro h
    exact ⟨_, h, rfl⟩

omit [DecidableEq κ] in
/-- Events that write nothing. -/
theorem wroteKeys_none (h : ∀ k, Event.wrote k ∉ events) :
    wroteKeys (log ++ events) = wroteKeys log := by
  have hnone : wroteKeys events = [] := by
    apply List.eq_nil_iff_forall_not_mem.mpr
    intro k hk
    exact h k (mem_wroteKeys.1 hk)
  rw [wroteKeys_append, hnone, List.append_nil]

omit [DecidableEq κ] in
theorem mem_acceptedKeys : k ∈ acceptedKeys log ↔ Event.accepted k ∈ log := by
  unfold acceptedKeys
  rw [List.mem_filterMap]
  constructor
  · intro h
    obtain ⟨e, he, hkey⟩ := h
    cases e with
    | accepted j =>
      obtain rfl := Option.some.inj hkey
      exact he
    | _ => cases hkey
  · intro h
    exact ⟨_, h, rfl⟩

omit [DecidableEq κ] in
theorem completedKeys_completions (results : List (κ × τ)) :
    completedKeys (results.map fun r => (Event.completed r.1 r.2 : Event κ ρ τ)) =
      results.map (·.1) := by
  unfold completedKeys
  rw [List.filterMap_map, ← List.filterMap_eq_map]
  apply List.filterMap_congr
  intro r _
  rfl

/-- The keys that are completed of `results`. -/
theorem mem_completions {gone : List κ} {results : List (κ × τ)} :
    k ∈ completedKeys (completions gone results : List (Event κ ρ τ)) ↔
      k ∈ results.map (·.1) ∧ k ∉ gone := by
  unfold completions
  rw [completedKeys_completions, List.mem_map, List.mem_map]
  constructor
  · intro h
    obtain ⟨r, hr, rfl⟩ := h
    rw [List.mem_filter, decide_eq_true_eq] at hr
    exact ⟨⟨r, hr.1, rfl⟩, hr.2⟩
  · intro h
    obtain ⟨⟨r, hr, rfl⟩, hgone⟩ := h
    refine ⟨r, ?_, rfl⟩
    rw [List.mem_filter, decide_eq_true_eq]
    exact ⟨hr, hgone⟩

/-- Completions are completions only. -/
theorem completions_only {gone : List κ} {results : List (κ × τ)} {e : Event κ ρ τ}
    (h : e ∈ completions gone results) : ∃ r ∈ results, e = Event.completed r.1 r.2 := by
  obtain ⟨r, hr, rfl⟩ := List.mem_map.mp h
  exact ⟨r, List.mem_of_mem_filter hr, rfl⟩

omit [DecidableEq κ] in
theorem Waiting.append (h : Waiting k log) (hevents : ∀ outcome, .responded k outcome ∉ events) :
    Waiting k (log ++ events) := by
  obtain ⟨before, after, rfl, hnone⟩ := h
  refine ⟨before, after ++ events, by simp, ?_⟩
  intro outcome hmem
  rcases List.mem_append.mp hmem with hold | hnew
  · exact hnone outcome hold
  · exact hevents outcome hnew

omit [DecidableEq κ] in
theorem Waiting.wrote (h : Waiting k log) : Event.wrote k ∈ log := by
  obtain ⟨before, after, rfl, -⟩ := h
  simp

omit [DecidableEq κ] in
/-- Where an event of an extended log stands. -/
theorem split_append {before after : List (Event κ ρ τ)} {e : Event κ ρ τ}
    (h : log ++ events = before ++ e :: after) :
    (∃ rest, log = before ++ e :: rest ∧ after = rest ++ events) ∨
      ∃ front, before = log ++ front ∧ events = front ++ e :: after := by
  rcases List.append_eq_append_iff.mp h with ⟨front, hbefore, hevents⟩ | ⟨front, hlog, hafter⟩
  · exact Or.inr ⟨front, hbefore, hevents⟩
  · cases front with
    | nil =>
      rw [List.append_nil] at hlog
      exact Or.inr ⟨[], by simp [hlog], by simpa using hafter.symm⟩
    | cons x rest =>
      obtain ⟨rfl, rfl⟩ := List.cons.inj hafter
      exact Or.inl ⟨rest, hlog, rfl⟩

omit [DecidableEq κ] in
/-- Events that complete nothing by a response. -/
theorem Correlated.append (h : Correlated answers log)
    (hevents : ∀ k result, Event.completed k result ∈ events → ∀ o, ¬ answers o result) :
    Correlated answers (log ++ events) := by
  intro before k result after hsplit o ho
  rcases split_append hsplit with ⟨rest, hlog, -⟩ | ⟨front, -, hfront⟩
  · exact h before k result rest hlog o ho
  · have hmem : Event.completed k result ∈ events := by
      rw [hfront]
      simp
    exact absurd ho (hevents k result hmem o)

omit [DecidableEq κ] in
/-- Events that are no responses. -/
theorem Answered.append (h : Answered answers log)
    (hevents : ∀ k outcome, Event.responded k outcome ∉ events) :
    Answered answers (log ++ events) := by
  intro before k outcome after hsplit hwaiting
  rcases split_append hsplit with ⟨rest, hlog, rfl⟩ | ⟨front, -, hfront⟩
  · rcases h before k outcome rest hlog hwaiting with ⟨result, tail, rfl, hanswers⟩ | hother
    · exact Or.inl ⟨result, tail ++ events, rfl, hanswers⟩
    · exact Or.inr hother
  · exact absurd (by rw [hfront]; simp) (hevents k outcome)

omit [DecidableEq κ] in
/-- A response that completes a request which waits for it, or completes nothing. -/
theorem Correlated.respond (h : Correlated answers log) {outcome : ρ} {result : τ} {c : Prop}
    [Decidable c] (hanswers : answers outcome result) (hwaiting : c → Waiting k log) :
    Correlated answers
      (log ++ Event.responded k outcome :: if c then [Event.completed k result] else []) := by
  intro before j result' after hsplit o ho
  rcases split_append hsplit with ⟨rest, hlog, -⟩ | ⟨front, hbefore, hfront⟩
  · exact h before j result' rest hlog o ho
  · by_cases hc : c
    · rw [if_pos hc] at hfront
      -- the completion is the last event, and the response stands before it
      cases front with
      | nil => cases hfront
      | cons x front =>
        obtain ⟨rfl, htail⟩ := List.cons.inj hfront
        clear hfront
        cases front with
        | nil =>
          have hcompleted : Event.completed k result = (Event.completed j result' : Event κ ρ τ) :=
            (List.cons.inj htail).1
          obtain ⟨rfl, rfl⟩ := Event.completed.inj hcompleted
          exact ⟨log, outcome, hbefore, hwaiting hc, hanswers⟩
        | cons y front =>
          obtain ⟨-, hnil⟩ := List.cons.inj htail
          exact absurd hnil.symm (by simp)
    · rw [if_neg hc] at hfront
      cases front with
      | nil => cases hfront
      | cons x front =>
        obtain ⟨-, hnil⟩ := List.cons.inj hfront
        exact absurd hnil.symm (by simp)

omit [DecidableEq κ] in
theorem Answered.respond (h : Answered answers log) {outcome : ρ} {result : τ} {c : Prop}
    [Decidable c] (hanswers : answers outcome result)
    (hlost : Waiting k log → ¬ c → k ∈ completedKeys log ∨ Event.abandoned k ∈ log) :
    Answered answers (log ++ Event.responded k outcome ::
      if c then [Event.completed k result] else []) := by
  intro before j outcome' after hsplit hwaiting
  rcases split_append hsplit with ⟨rest, hlog, rfl⟩ | ⟨front, hbefore, hfront⟩
  · rcases h before j outcome' rest hlog hwaiting with ⟨r, tail, rfl, hr⟩ | hother
    · exact Or.inl ⟨r, _, rfl, hr⟩
    · exact Or.inr hother
  · cases front with
    | nil =>
      obtain ⟨hevent, hafter⟩ := List.cons.inj hfront
      cases hevent
      rw [List.append_nil] at hbefore
      subst hbefore
      by_cases hc : c
      · rw [if_pos hc] at hafter
        exact Or.inl ⟨result, [], hafter.symm, hanswers⟩
      · exact Or.inr (hlost hwaiting hc)
    | cons x front =>
      -- behind the response stands at most a completion
      obtain ⟨-, hfront⟩ := List.cons.inj hfront
      have hmem : Event.responded j outcome' ∈
          (if c then [Event.completed k result] else [] : List (Event κ ρ τ)) := by
        rw [hfront]
        simp
      split at hmem
      · cases List.mem_singleton.mp hmem
      · exact absurd hmem List.not_mem_nil

end Logs

/-! ### What the moves keep -/

namespace Ledger

section Moves

variable {answers : ρ → τ → Prop} {l l' : Ledger κ ρ τ}

omit [DecidableEq κ] in
theorem inv_empty : Inv answers (empty : Ledger κ ρ τ) where
  nodup := List.nodup_nil
  issued := fun _ h => absurd h List.not_mem_nil
  unaccepted := fun _ h => absurd h List.not_mem_nil
  unwritten := fun _ h => absurd h List.not_mem_nil
  uncompleted := fun _ h => absurd h List.not_mem_nil
  waiting := fun _ h => absurd h List.not_mem_nil
  gone := fun _ => ⟨fun h => absurd h List.not_mem_nil, fun h => absurd h List.not_mem_nil⟩
  logged := by
    intro k h
    rcases h with h | h | h
    · exact absurd h List.not_mem_nil
    · exact absurd h List.not_mem_nil
    · exact absurd h List.not_mem_nil
  accepted_once := List.nodup_nil
  wrote_once := List.nodup_nil
  completed_once := List.nodup_nil
  accounted := fun _ h => absurd h List.not_mem_nil
  written := fun _ h => absurd h List.not_mem_nil
  correlated := fun before _ _ _ h => absurd h (by simp [empty])
  answered := fun before _ _ _ h => absurd h (by simp [empty])

omit [DecidableEq κ] in
/-- A key that was never issued is in no event. -/
theorem Inv.not_logged (h : Inv answers l) {k : κ} (hk : k ∉ l.issued) :
    Event.accepted k ∉ l.log ∧ Event.wrote k ∉ l.log ∧ k ∉ completedKeys l.log := by
  refine ⟨?_, ?_, ?_⟩
  · intro hmem
    exact hk (h.logged k (Or.inl (mem_acceptedKeys.2 hmem)))
  · intro hmem
    exact hk (h.logged k (Or.inr (Or.inl hmem)))
  · intro hmem
    exact hk (h.logged k (Or.inr (Or.inr hmem)))

omit [DecidableEq κ] in
theorem Inv.issue (h : Inv answers l) {k : κ} (hfresh : k ∉ l.issued) :
    Inv answers { l with issued := insert k l.issued, calling := l.calling ++ [k] } := by
  obtain ⟨hunaccepted, hunwritten, huncompleted⟩ := h.not_logged hfresh
  have hout : k ∉ l.calling ++ (l.queued ++ l.pending) := fun hmem => hfresh (h.issued k hmem)
  have hmem : ∀ j, j ∈ (l.calling ++ [k]) ++ (l.queued ++ l.pending) ↔
      j = k ∨ j ∈ l.calling ++ (l.queued ++ l.pending) := by
    intro j
    simp only [List.mem_append, List.mem_singleton]
    tauto
  constructor
  · have hperm : ((l.calling ++ [k]) ++ (l.queued ++ l.pending)).Perm
        (k :: (l.calling ++ (l.queued ++ l.pending))) := by
      rw [List.append_assoc]
      exact List.perm_middle
    exact hperm.nodup_iff.mpr (List.nodup_cons.mpr ⟨hout, h.nodup⟩)
  · intro j hj
    rcases (hmem j).mp hj with rfl | hold
    · exact Set.mem_insert _ _
    · exact Set.mem_insert_of_mem _ (h.issued j hold)
  · intro j hj
    rcases List.mem_append.mp hj with hold | hnew
    · exact h.unaccepted j hold
    · obtain rfl := List.mem_singleton.mp hnew
      exact hunaccepted
  · intro j hj
    rw [List.mem_append, List.mem_append, List.mem_singleton] at hj
    rcases hj with (hold | rfl) | hqueued
    · exact h.unwritten j (List.mem_append_left _ hold)
    · exact hunwritten
    · exact h.unwritten j (List.mem_append_right _ hqueued)
  · intro j hj
    rcases (hmem j).mp hj with rfl | hold
    · exact huncompleted
    · exact h.uncompleted j hold
  · exact h.waiting
  · exact h.gone
  · exact fun j hj => Set.mem_insert_of_mem _ (h.logged j hj)
  · exact h.accepted_once
  · exact h.wrote_once
  · exact h.completed_once
  · exact h.accounted
  · exact h.written
  · exact h.correlated
  · exact h.answered

/-- A caller leaves before its request is accepted. -/
theorem Inv.refuse (h : Inv answers l) (k : κ) :
    Inv answers { l with calling := l.calling.filter fun j => decide (j ≠ k) } := by
  have hsub : (l.calling.filter fun j => decide (j ≠ k)).Sublist l.calling :=
    List.filter_sublist
  have hmem : ∀ j, j ∈ (l.calling.filter fun j => decide (j ≠ k)) ++ (l.queued ++ l.pending) →
      j ∈ l.calling ++ (l.queued ++ l.pending) :=
    fun j hj => (hsub.append_right _).subset hj
  constructor
  · exact h.nodup.sublist (hsub.append_right _)
  · exact fun j hj => h.issued j (hmem j hj)
  · exact fun j hj => h.unaccepted j (hsub.subset hj)
  · exact fun j hj => h.unwritten j ((hsub.append_right _).subset hj)
  · exact fun j hj => h.uncompleted j (hmem j hj)
  · exact h.waiting
  · exact h.gone
  · exact h.logged
  · exact h.accepted_once
  · exact h.wrote_once
  · exact h.completed_once
  · exact h.accounted
  · exact h.written
  · exact h.correlated
  · exact h.answered

theorem Inv.accept (h : Inv answers l) {k : κ} (hcalling : k ∈ l.calling) :
    Inv answers { l with calling := l.calling.filter fun j => decide (j ≠ k),
                         queued := l.queued ++ [k], log := l.log ++ [Event.accepted k] } := by
  have hperm : ((l.calling.filter fun j => decide (j ≠ k)) ++
      ((l.queued ++ [k]) ++ l.pending)).Perm (l.calling ++ (l.queued ++ l.pending)) := by
    have hcalls : (k :: l.calling.filter fun j => decide (j ≠ k)).Perm l.calling := by
      have hnodup : l.calling.Nodup := (List.nodup_append.mp h.nodup).1
      have herase : l.calling.erase k = l.calling.filter fun j => decide (j ≠ k) := by
        rw [hnodup.erase_eq_filter]
        apply List.filter_congr
        intro j _
        by_cases hj : j = k
        · simp [hj]
        · simp [hj]
      rw [← herase]
      exact (List.perm_cons_erase hcalling).symm
    have hmiddle : ((l.calling.filter fun j => decide (j ≠ k)) ++
        ((l.queued ++ [k]) ++ l.pending)).Perm
        ((k :: l.calling.filter fun j => decide (j ≠ k)) ++ (l.queued ++ l.pending)) := by
      have hshift : ((l.calling.filter fun j => decide (j ≠ k)) ++ l.queued ++
          k :: l.pending).Perm (k :: ((l.calling.filter fun j => decide (j ≠ k)) ++ l.queued ++
            l.pending)) := List.perm_middle
      simpa using hshift
    exact hmiddle.trans (hcalls.append_right _)
  have hcompleted : completedKeys (l.log ++ [Event.accepted k]) = completedKeys l.log := by
    rw [completedKeys_append]
    exact List.append_nil _
  have hwrote : ∀ j, Event.wrote j ∈ l.log ++ [Event.accepted k] → Event.wrote j ∈ l.log := by
    intro j hj
    rcases List.mem_append.mp hj with hold | hnew
    · exact hold
    · cases List.mem_singleton.mp hnew
  have habandoned : ∀ j, Event.abandoned j ∈ l.log ++ [Event.accepted k] ↔ .abandoned j ∈ l.log := by
    intro j
    simp
  have howned : ∀ j, j ∈ (l.calling.filter fun j => decide (j ≠ k)) ++
      ((l.queued ++ [k]) ++ l.pending) → j ∈ l.calling ++ (l.queued ++ l.pending) :=
    fun j hj => hperm.subset hj
  have hk : k ∈ l.calling ++ (l.queued ++ l.pending) := List.mem_append_left _ hcalling
  have haccepted : acceptedKeys (l.log ++ [Event.accepted k]) = acceptedKeys l.log ++ [k] := by
    rw [acceptedKeys_append]
    rfl
  constructor
  · exact hperm.nodup_iff.mpr h.nodup
  · exact fun j hj => h.issued j (howned j hj)
  · intro j hj
    rw [List.mem_filter, decide_eq_true_eq] at hj
    intro hmem
    rcases List.mem_append.mp hmem with hold | hnew
    · exact h.unaccepted j hj.1 hold
    · cases List.mem_singleton.mp hnew
      exact hj.2 rfl
  · intro j hj hmem
    have hj' : j ∈ l.calling ++ l.queued := by
      rw [List.mem_append, List.mem_filter, List.mem_append, List.mem_singleton] at hj
      rcases hj with hcall | hqueue | rfl
      · exact List.mem_append_left _ hcall.1
      · exact List.mem_append_right _ hqueue
      · exact List.mem_append_left _ hcalling
    exact h.unwritten j hj' (hwrote j hmem)
  · intro j hj
    rw [hcompleted]
    exact h.uncompleted j (howned j hj)
  · intro j hj
    apply (h.waiting j hj).append
    intro outcome hmem
    cases List.mem_singleton.mp hmem
  · intro j
    rw [habandoned]
    exact h.gone j
  · intro j hj
    rw [haccepted, hcompleted, List.mem_append, List.mem_singleton] at hj
    rcases hj with (hold | rfl) | hwritten | hdone
    · exact h.logged j (Or.inl hold)
    · exact h.issued j hk
    · exact h.logged j (Or.inr (Or.inl (hwrote j hwritten)))
    · exact h.logged j (Or.inr (Or.inr hdone))
  · rw [haccepted, List.nodup_append]
    refine ⟨h.accepted_once, List.nodup_singleton k, ?_⟩
    intro j hj i hi hsame
    obtain rfl := List.mem_singleton.mp hi
    rw [hsame] at hj
    exact h.unaccepted i hcalling (mem_acceptedKeys.1 hj)
  · rw [wroteKeys_none (by simp)]
    exact h.wrote_once
  · rw [hcompleted]
    exact h.completed_once
  · intro j hj
    rw [hcompleted, habandoned]
    rcases List.mem_append.mp hj with hold | hnew
    · rcases h.accounted j hold with hqueued | hother
      · exact Or.inl (List.mem_append_left _ hqueued)
      · exact Or.inr hother
    · cases List.mem_singleton.mp hnew
      exact Or.inl (by simp)
  · intro j hj
    rw [hcompleted, habandoned]
    exact h.written j (hwrote j hj)
  · apply h.correlated.append
    intro j result hmem
    cases List.mem_singleton.mp hmem
  · apply h.answered.append
    intro j outcome hmem
    cases List.mem_singleton.mp hmem

theorem Inv.abandon (h : Inv answers l) (k : κ) :
    Inv answers { l with calling := l.calling.filter fun j => decide (j ≠ k), gone := k :: l.gone,
                         log := l.log ++ [Event.abandoned k] } := by
  have hr := h.refuse k
  have hcompleted : completedKeys (l.log ++ [Event.abandoned k]) = completedKeys l.log := by
    rw [completedKeys_append]
    exact List.append_nil _
  have haccepted : acceptedKeys (l.log ++ [Event.abandoned k]) = acceptedKeys l.log := by
    rw [acceptedKeys_append]
    exact List.append_nil _
  have hwrote : ∀ j, Event.wrote j ∈ l.log ++ [Event.abandoned k] ↔ Event.wrote j ∈ l.log := by
    intro j
    simp
  have hmem : ∀ j, Event.accepted j ∈ l.log ++ [Event.abandoned k] ↔ Event.accepted j ∈ l.log := by
    intro j
    simp
  have hkept : ∀ j, Event.abandoned j ∈ l.log → Event.abandoned j ∈ l.log ++ [Event.abandoned k] :=
    fun j hj => List.mem_append_left _ hj
  constructor
  · exact hr.nodup
  · exact hr.issued
  · intro j hj
    rw [hmem]
    exact hr.unaccepted j hj
  · intro j hj
    rw [hwrote]
    exact hr.unwritten j hj
  · intro j hj
    rw [hcompleted]
    exact hr.uncompleted j hj
  · intro j hj
    apply (h.waiting j hj).append
    intro outcome hmem
    cases List.mem_singleton.mp hmem
  · intro j
    rw [List.mem_cons, List.mem_append, List.mem_singleton, ← h.gone j, or_comm]
    constructor
    · intro hj
      rcases hj with hold | rfl
      · exact Or.inl hold
      · exact Or.inr rfl
    · intro hj
      rcases hj with hold | hnew
      · exact Or.inl hold
      · exact Or.inr (Event.abandoned.inj hnew)
  · intro j hj
    rw [haccepted, hcompleted, hwrote] at hj
    exact h.logged j hj
  · rw [haccepted]
    exact h.accepted_once
  · rw [wroteKeys_none (by simp)]
    exact h.wrote_once
  · rw [hcompleted]
    exact h.completed_once
  · intro j hj
    rw [hcompleted]
    rcases h.accounted j ((hmem j).mp hj) with hqueued | hpending | hdone | hgone
    · exact Or.inl hqueued
    · exact Or.inr (Or.inl hpending)
    · exact Or.inr (Or.inr (Or.inl hdone))
    · exact Or.inr (Or.inr (Or.inr (hkept j hgone)))
  · intro j hj
    rw [hcompleted]
    rcases h.written j ((hwrote j).mp hj) with hpending | hdone | hgone
    · exact Or.inl hpending
    · exact Or.inr (Or.inl hdone)
    · exact Or.inr (Or.inr (hkept j hgone))
  · apply h.correlated.append
    intro j result hmem
    cases List.mem_singleton.mp hmem
  · apply h.answered.append
    intro j outcome hmem
    cases List.mem_singleton.mp hmem

omit [DecidableEq κ] in
theorem Inv.write (h : Inv answers l) {k : κ} {rest : List κ} (hqueued : l.queued = k :: rest) :
    Inv answers { l with queued := rest, pending := l.pending ++ [k],
                         log := l.log ++ [Event.wrote k] } := by
  have hperm : (l.calling ++ (rest ++ (l.pending ++ [k]))).Perm
      (l.calling ++ (l.queued ++ l.pending)) := by
    rw [hqueued]
    apply List.Perm.append_left
    rw [← List.append_assoc]
    exact List.perm_append_singleton k (rest ++ l.pending)
  have hk : k ∈ l.queued := by
    rw [hqueued]
    exact List.mem_cons_self
  have hcompleted : completedKeys (l.log ++ [Event.wrote k]) = completedKeys l.log := by
    rw [completedKeys_append]
    exact List.append_nil _
  have haccepted : acceptedKeys (l.log ++ [Event.wrote k]) = acceptedKeys l.log := by
    rw [acceptedKeys_append]
    exact List.append_nil _
  have hmem : ∀ j, Event.accepted j ∈ l.log ++ [Event.wrote k] ↔ Event.accepted j ∈ l.log := by
    intro j
    simp
  have habandoned : ∀ j, Event.abandoned j ∈ l.log ++ [Event.wrote k] ↔ .abandoned j ∈ l.log := by
    intro j
    simp
  have howned : ∀ j, j ∈ l.calling ++ (rest ++ (l.pending ++ [k])) →
      j ∈ l.calling ++ (l.queued ++ l.pending) := fun j hj => hperm.subset hj
  have hnodup := h.nodup
  rw [List.nodup_append, hqueued] at hnodup
  constructor
  · exact hperm.nodup_iff.mpr h.nodup
  · exact fun j hj => h.issued j (howned j hj)
  · intro j hj
    rw [hmem]
    exact h.unaccepted j hj
  · -- the key that is written was in the queue once
    intro j hj hwrote
    have hne : j ≠ k := by
      rintro rfl
      rcases List.mem_append.mp hj with hcall | hrest
      · exact hnodup.2.2 j hcall j (by simp) rfl
      · exact (List.nodup_cons.mp hnodup.2.1).1 (List.mem_append_left _ hrest)
    have hold : j ∈ l.calling ++ l.queued := by
      rw [hqueued]
      rcases List.mem_append.mp hj with hcall | hrest
      · exact List.mem_append_left _ hcall
      · exact List.mem_append_right _ (List.mem_cons_of_mem _ hrest)
    rcases List.mem_append.mp hwrote with hbefore | hnew
    · exact h.unwritten j hold hbefore
    · cases List.mem_singleton.mp hnew
      exact hne rfl
  · intro j hj
    rw [hcompleted]
    exact h.uncompleted j (howned j hj)
  · intro j hj
    rcases List.mem_append.mp hj with hold | hnew
    · apply (h.waiting j hold).append
      intro outcome hmem
      cases List.mem_singleton.mp hmem
    · obtain rfl := List.mem_singleton.mp hnew
      exact ⟨l.log, [], rfl, fun _ => List.not_mem_nil⟩
  · intro j
    rw [habandoned]
    exact h.gone j
  · intro j hj
    rw [haccepted, hcompleted] at hj
    rcases hj with hold | hwrote | hdone
    · exact h.logged j (Or.inl hold)
    · rcases List.mem_append.mp hwrote with hold | hnew
      · exact h.logged j (Or.inr (Or.inl hold))
      · cases List.mem_singleton.mp hnew
        exact h.issued _ (List.mem_append_right _ (List.mem_append_left _ hk))
    · exact h.logged j (Or.inr (Or.inr hdone))
  · rw [haccepted]
    exact h.accepted_once
  · rw [wroteKeys_append, List.nodup_append]
    refine ⟨h.wrote_once, List.nodup_singleton k, ?_⟩
    intro j hj i hi hsame
    obtain rfl := List.mem_singleton.mp hi
    rw [hsame] at hj
    exact h.unwritten i (List.mem_append_right _ hk) (mem_wroteKeys.1 hj)
  · rw [hcompleted]
    exact h.completed_once
  · intro j hj
    rw [hcompleted, habandoned]
    rcases h.accounted j ((hmem j).mp hj) with hq | hpending | hother
    · rw [hqueued] at hq
      rcases List.mem_cons.mp hq with rfl | hrest
      · exact Or.inr (Or.inl (by simp))
      · exact Or.inl hrest
    · exact Or.inr (Or.inl (List.mem_append_left _ hpending))
    · exact Or.inr (Or.inr hother)
  · intro j hj
    rw [hcompleted, habandoned]
    rcases List.mem_append.mp hj with hold | hnew
    · rcases h.written j hold with hpending | hother
      · exact Or.inl (List.mem_append_left _ hpending)
      · exact Or.inr hother
    · cases List.mem_singleton.mp hnew
      exact Or.inl (by simp)
  · apply h.correlated.append
    intro j result hmem
    cases List.mem_singleton.mp hmem
  · apply h.answered.append
    intro j outcome hmem
    cases List.mem_singleton.mp hmem

/-- What completions add to a log. -/
theorem mem_append_completions {log : List (Event κ ρ τ)} {gone : List κ}
    {results : List (κ × τ)} {e : Event κ ρ τ} (hother : ∀ k r, e ≠ Event.completed k r) :
    e ∈ log ++ completions gone results ↔ e ∈ log := by
  rw [List.mem_append]
  constructor
  · intro h
    rcases h with hold | hnew
    · exact hold
    · obtain ⟨r, -, he⟩ := completions_only hnew
      exact absurd he (hother r.1 r.2)
  · exact Or.inl

/-- **Keys leave the queue and the pending ones**, failed or given up. -/
theorem Inv.settle (h : Inv answers l) {queued pending : List κ} {results : List (κ × τ)}
    (hqueued : Leaves l.gone results l.queued queued)
    (hpending : Leaves l.gone results l.pending pending)
    (hnodup : (results.map (·.1)).Nodup)
    (hresults : ∀ k ∈ results.map (·.1),
      (k ∈ l.queued ∧ k ∉ queued) ∨ (k ∈ l.pending ∧ k ∉ pending))
    (hfailures : ∀ r ∈ results, ∀ o, ¬ answers o r.2) :
    Inv answers { l with queued := queued, pending := pending,
                         log := l.log ++ completions l.gone results } := by
  have hsub : (l.calling ++ (queued ++ pending)).Sublist
      (l.calling ++ (l.queued ++ l.pending)) :=
    List.Sublist.append_left (hqueued.sublist.append hpending.sublist) _
  have hacceptedKeys : acceptedKeys (l.log ++ completions l.gone results) =
      acceptedKeys l.log := by
    have hnone : acceptedKeys (completions l.gone results : List (Event κ ρ τ)) = [] := by
      unfold acceptedKeys
      rw [List.filterMap_eq_nil_iff]
      intro e he
      obtain ⟨r, -, rfl⟩ := completions_only he
      rfl
    rw [acceptedKeys_append, hnone, List.append_nil]
  have hacceptedLog : ∀ j, Event.accepted j ∈ l.log ++ completions l.gone results ↔
      Event.accepted j ∈ l.log := fun j => mem_append_completions nofun
  have hwroteLog : ∀ j, Event.wrote j ∈ l.log ++ completions l.gone results ↔ .wrote j ∈ l.log :=
    fun j => mem_append_completions nofun
  have habandonedLog : ∀ j, Event.abandoned j ∈ l.log ++ completions l.gone results ↔
      Event.abandoned j ∈ l.log := fun j => mem_append_completions nofun
  have hmem : ∀ j, j ∈ completedKeys (l.log ++ completions l.gone results) ↔
      j ∈ completedKeys l.log ∨ (j ∈ results.map (·.1) ∧ j ∉ l.gone) := by
    intro j
    rw [completedKeys_append, List.mem_append, mem_completions]
  have howned : ∀ j, j ∈ results.map (·.1) → j ∈ l.calling ++ (l.queued ++ l.pending) := by
    intro j hj
    rcases hresults j hj with ⟨hq, -⟩ | ⟨hp, -⟩
    · exact List.mem_append_right _ (List.mem_append_left _ hq)
    · exact List.mem_append_right _ (List.mem_append_right _ hp)
  have hsettled : ∀ j, (j ∈ l.gone ∨ j ∈ results.map (·.1)) →
      j ∈ completedKeys (l.log ++ completions l.gone results) ∨
        Event.abandoned j ∈ l.log ++ completions l.gone results := by
    intro j hj
    by_cases hgone : j ∈ l.gone
    · exact Or.inr (List.mem_append_left _ ((h.gone j).mp hgone))
    · rcases hj with hg | hr
      · exact absurd hg hgone
      · exact Or.inl ((hmem j).mpr (Or.inr ⟨hr, hgone⟩))
  -- what is left is in no result
  have hleft : ∀ j ∈ l.calling ++ (queued ++ pending), j ∉ results.map (·.1) := by
    intro j hj hr
    have hdisjoint := h.nodup
    rw [List.nodup_append, List.nodup_append] at hdisjoint
    obtain ⟨-, ⟨-, -, hqp⟩, hcall⟩ := hdisjoint
    rcases hresults j hr with ⟨hq, hnot⟩ | ⟨hp, hnot⟩
    · rcases List.mem_append.mp hj with hc | hrest
      · exact hcall j hc j (List.mem_append_left _ hq) rfl
      · rcases List.mem_append.mp hrest with hq' | hp'
        · exact hnot hq'
        · exact hqp j hq j (hpending.sublist.subset hp') rfl
    · rcases List.mem_append.mp hj with hc | hrest
      · exact hcall j hc j (List.mem_append_right _ hp) rfl
      · rcases List.mem_append.mp hrest with hq' | hp'
        · exact hqp j (hqueued.sublist.subset hq') j hp rfl
        · exact hnot hp'
  constructor
  · exact h.nodup.sublist hsub
  · exact fun j hj => h.issued j (hsub.subset hj)
  · intro j hj
    rw [hacceptedLog]
    exact h.unaccepted j hj
  · intro j hj
    rw [hwroteLog]
    exact h.unwritten j ((List.Sublist.append_left hqueued.sublist _).subset hj)
  · intro j hj hdone
    rcases (hmem j).mp hdone with hold | ⟨hr, -⟩
    · exact h.uncompleted j (hsub.subset hj) hold
    · exact hleft j hj hr
  · intro j hj
    apply (h.waiting j (hpending.sublist.subset hj)).append
    intro outcome hmem
    obtain ⟨r, -, he⟩ := completions_only hmem
    cases he
  · intro j
    rw [habandonedLog]
    exact h.gone j
  · intro j hj
    rw [hacceptedKeys, hwroteLog, hmem] at hj
    rcases hj with hold | hwrote | hdone | ⟨hr, -⟩
    · exact h.logged j (Or.inl hold)
    · exact h.logged j (Or.inr (Or.inl hwrote))
    · exact h.logged j (Or.inr (Or.inr hdone))
    · exact h.issued j (howned j hr)
  · rw [hacceptedKeys]
    exact h.accepted_once
  · rw [wroteKeys_none]
    · exact h.wrote_once
    · intro j hj
      obtain ⟨r, -, he⟩ := completions_only hj
      cases he
  · rw [completedKeys_append, List.nodup_append]
    refine ⟨h.completed_once, ?_, ?_⟩
    · unfold completions
      rw [completedKeys_completions]
      exact hnodup.sublist (List.filter_sublist.map _)
    · intro j hj i hi hsame
      rw [hsame] at hj
      exact h.uncompleted i (howned i (mem_completions.1 hi).1) hj
  · intro j hj
    rw [hacceptedLog] at hj
    rcases h.accounted j hj with hq | hp | hdone | hgone
    · by_cases hstays : j ∈ queued
      · exact Or.inl hstays
      · exact Or.inr (Or.inr (hsettled j (hqueued.left j hq hstays)))
    · by_cases hstays : j ∈ pending
      · exact Or.inr (Or.inl hstays)
      · exact Or.inr (Or.inr (hsettled j (hpending.left j hp hstays)))
    · exact Or.inr (Or.inr (Or.inl ((hmem j).mpr (Or.inl hdone))))
    · exact Or.inr (Or.inr (Or.inr (List.mem_append_left _ hgone)))
  · intro j hj
    rw [hwroteLog] at hj
    rcases h.written j hj with hp | hdone | hgone
    · by_cases hstays : j ∈ pending
      · exact Or.inl hstays
      · exact Or.inr (hsettled j (hpending.left j hp hstays))
    · exact Or.inr (Or.inl ((hmem j).mpr (Or.inl hdone)))
    · exact Or.inr (Or.inr (List.mem_append_left _ hgone))
  · apply h.correlated.append
    intro j result hresult o
    obtain ⟨r, hr, he⟩ := completions_only hresult
    obtain ⟨-, rfl⟩ := Event.completed.inj he
    exact hfailures r hr o
  · apply h.answered.append
    intro j outcome hresponse
    obtain ⟨r, -, he⟩ := completions_only hresponse
    cases he

/-- **A response.** -/
theorem Inv.respond (h : Inv answers l) (k : κ) {outcome : ρ} {result : τ}
    (hanswers : answers outcome result) :
    Inv answers { l with pending := l.pending.filter fun j => decide (j ≠ k),
                         log := l.log ++ Event.responded k outcome ::
                           if k ∈ l.pending ∧ k ∉ l.gone then [.completed k result] else [] } := by
  have hpending : (l.pending.filter fun j => decide (j ≠ k)).Sublist l.pending :=
    List.filter_sublist
  have hsub : (l.calling ++ (l.queued ++ l.pending.filter fun j => decide (j ≠ k))).Sublist
      (l.calling ++ (l.queued ++ l.pending)) :=
    List.Sublist.append_left (List.Sublist.append_left hpending _) _
  have hlost : Waiting k l.log → ¬ (k ∈ l.pending ∧ k ∉ l.gone) →
      k ∈ completedKeys l.log ∨ Event.abandoned k ∈ l.log := by
    intro hwaiting hnot
    rcases h.written k hwaiting.wrote with hp | hother
    · by_cases hgone : k ∈ l.gone
      · exact Or.inr ((h.gone k).mp hgone)
      · exact absurd ⟨hp, hgone⟩ hnot
    · exact hother
  have hcorrelated := h.correlated.respond (c := k ∈ l.pending ∧ k ∉ l.gone) hanswers
    fun hc => h.waiting k hc.1
  have hanswered := h.answered.respond hanswers hlost
  obtain ⟨events, hevents⟩ : ∃ events : List (Event κ ρ τ), events = Event.responded k outcome ::
    if k ∈ l.pending ∧ k ∉ l.gone then [Event.completed k result] else [] := ⟨_, rfl⟩
  rw [← hevents] at hcorrelated hanswered ⊢
  have honly : ∀ e ∈ events, e = Event.responded k outcome ∨
      (e = Event.completed k result ∧ k ∈ l.pending ∧ k ∉ l.gone) := by
    intro e he
    rw [hevents] at he
    rcases List.mem_cons.mp he with rfl | htail
    · exact Or.inl rfl
    · split at htail
      · rename_i hc
        exact Or.inr ⟨List.mem_singleton.mp htail, hc⟩
      · exact absurd htail List.not_mem_nil
  have hother : ∀ e, (∀ j r, e ≠ Event.completed j r) → (∀ j o, e ≠ Event.responded j o) →
      (e ∈ l.log ++ events ↔ e ∈ l.log) := by
    intro e hcompleted hresponded
    rw [List.mem_append]
    constructor
    · intro he
      rcases he with hold | hnew
      · exact hold
      · rcases honly e hnew with rfl | ⟨rfl, -⟩
        · exact absurd rfl (hresponded _ _)
        · exact absurd rfl (hcompleted _ _)
    · exact Or.inl
  have hacceptedLog : ∀ j, Event.accepted j ∈ l.log ++ events ↔ Event.accepted j ∈ l.log :=
    fun j => hother _ nofun nofun
  have hwroteLog : ∀ j, Event.wrote j ∈ l.log ++ events ↔ Event.wrote j ∈ l.log :=
    fun j => hother _ nofun nofun
  have habandonedLog : ∀ j, Event.abandoned j ∈ l.log ++ events ↔ Event.abandoned j ∈ l.log :=
    fun j => hother _ nofun nofun
  have hkeys : completedKeys events = if k ∈ l.pending ∧ k ∉ l.gone then [k] else [] := by
    rw [hevents]
    split
    · rfl
    · rfl
  have hmem : ∀ j, j ∈ completedKeys (l.log ++ events) ↔
      j ∈ completedKeys l.log ∨ (j = k ∧ k ∈ l.pending ∧ k ∉ l.gone) := by
    intro j
    rw [completedKeys_append, List.mem_append, hkeys]
    split
    · rename_i hc
      rw [List.mem_singleton]
      exact or_congr_right ⟨fun hj => ⟨hj, hc⟩, fun hj => hj.1⟩
    · rename_i hc
      exact or_congr_right ⟨fun hj => absurd hj List.not_mem_nil, fun hj => absurd hj.2 hc⟩
  have hacceptedKeys : acceptedKeys (l.log ++ events) = acceptedKeys l.log := by
    have hnone : acceptedKeys events = [] := by
      unfold acceptedKeys
      rw [List.filterMap_eq_nil_iff]
      intro e he
      rcases honly e he with rfl | ⟨rfl, -⟩
      · rfl
      · rfl
    rw [acceptedKeys_append, hnone, List.append_nil]
  have hdisjoint := h.nodup
  rw [List.nodup_append, List.nodup_append] at hdisjoint
  obtain ⟨-, ⟨-, -, hqp⟩, hcall⟩ := hdisjoint
  have hsettled : k ∈ l.pending → k ∈ completedKeys (l.log ++ events) ∨
      Event.abandoned k ∈ l.log ++ events := by
    intro hp
    by_cases hgone : k ∈ l.gone
    · exact Or.inr (List.mem_append_left _ ((h.gone k).mp hgone))
    · exact Or.inl ((hmem k).mpr (Or.inr ⟨rfl, hp, hgone⟩))
  constructor
  · exact h.nodup.sublist hsub
  · exact fun j hj => h.issued j (hsub.subset hj)
  · intro j hj
    rw [hacceptedLog]
    exact h.unaccepted j hj
  · intro j hj
    rw [hwroteLog]
    exact h.unwritten j hj
  · intro j hj hdone
    rcases (hmem j).mp hdone with hold | ⟨rfl, hp, -⟩
    · exact h.uncompleted j (hsub.subset hj) hold
    · rcases List.mem_append.mp hj with hc | hrest
      · exact hcall j hc j (List.mem_append_right _ hp) rfl
      · rcases List.mem_append.mp hrest with hq | hp'
        · exact hqp j hq j hp rfl
        · rw [List.mem_filter, decide_eq_true_eq] at hp'
          exact hp'.2 rfl
  · intro j hj
    rw [List.mem_filter, decide_eq_true_eq] at hj
    apply (h.waiting j hj.1).append
    intro o hresponse
    rcases honly _ hresponse with hsame | ⟨hcompleted, -⟩
    · exact hj.2 (Event.responded.inj hsame).1
    · cases hcompleted
  · intro j
    rw [habandonedLog]
    exact h.gone j
  · intro j hj
    rw [hacceptedKeys, hwroteLog, hmem] at hj
    rcases hj with hold | hwrote | hdone | ⟨rfl, hp, -⟩
    · exact h.logged j (Or.inl hold)
    · exact h.logged j (Or.inr (Or.inl hwrote))
    · exact h.logged j (Or.inr (Or.inr hdone))
    · exact h.issued j (List.mem_append_right _ (List.mem_append_right _ hp))
  · rw [hacceptedKeys]
    exact h.accepted_once
  · rw [wroteKeys_none]
    · exact h.wrote_once
    · intro j hj
      rcases honly _ hj with he | ⟨he, -⟩
      · cases he
      · cases he
  · rw [completedKeys_append, List.nodup_append]
    refine ⟨h.completed_once, ?_, ?_⟩
    · rw [hkeys]
      split
      · exact List.nodup_singleton k
      · exact List.nodup_nil
    · intro j hj i hi hsame
      rw [hkeys] at hi
      split at hi
      · rename_i hc
        obtain rfl := List.mem_singleton.mp hi
        rw [hsame] at hj
        exact h.uncompleted i (List.mem_append_right _ (List.mem_append_right _ hc.1)) hj
      · exact absurd hi List.not_mem_nil
  · intro j hj
    rw [hacceptedLog] at hj
    rcases h.accounted j hj with hq | hp | hdone | hgone
    · exact Or.inl hq
    · by_cases hsame : j = k
      · subst hsame
        exact Or.inr (Or.inr (hsettled hp))
      · exact Or.inr (Or.inl (List.mem_filter.mpr ⟨hp, decide_eq_true hsame⟩))
    · exact Or.inr (Or.inr (Or.inl ((hmem j).mpr (Or.inl hdone))))
    · exact Or.inr (Or.inr (Or.inr (List.mem_append_left _ hgone)))
  · intro j hj
    rw [hwroteLog] at hj
    rcases h.written j hj with hp | hdone | hgone
    · by_cases hsame : j = k
      · subst hsame
        exact Or.inr (hsettled hp)
      · exact Or.inl (List.mem_filter.mpr ⟨hp, decide_eq_true hsame⟩)
    · exact Or.inr (Or.inl ((hmem j).mpr (Or.inl hdone)))
    · exact Or.inr (Or.inr (List.mem_append_left _ hgone))
  · exact hcorrelated
  · exact hanswered

/-- **The step rule.** -/
theorem Inv.step (h : Inv answers l) (hstep : Step answers l l') : Inv answers l' := by
  cases hstep with
  | issue k hfresh => exact h.issue hfresh
  | accept k hcalling => exact h.accept hcalling
  | refuse k => exact h.refuse k
  | abandon k hissued => exact h.abandon k
  | write k rest hqueued => exact h.write hqueued
  | settle queued pending results hqueued hpending hnodup hresults hfailures =>
    exact h.settle hqueued hpending hnodup hresults hfailures
  | respond k outcome result hanswers => exact h.respond k hanswers

end Moves

end Ledger

end Correlation
