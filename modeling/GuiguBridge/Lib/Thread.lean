import GuiguBridge.Lib.Interleave

/-!
# Programs in atomic steps

A program that shares its store with others is a tree of atomic steps: each step sees how it
was answered, acts on the store, logs, and what follows depends on what it saw.  A program that
is killed stops between two steps.

* `Thread` — the trees, with their monad; `Thread.atomic` — one step;
* `threadSystem` — threads as the processes of an interleaving;
* `Answer`, `Thread.statement` — a statement of a store that may fail, before or after it took
  effect;
* `Thread.Keeps R G Q` — **rely and guarantee**: whatever `R` does in between, every step of
  the thread is a `G`, and the thread ends in `Q`;
* `Keeps.bind`, `Keeps.later` — the rules that take a thread apart along its text;
* `Thread.alone`, `Thread.cut` — a run to the end on one input, and a run that is killed where its
  inputs end; `alone_bind`, `cut_bind` — both along the text of a thread;
* `Thread.played` — a run to the end whose answers depend on the log; `played_quiet` — **a thread
  that is `Quiet` is played as it runs alone**;
* `Thread.Ends` — what a thread may end with, whatever the others do; `ends_bind`, `ends_seq`;
* `threads_run` — threads that guarantee `G` next to a world that keeps `R` make runs that keep
  `R`, when every `G` is an `R`; `threads_step` — and each move of a thread is a `G`.
-/

namespace Interleave

variable {σ ι ε ο α β : Type}

/-- How a statement is answered: an error that is `lost` is reported for a statement that took
effect. -/
inductive Answer where
  | ok | failed | lost
  deriving DecidableEq

/-- A program in atomic steps. -/
inductive Thread (σ ι ο α : Type) : Type where
  | done (a : α)
  | step (act : ι → σ → σ × List ο) (next : ι → σ → Thread σ ι ο α)

namespace Thread

/-- Run `f` on the result. -/
def bind : Thread σ ι ο α → (α → Thread σ ι ο β) → Thread σ ι ο β
  | .done a, f => f a
  | .step act next, f => .step act fun i s => (next i s).bind f

instance : Monad (Thread σ ι ο) where
  pure := .done
  bind := bind

/-- One atomic step. -/
def atomic (f : ι → σ → α × σ × List ο) : Thread σ ι ο α :=
  .step (fun i s => (f i s).2) fun i s => .done (f i s).1

@[simp] theorem pure_eq (a : α) : (pure a : Thread σ ι ο α) = .done a := rfl

theorem bind_eq (t : Thread σ ι ο α) (f : α → Thread σ ι ο β) : t >>= f = t.bind f := rfl

/-- The store and the log after one step of `act`. -/
def after (act : ι → σ → σ × List ο) (i : ι) (c : σ × List ο) : σ × List ο :=
  ((act i c.1).1, c.2 ++ (act i c.1).2)

/-- Whatever `R` does in between, every step is a `G`, and the end is in `Q`. -/
def Keeps (R G : σ × List ο → σ × List ο → Prop) (Q : α → σ × List ο → Prop) :
    Thread σ ι ο α → σ × List ο → Prop
  | .done a, c => Q a c
  | .step act next, c => ∀ c', R c c' → ∀ i,
      G c' (after act i c') ∧ Keeps R G Q (next i c'.1) (after act i c')

section

variable {R G : σ × List ο → σ × List ο → Prop} {Q Q' : α → σ × List ο → Prop}

/-- What a thread keeps, it keeps after the others have moved. -/
theorem Keeps.later (htrans : ∀ a b c, R a b → R b c → R a c)
    (hstable : ∀ a c c', Q a c → R c c' → Q a c') {t : Thread σ ι ο α} {c c' : σ × List ο}
    (h : t.Keeps R G Q c) (hr : R c c') : t.Keeps R G Q c' := by
  cases t with
  | done a => exact hstable a c c' h hr
  | step act next =>
    intro c'' hr' i
    exact h c'' (htrans _ _ _ hr hr') i

theorem Keeps.imp (hq : ∀ a c, Q a c → Q' a c) {t : Thread σ ι ο α} {c : σ × List ο}
    (h : t.Keeps R G Q c) : t.Keeps R G Q' c := by
  induction t generalizing c with
  | done a => exact hq a c h
  | step act next ih =>
    intro c' hr i
    obtain ⟨hstep, hnext⟩ := h c' hr i
    exact ⟨hstep, ih i c'.1 hnext⟩

/-- First the one, then the other. -/
theorem Keeps.bind {P : β → σ × List ο → Prop} {t : Thread σ ι ο β} {f : β → Thread σ ι ο α}
    {c : σ × List ο} (h : t.Keeps R G P c) (hf : ∀ b c, P b c → (f b).Keeps R G Q c) :
    (t >>= f).Keeps R G Q c := by
  rw [bind_eq]
  induction t generalizing c with
  | done b => exact hf b c h
  | step act next ih =>
    intro c' hr i
    obtain ⟨hstep, hnext⟩ := h c' hr i
    exact ⟨hstep, ih i c'.1 hnext⟩

/-- The frame rule: what `R` does not disturb, the thread does not. -/
theorem Keeps.frame {P : σ × List ο → Prop} (hstable : ∀ c c', P c → R c c' → P c')
    (hg : ∀ c c', G c c' → R c c') {t : Thread σ ι ο α} {c : σ × List ο}
    (h : t.Keeps R G Q c) (hp : P c) : t.Keeps R G (fun a c => Q a c ∧ P c) c := by
  induction t generalizing c with
  | done a => exact ⟨h, hp⟩
  | step act next ih =>
    intro c' hr i
    obtain ⟨hstep, hnext⟩ := h c' hr i
    have hp' : P (after act i c') := hstable _ _ (hstable _ _ hp hr) (hg _ _ hstep)
    exact ⟨hstep, ih i c'.1 hnext hp'⟩

end

/-- Of a thread that may fail: what holds when it ends with a value. -/
def Succeeds (R G : σ × List ο → σ × List ο → Prop) {τ : Type}
    (Q : α → σ × List ο → Prop) (t : ExceptT τ (Thread σ ι ο) α) (c : σ × List ο) : Prop :=
  Keeps R G (fun r c => ∀ a, r = .ok a → Q a c) t.run c

section

variable {R G : σ × List ο → σ × List ο → Prop} {τ : Type} {P : β → σ × List ο → Prop}
  {Q Q' : α → σ × List ο → Prop} {c : σ × List ο}

theorem Succeeds.pure {a : α} (h : Q a c) :
    Succeeds (τ := τ) (ι := ι) R G Q (pure a : ExceptT τ (Thread σ ι ο) α) c := by
  intro b hb
  cases hb
  exact h

theorem Succeeds.throw {e : τ} :
    Succeeds (ι := ι) R G Q (throw e : ExceptT τ (Thread σ ι ο) α) c := by
  intro b hb
  cases hb

theorem Succeeds.bind {t : ExceptT τ (Thread σ ι ο) β} {f : β → ExceptT τ (Thread σ ι ο) α}
    (h : Succeeds R G P t c) (hf : ∀ b c, P b c → Succeeds R G Q (f b) c) :
    Succeeds R G Q (t >>= f) c := by
  refine Keeps.bind h ?_
  intro r c hr
  cases r with
  | ok b => exact hf b c (hr b rfl)
  | error e =>
    intro a ha
    cases ha

theorem Succeeds.frame {t : ExceptT τ (Thread σ ι ο) α} {P : σ × List ο → Prop}
    (hstable : ∀ c c', P c → R c c' → P c') (hg : ∀ c c', G c c' → R c c')
    (h : Succeeds R G Q t c) (hp : P c) : Succeeds R G (fun a c => Q a c ∧ P c) t c := by
  refine Keeps.imp ?_ (Keeps.frame hstable hg h hp)
  rintro r c ⟨hr, hp⟩ a ha
  exact ⟨hr a ha, hp⟩

end

end Thread

/-! ### Without the others -/

namespace Thread

/-- A run to the end, every step answered by `i`. -/
def alone (i : ι) : Thread σ ι ο α → σ → α × σ
  | .done a, s => (a, s)
  | .step act next, s => alone i (next i s) (act i s).1

/-- A run that is killed where its inputs end: the result, if there is one, with the inputs that
are left. -/
def cut : Thread σ ι ο α → List ι → σ → Option (α × List ι) × σ
  | .done a, inputs, s => (some (a, inputs), s)
  | .step _ _, [], s => (none, s)
  | .step act next, i :: inputs, s => cut (next i s) inputs (act i s).1

@[simp] theorem alone_done (i : ι) (a : α) (s : σ) :
    alone i (.done a : Thread σ ι ο α) s = (a, s) := rfl

@[simp] theorem cut_done (a : α) (inputs : List ι) (s : σ) :
    cut (.done a : Thread σ ι ο α) inputs s = (some (a, inputs), s) := rfl

theorem alone_bind (i : ι) (t : Thread σ ι ο α) (f : α → Thread σ ι ο β) (s : σ) :
    alone i (t >>= f) s = alone i (f (alone i t s).1) (alone i t s).2 := by
  rw [bind_eq]
  induction t generalizing s with
  | done a => rfl
  | step act next ih => exact ih i s (act i s).1

theorem cut_bind (t : Thread σ ι ο α) (f : α → Thread σ ι ο β) (inputs : List ι) (s : σ) :
    cut (t >>= f) inputs s =
      match cut t inputs s with
      | (some (a, rest), s') => cut (f a) rest s'
      | (none, s') => (none, s') := by
  rw [bind_eq]
  induction t generalizing inputs s with
  | done a => rfl
  | step act next ih =>
    cases inputs with
    | nil => rfl
    | cons i inputs => exact ih i s inputs (act i s).1

/-- A run that is not killed. -/
theorem alone_of_cut {i : ι} {n : Nat} {t : Thread σ ι ο α} {s s' : σ} {a : α} {rest : List ι}
    (h : cut t (List.replicate n i) s = (some (a, rest), s')) : alone i t s = (a, s') := by
  induction t generalizing n s with
  | done b =>
    cases h
    rfl
  | step act next ih =>
    cases n with
    | zero => cases h
    | succ n => exact ih i s h

/-- A run to the end in which every answer may depend on what was logged before it. -/
def played (f : List ο → ι) : Thread σ ι ο α → σ × List ο → α × σ × List ο
  | .done a, c => (a, c)
  | .step act next, c => played f (next (f c.2) c.1) (after act (f c.2) c)

theorem played_bind (f : List ο → ι) (t : Thread σ ι ο α) (g : α → Thread σ ι ο β)
    (c : σ × List ο) :
    played f (t >>= g) c = played f (g (played f t c).1) (played f t c).2 := by
  rw [bind_eq]
  induction t generalizing c with
  | done a => rfl
  | step act next ih => exact ih (f c.2) c.1 (after act (f c.2) c)

/-- Every step of a thread, however it is answered, leads from `P` to `P`. -/
def Preserves (P : σ × List ο → Prop) : Thread σ ι ο α → Prop
  | .done _ => True
  | .step act next => ∀ i s, (∀ log, P (s, log) → P (after act i (s, log))) ∧
      Preserves P (next i s)

section

variable {P : σ × List ο → Prop}

theorem preserves_bind {t : Thread σ ι ο α} {f : α → Thread σ ι ο β} (ht : Preserves P t)
    (hf : ∀ a, Preserves P (f a)) : Preserves P (t >>= f) := by
  rw [bind_eq]
  induction t with
  | done a => exact hf a
  | step act next ih => exact fun i s => ⟨(ht i s).1, ih i s (ht i s).2⟩

theorem played_preserves {f : List ο → ι} {t : Thread σ ι ο α} (h : Preserves P t) {c : σ × List ο}
    (hc : P c) : P (played f t c).2 := by
  induction t generalizing c with
  | done a => exact hc
  | step act next ih => exact ih (f c.2) c.1 (h (f c.2) c.1).2 ((h (f c.2) c.1).1 c.2 hc)

end

/-- A thread that does on every answer in `ok` what it does on `i`, and logs only what is in
`silent`. -/
def Quiet (i : ι) (ok : ι → Prop) (silent : ο → Prop) : Thread σ ι ο α → Prop
  | .done _ => True
  | .step act next => (∀ j, ok j → ∀ s, (act j s).1 = (act i s).1 ∧ next j s = next i s ∧
      ∀ e ∈ (act j s).2, silent e) ∧ ∀ s, Quiet i ok silent (next i s)

section

variable {i : ι} {ok : ι → Prop} {silent : ο → Prop}

theorem quiet_bind {t : Thread σ ι ο α} {f : α → Thread σ ι ο β} (ht : Quiet i ok silent t)
    (hf : ∀ a, Quiet i ok silent (f a)) : Quiet i ok silent (t >>= f) := by
  rw [bind_eq]
  induction t with
  | done a => exact hf a
  | step act next ih =>
    obtain ⟨hstep, hnext⟩ := ht
    refine ⟨fun j hj s => ?_, fun s => ih i s (hnext s)⟩
    obtain ⟨hact, hsame, hlog⟩ := hstep j hj s
    exact ⟨hact, congrArg (·.bind f) hsame, hlog⟩

/-- **A quiet thread is played as it runs alone.** -/
theorem played_quiet {f : List ο → ι} (hf : ∀ log, ok (f log)) {t : Thread σ ι ο α}
    (h : Quiet i ok silent t) (s : σ) (log : List ο) :
    ∃ new, (∀ e ∈ new, silent e) ∧
      played f t (s, log) = ((alone i t s).1, (alone i t s).2, log ++ new) := by
  induction t generalizing s log with
  | done a => exact ⟨[], nofun, by rw [List.append_nil]; rfl⟩
  | step act next ih =>
    obtain ⟨hstep, hnext⟩ := h
    obtain ⟨hact, hsame, hlog⟩ := hstep (f log) (hf log) s
    obtain ⟨new, hnew, hplayed⟩ := ih i s (hnext s) (act i s).1 (log ++ (act (f log) s).2)
    refine ⟨(act (f log) s).2 ++ new, ?_, ?_⟩
    · intro e he
      exact (List.mem_append.mp he).elim (hlog e) (hnew e)
    · show played f (next (f log) s) ((act (f log) s).1, log ++ (act (f log) s).2) = _
      rw [hact, hsame, hplayed, List.append_assoc]
      rfl

end

/-- A result that the thread has in some world. -/
def Ends : Thread σ ι ο α → α → Prop
  | .done a, r => a = r
  | .step _ next, r => ∃ i s, Ends (next i s) r

/-- A thread ends as it does alone. -/
theorem ends_alone (i : ι) (t : Thread σ ι ο α) (s : σ) : Ends t (alone i t s).1 := by
  induction t generalizing s with
  | done a => rfl
  | step act next ih => exact ⟨i, s, ih i s (act i s).1⟩

theorem ends_bind {t : Thread σ ι ο α} {f : α → Thread σ ι ο β} {r : β} :
    Ends (t >>= f) r ↔ ∃ a, Ends t a ∧ Ends (f a) r := by
  rw [bind_eq]
  induction t with
  | done a =>
    constructor
    · intro h
      exact ⟨a, rfl, h⟩
    · rintro ⟨_, rfl, h⟩
      exact h
  | step act next ih =>
    constructor
    · rintro ⟨i, s, h⟩
      obtain ⟨a, ha, hr⟩ := (ih i s).mp h
      exact ⟨a, ⟨i, s, ha⟩, hr⟩
    · rintro ⟨a, ⟨i, s, ha⟩, hr⟩
      exact ⟨i, s, (ih i s).mpr ⟨a, ha, hr⟩⟩

section

variable {τ : Type}

/-- A thread that may fail ends where it fails, or goes on. -/
theorem ends_seq {t : ExceptT τ (Thread σ ι ο) α} {f : α → ExceptT τ (Thread σ ι ο) β}
    {r : Except τ β} (h : Ends (t >>= f).run r) :
    (∃ e, Ends t.run (.error e) ∧ r = .error e) ∨
      ∃ a, Ends t.run (.ok a) ∧ Ends (f a).run r := by
  have hrun : (t >>= f).run = t.run >>= ExceptT.bindCont f := rfl
  rw [hrun, ends_bind] at h
  obtain ⟨result, hresult, hrest⟩ := h
  cases result with
  | error e => exact Or.inl ⟨e, hresult, hrest.symm⟩
  | ok a => exact Or.inr ⟨a, hresult, hrest⟩

theorem alone_seq (i : ι) (t : ExceptT τ (Thread σ ι ο) α) (f : α → ExceptT τ (Thread σ ι ο) β)
    (s : σ) {a : α} {s' : σ} (h : alone i t.run s = (.ok a, s')) :
    alone i (t >>= f).run s = alone i (f a).run s' := by
  show alone i (t.run >>= ExceptT.bindCont f) s = _
  rw [alone_bind, h]
  rfl

theorem preserves_seq {P : σ × List ο → Prop} {t : ExceptT τ (Thread σ ι ο) α}
    {g : α → ExceptT τ (Thread σ ι ο) β} (ht : Preserves P t.run)
    (hg : ∀ a, Preserves P (g a).run) : Preserves P (t >>= g).run := by
  refine preserves_bind ht fun r => ?_
  cases r with
  | error e => trivial
  | ok a => exact hg a

theorem quiet_seq {i : ι} {ok : ι → Prop} {silent : ο → Prop} {t : ExceptT τ (Thread σ ι ο) α}
    {g : α → ExceptT τ (Thread σ ι ο) β} (ht : Quiet i ok silent t.run)
    (hg : ∀ a, Quiet i ok silent (g a).run) : Quiet i ok silent (t >>= g).run := by
  refine quiet_bind ht fun r => ?_
  cases r with
  | error e => trivial
  | ok a => exact hg a

theorem played_seq (f : List ο → ι) {t : ExceptT τ (Thread σ ι ο) α}
    (g : α → ExceptT τ (Thread σ ι ο) β) {c c' : σ × List ο} {a : α}
    (h : played f t.run c = (.ok a, c')) : played f (t >>= g).run c = played f (g a).run c' := by
  show played f (t.run >>= ExceptT.bindCont g) c = _
  rw [played_bind, h]
  rfl

theorem alone_stop (i : ι) (t : ExceptT τ (Thread σ ι ο) α) (f : α → ExceptT τ (Thread σ ι ο) β)
    (s : σ) {e : τ} {s' : σ} (h : alone i t.run s = (.error e, s')) :
    alone i (t >>= f).run s = (.error e, s') := by
  show alone i (t.run >>= ExceptT.bindCont f) s = _
  rw [alone_bind, h]
  rfl

theorem cut_seq (t : ExceptT τ (Thread σ ι ο) α) (f : α → ExceptT τ (Thread σ ι ο) β)
    {inputs rest : List ι} {s s' : σ} {a : α} (h : cut t.run inputs s = (some (.ok a, rest), s')) :
    cut (t >>= f).run inputs s = cut (f a).run rest s' := by
  show cut (t.run >>= ExceptT.bindCont f) inputs s = _
  rw [cut_bind, h]
  rfl

theorem cut_stop (t : ExceptT τ (Thread σ ι ο) α) (f : α → ExceptT τ (Thread σ ι ο) β)
    {inputs : List ι} {s s' : σ} (h : cut t.run inputs s = (none, s')) :
    cut (t >>= f).run inputs s = (none, s') := by
  show cut (t.run >>= ExceptT.bindCont f) inputs s = _
  rw [cut_bind, h]

end

end Thread

/-- Threads as the processes of an interleaving. -/
def threadSystem (outside : ε → σ → σ) : System σ (Thread σ ι ο α) ι ε ο where
  advance _ i t s :=
    match t with
    | .done a => (.done a, s, [])
    | .step act next => (next i s, act i s)
  outside := outside

/-- The store and the log of a world. -/
def World.conf {π : Type} (w : World σ π ο) : σ × List ο := (w.store, w.log)

section

variable {outside : ε → σ → σ} {R G : σ × List ο → σ × List ο → Prop}
  {I : σ × List ο → Prop}

/-- One move of the world: nothing, a `G`, or a write of the rest of the world. -/
inductive MoveStep (outside : ε → σ → σ) (G : σ × List ο → σ × List ο → Prop)
    (c : σ × List ο) : σ × List ο → Prop where
  | none : MoveStep outside G c c
  | thread {c' : σ × List ο} (h : G c c') : MoveStep outside G c c'
  | outside (e : ε) : MoveStep outside G c (outside e c.1, c.2)

theorem thread_move (hrefl : ∀ c, R c c) (htrans : ∀ a b c, R a b → R b c → R a c)
    (hg : ∀ c c', I c → G c c' → R c c')
    (hout : ∀ e s l, I (s, l) → R (s, l) (outside e s, l))
    {w : World σ (Thread σ ι ο α) ο} {m : Move (Thread σ ι ο α) ι ε} (hI : I w.conf)
    (hthreads : ∀ t ∈ w.procs, t.Keeps R G (fun _ _ => True) w.conf)
    (hstart : ∀ t, m = .start t → t.Keeps R G (fun _ _ => True) w.conf) :
    MoveStep outside G w.conf ((threadSystem outside).move w m).conf ∧
      ∀ t ∈ ((threadSystem outside).move w m).procs,
        t.Keeps R G (fun _ _ => True) ((threadSystem outside).move w m).conf := by
  have hlater {c : σ × List ο} (hr : R w.conf c) :
      ∀ t ∈ w.procs, t.Keeps R G (fun _ _ => True) c := by
    intro t ht
    exact (hthreads t ht).later htrans (fun _ _ _ _ _ => trivial) hr
  cases m with
  | start t =>
    refine ⟨.none, ?_⟩
    intro u hu
    rcases List.mem_append.mp hu with hold | hnew
    · exact hthreads u hold
    · rw [List.mem_singleton.mp hnew]
      exact hstart t rfl
  | advance index input =>
    cases hp : w.procs[index]? with
    | none =>
      rw [System.move_advance_none hp]
      exact ⟨.none, hthreads⟩
    | some t =>
      rw [System.move_advance_some hp]
      cases t with
      | done a =>
        have hsame : (w.store, w.log ++ []) = w.conf := by
          rw [List.append_nil]
          rfl
        show MoveStep outside G w.conf (w.store, w.log ++ []) ∧
          ∀ t ∈ w.procs.set index (.done a),
            t.Keeps R G (fun _ _ => True) (w.store, w.log ++ [])
        rw [hsame]
        refine ⟨.none, ?_⟩
        intro u hu
        rcases List.mem_or_eq_of_mem_set hu with hold | rfl
        · exact hthreads u hold
        · trivial
      | step act next =>
        obtain ⟨hstep, hnext⟩ := hthreads _ (List.mem_of_getElem? hp) w.conf (hrefl _) input
        refine ⟨.thread hstep, ?_⟩
        intro u hu
        rcases List.mem_or_eq_of_mem_set hu with hold | rfl
        · exact hlater (hg _ _ hI hstep) u hold
        · exact hnext
  | outside e => exact ⟨.outside e, hlater (hout e w.store w.log hI)⟩

/-- A move keeps `R`. -/
theorem MoveStep.keeps (hrefl : ∀ c, R c c) (hg : ∀ c c', I c → G c c' → R c c')
    (hout : ∀ e s l, I (s, l) → R (s, l) (outside e s, l)) {c c' : σ × List ο} (hI : I c)
    (h : MoveStep outside G c c') : R c c' := by
  cases h with
  | none => exact hrefl c
  | thread h => exact hg c c' hI h
  | outside e => exact hout e c.1 c.2 hI

/-- The invariant, and that every thread goes on as it should. -/
theorem threads_invariant (hrefl : ∀ c, R c c) (htrans : ∀ a b c, R a b → R b c → R a c)
    (hkeep : ∀ c c', R c c' → I c → I c') (hg : ∀ c c', I c → G c c' → R c c')
    (hout : ∀ e s l, I (s, l) → R (s, l) (outside e s, l)) {s : σ}
    {moves : List (Move (Thread σ ι ο α) ι ε)} (hinit : I (s, []))
    (hstart : ∀ t, .start t ∈ moves → ∀ c, I c → t.Keeps R G (fun _ _ => True) c) (n : Nat) :
    I ((threadSystem outside).worldAt s moves n).conf ∧
      ∀ t ∈ ((threadSystem outside).worldAt s moves n).procs,
        t.Keeps R G (fun _ _ => True) ((threadSystem outside).worldAt s moves n).conf := by
  refine System.invariant (fun w : World σ (Thread σ ι ο α) ο => I w.conf ∧
    ∀ t ∈ w.procs, t.Keeps R G (fun _ _ => True) w.conf) ⟨hinit, nofun⟩ ?_ n
  rintro n m hm ⟨hI, hthreads⟩
  obtain ⟨hmove, hthreads'⟩ := thread_move hrefl htrans hg hout hI hthreads (m := m)
    fun t ht => hstart t (ht ▸ List.mem_of_getElem? hm) _ hI
  exact ⟨hkeep _ _ (hmove.keeps hrefl hg hout hI) hI, hthreads'⟩

/-- Each move of a run. -/
theorem threads_step (hrefl : ∀ c, R c c) (htrans : ∀ a b c, R a b → R b c → R a c)
    (hkeep : ∀ c c', R c c' → I c → I c') (hg : ∀ c c', I c → G c c' → R c c')
    (hout : ∀ e s l, I (s, l) → R (s, l) (outside e s, l)) {s : σ}
    {moves : List (Move (Thread σ ι ο α) ι ε)} (hinit : I (s, []))
    (hstart : ∀ t, .start t ∈ moves → ∀ c, I c → t.Keeps R G (fun _ _ => True) c) (n : Nat) :
    MoveStep outside G ((threadSystem outside).worldAt s moves n).conf
      ((threadSystem outside).worldAt s moves (n + 1)).conf := by
  cases hm : moves[n]? with
  | none =>
    rw [System.worldAt_end hm]
    exact .none
  | some m =>
    rw [System.worldAt_succ hm]
    obtain ⟨hI, hthreads⟩ := threads_invariant hrefl htrans hkeep hg hout hinit hstart n
    exact (thread_move hrefl htrans hg hout hI hthreads fun t ht =>
      hstart t (ht ▸ List.mem_of_getElem? hm) _ hI).1

/-- **Threads that guarantee `G`, in a world that keeps `R`, make runs that keep `R`.**  `I` is
what every thread may assume when it starts. -/
theorem threads_run (hrefl : ∀ c, R c c) (htrans : ∀ a b c, R a b → R b c → R a c)
    (hkeep : ∀ c c', R c c' → I c → I c') (hg : ∀ c c', I c → G c c' → R c c')
    (hout : ∀ e s l, I (s, l) → R (s, l) (outside e s, l)) {s : σ}
    {moves : List (Move (Thread σ ι ο α) ι ε)} (hinit : I (s, []))
    (hstart : ∀ t, .start t ∈ moves → ∀ c, I c → t.Keeps R G (fun _ _ => True) c)
    {i n : Nat} (h : i ≤ n) :
    R ((threadSystem outside).worldAt s moves i).conf
      ((threadSystem outside).worldAt s moves n).conf := by
  induction h with
  | refl => exact hrefl _
  | @step n _ ih =>
    have hI := (threads_invariant hrefl htrans hkeep hg hout hinit hstart n).1
    have hmove := threads_step hrefl htrans hkeep hg hout hinit hstart n
    exact htrans _ _ _ ih (hmove.keeps hrefl hg hout hI)

end

end Interleave
