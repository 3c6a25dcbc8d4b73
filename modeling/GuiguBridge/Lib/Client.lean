import GuiguBridge.Lib.Interleave

/-!
# Clients of a shared server

A program that talks to a server is a tree of requests: what follows a request depends on the
reply.  Unlike the steps of a `Thread`, the requests have names, so that **a run can be
restricted by what is asked in which state**.

* `Client κ ρ α` — the trees over the requests `κ` with the replies `ρ`, with their monad;
* `Server`, `clientSystem` — what a request does, and clients as the processes of an
  interleaving;
* `Rules` — what is known of every request that is `met` (the condition on the run) and
  `needed` (the obligation of the client): it keeps the invariant `inv` and moves along `rely`;
* `Keeps` — a client that asks only what it may, whatever the others do in between, and ends
  in `Q`; `Succeeds` — the same of a client that may fail;
* `Only` — the requests that a client makes; `Keeps.of_only` — a client without obligations;
* `clients_run` — **the rule of the whole run**;
* `PlacedServer`, `PlacedRules`, `KeepsAt`, `placed_run` — the same where the server knows the
  place of the client, and a client relies only on what **the others** do;
* `PlacedServer.alone`, `alone_moves` — a client that runs to its end while nobody moves.
-/

namespace Interleave

variable {κ : Type} {ρ : κ → Type} {σ ι ε ο α β τ : Type}

/-- A program in requests. -/
inductive Client (κ : Type) (ρ : κ → Type) (α : Type) : Type where
  | done (a : α)
  | ask (k : κ) (next : ρ k → Client κ ρ α)

namespace Client

/-- Run `f` on the result. -/
def bind : Client κ ρ α → (α → Client κ ρ β) → Client κ ρ β
  | .done a, f => f a
  | .ask k next, f => .ask k fun r => (next r).bind f

instance : Monad (Client κ ρ) where
  pure := .done
  bind := bind

/-- One request. -/
def request (k : κ) : Client κ ρ (ρ k) := .ask k .done

theorem bind_eq (t : Client κ ρ α) (f : α → Client κ ρ β) : t >>= f = t.bind f := rfl

theorem bind_assoc (t : Client κ ρ α) (f : α → Client κ ρ β) (g : β → Client κ ρ τ) :
    (t >>= f) >>= g = t >>= fun a => f a >>= g := by
  simp only [bind_eq]
  induction t with
  | done a => rfl
  | ask k next ih => exact congrArg (Client.ask k) (funext ih)

/-- Every request of the client is in `P`. -/
def Only (P : κ → Prop) : Client κ ρ α → Prop
  | .done _ => True
  | .ask k next => P k ∧ ∀ r, Only P (next r)

variable {P : κ → Prop}

theorem Only.bind {t : Client κ ρ α} {f : α → Client κ ρ β} (h : t.Only P)
    (hf : ∀ a, (f a).Only P) : (t >>= f).Only P := by
  rw [bind_eq]
  induction t with
  | done a => exact hf a
  | ask k next ih => exact ⟨h.1, fun r => ih r (h.2 r)⟩

theorem Only.request {k : κ} (h : P k) : (request k : Client κ ρ (ρ k)).Only P :=
  ⟨h, fun _ => trivial⟩

end Client

/-- What a request does: the reply, the store and what is logged. -/
structure Server (κ : Type) (ρ : κ → Type) (σ ι ο : Type) where
  serve : (k : κ) → ι → σ → ρ k × σ × List ο

/-- Clients as the processes of an interleaving. -/
def clientSystem (S : Server κ ρ σ ι ο) (outside : ε → σ → σ) :
    System σ (Client κ ρ α) ι ε ο where
  advance _ i t s :=
    match t with
    | .done a => (.done a, s, [])
    | .ask k next => (next (S.serve k i s).1, (S.serve k i s).2)
  outside := outside

/-- The store and the log after a request. -/
def Server.after (S : Server κ ρ σ ι ο) (k : κ) (i : ι) (c : σ × List ο) : σ × List ο :=
  ((S.serve k i c.1).2.1, c.2 ++ (S.serve k i c.1).2.2)

/-- What is known of the requests and of the rest of the world.  `met` and `metOutside` are
conditions on the run, `needed` is for the client to show. -/
structure Rules (S : Server κ ρ σ ι ο) (outside : ε → σ → σ) where
  inv : σ × List ο → Prop
  rely : σ × List ο → σ × List ο → Prop
  met : κ → σ → Prop
  metOutside : ε → σ → Prop
  needed : κ → σ × List ο → Prop
  refl : ∀ c, rely c c
  trans : ∀ a b c, rely a b → rely b c → rely a c
  served : ∀ k i c, inv c → met k c.1 → needed k c → inv (S.after k i c) ∧ rely c (S.after k i c)
  beside : ∀ e s l, inv (s, l) → metOutside e s →
    inv (outside e s, l) ∧ rely (s, l) (outside e s, l)

section

variable {S : Server κ ρ σ ι ο} {outside : ε → σ → σ} (T : Rules S outside)

/-- Whatever the others do in between, the client asks only what it may, and ends in `Q`. -/
def Client.Keeps (Q : α → σ × List ο → Prop) : Client κ ρ α → σ × List ο → Prop
  | .done a, c => Q a c
  | .ask k next, c => ∀ c', T.rely c c' → T.inv c' → T.met k c'.1 →
      T.needed k c' ∧ ∀ i, Client.Keeps Q (next (S.serve k i c'.1).1) (S.after k i c')

/-- Of a client that may fail: what holds when it ends with a value. -/
def Client.Succeeds (Q : α → σ × List ο → Prop) (t : ExceptT τ (Client κ ρ) α)
    (c : σ × List ο) : Prop :=
  Client.Keeps T (fun r c => ∀ a, r = .ok a → Q a c) t.run c

variable {T} {Q Q' : α → σ × List ο → Prop} {P : β → σ × List ο → Prop} {c : σ × List ο}

namespace Client

/-- What a client keeps, it keeps after the others have moved. -/
theorem Keeps.later (hstable : ∀ a c c', Q a c → T.rely c c' → Q a c') {t : Client κ ρ α}
    {c' : σ × List ο} (h : t.Keeps T Q c) (hr : T.rely c c') : t.Keeps T Q c' := by
  cases t with
  | done a => exact hstable a c c' h hr
  | ask k next =>
    intro c'' hr' hinv hmet
    exact h c'' (T.trans _ _ _ hr hr') hinv hmet

theorem Keeps.imp (hq : ∀ a c, Q a c → Q' a c) {t : Client κ ρ α} (h : t.Keeps T Q c) :
    t.Keeps T Q' c := by
  induction t generalizing c with
  | done a => exact hq a c h
  | ask k next ih =>
    intro c' hr hinv hmet
    obtain ⟨hneed, hnext⟩ := h c' hr hinv hmet
    exact ⟨hneed, fun i => ih _ (hnext i)⟩

/-- First the one, then the other. -/
theorem Keeps.bind {t : Client κ ρ β} {f : β → Client κ ρ α} (h : t.Keeps T P c)
    (hf : ∀ b c, P b c → (f b).Keeps T Q c) : (t >>= f).Keeps T Q c := by
  rw [bind_eq]
  induction t generalizing c with
  | done b => exact hf b c h
  | ask k next ih =>
    intro c' hr hinv hmet
    obtain ⟨hneed, hnext⟩ := h c' hr hinv hmet
    exact ⟨hneed, fun i => ih _ (hnext i)⟩

/-- **The frame rule**: what the others do not disturb, the client does not. -/
theorem Keeps.frame {F : σ × List ο → Prop} (hstable : ∀ c c', F c → T.rely c c' → F c')
    {t : Client κ ρ α} (h : t.Keeps T Q c) (hf : F c) :
    t.Keeps T (fun a c => Q a c ∧ F c) c := by
  induction t generalizing c with
  | done a => exact ⟨h, hf⟩
  | ask k next ih =>
    intro c' hr hinv hmet
    obtain ⟨hneed, hnext⟩ := h c' hr hinv hmet
    refine ⟨hneed, ?_⟩
    intro i
    have hserved := T.served k i c' hinv hmet hneed
    exact ih _ (hnext i) (hstable _ _ (hstable _ _ hf hr) hserved.2)

/-- A client that never asks for what is `needed`. -/
theorem Keeps.of_only {A : κ → Prop} (hfree : ∀ k c, A k → T.inv c → T.needed k c)
    {t : Client κ ρ α} (h : t.Only A) : t.Keeps T (fun _ _ => True) c := by
  induction t generalizing c with
  | done a => trivial
  | ask k next ih =>
    intro c' _ hinv _
    exact ⟨hfree k c' h.1 hinv, fun i => ih _ (h.2 _)⟩

theorem Succeeds.pure {a : α} (h : Q a c) :
    Succeeds (τ := τ) T Q (pure a : ExceptT τ (Client κ ρ) α) c := by
  intro b hb
  cases hb
  exact h

theorem Succeeds.throw {e : τ} : Succeeds T Q (throw e : ExceptT τ (Client κ ρ) α) c := by
  intro b hb
  cases hb

theorem Succeeds.bind {t : ExceptT τ (Client κ ρ) β} {f : β → ExceptT τ (Client κ ρ) α}
    (h : Succeeds T P t c) (hf : ∀ b c, P b c → Succeeds T Q (f b) c) :
    Succeeds T Q (t >>= f) c := by
  refine Keeps.bind h ?_
  intro r c hr
  cases r with
  | ok b => exact hf b c (hr b rfl)
  | error e =>
    intro a ha
    cases ha

theorem Succeeds.imp {t : ExceptT τ (Client κ ρ) α} (hq : ∀ a c, Q a c → Q' a c)
    (h : Succeeds T Q t c) : Succeeds T Q' t c :=
  Keeps.imp (fun _ c hr a ha => hq a c (hr a ha)) h

theorem Succeeds.frame {t : ExceptT τ (Client κ ρ) α} {F : σ × List ο → Prop}
    (hstable : ∀ c c', F c → T.rely c c' → F c') (h : Succeeds T Q t c) (hf : F c) :
    Succeeds T (fun a c => Q a c ∧ F c) t c := by
  refine Keeps.imp ?_ (Keeps.frame hstable h hf)
  rintro r c ⟨hr, hf⟩ a ha
  exact ⟨hr a ha, hf⟩

theorem Succeeds.of_only {A : κ → Prop} (hfree : ∀ k c, A k → T.inv c → T.needed k c)
    {t : ExceptT τ (Client κ ρ) α} (h : t.run.Only A) :
    Succeeds T (fun _ _ => True) t c :=
  Keeps.imp (fun _ _ _ _ _ => trivial) (Keeps.of_only hfree h)

theorem Only.bindT {A : κ → Prop} {t : ExceptT τ (Client κ ρ) β}
    {f : β → ExceptT τ (Client κ ρ) α} (h : t.run.Only A) (hf : ∀ b, (f b).run.Only A) :
    (t >>= f).run.Only A := by
  refine Only.bind h ?_
  intro r
  cases r with
  | ok b => exact hf b
  | error e => trivial

end Client

end

/-- The condition on a run: each request and each write of the world is met where it happens. -/
structure Met {S : Server κ ρ σ ι ο} {outside : ε → σ → σ} (T : Rules S outside) (s : σ)
    (moves : List (Move (Client κ ρ α) ι ε)) : Prop where
  request : ∀ n index input k next, moves[n]? = some (.advance index input) →
    ((clientSystem S outside).worldAt s moves n).procs[index]? = some (.ask k next) →
    T.met k ((clientSystem S outside).worldAt s moves n).store
  outside : ∀ n e, moves[n]? = some (.outside e) →
    T.metOutside e ((clientSystem S outside).worldAt s moves n).store

section

variable {S : Server κ ρ σ ι ο} {outside : ε → σ → σ} {T : Rules S outside}
  {Q : α → σ × List ο → Prop}

/-- The store and the log of a world. -/
def World.pair {π : Type} (w : World σ π ο) : σ × List ο := (w.store, w.log)

theorem client_move {w : World σ (Client κ ρ α) ο} {m : Move (Client κ ρ α) ι ε}
    (hstable : ∀ a c c', Q a c → T.rely c c' → Q a c') (hinv : T.inv w.pair)
    (hkeeps : ∀ t ∈ w.procs, t.Keeps T Q w.pair)
    (hstart : ∀ t, m = .start t → t.Keeps T Q w.pair)
    (hrequest : ∀ index input k next, m = .advance index input →
      w.procs[index]? = some (.ask k next) → T.met k w.store)
    (houtside : ∀ e, m = .outside e → T.metOutside e w.store) :
    T.inv ((clientSystem S outside).move w m).pair ∧
      T.rely w.pair ((clientSystem S outside).move w m).pair ∧
      ∀ t ∈ ((clientSystem S outside).move w m).procs,
        t.Keeps T Q ((clientSystem S outside).move w m).pair := by
  have hlater {c : σ × List ο} (hr : T.rely w.pair c) : ∀ t ∈ w.procs, t.Keeps T Q c := by
    intro t ht
    exact (hkeeps t ht).later hstable hr
  cases m with
  | start t =>
    refine ⟨hinv, T.refl _, ?_⟩
    intro u hu
    rcases List.mem_append.mp hu with hold | hnew
    · exact hkeeps u hold
    · rw [List.mem_singleton.mp hnew]
      exact hstart t rfl
  | advance index input =>
    cases hp : w.procs[index]? with
    | none =>
      rw [System.move_advance_none hp]
      exact ⟨hinv, T.refl _, hkeeps⟩
    | some t =>
      rw [System.move_advance_some hp]
      cases t with
      | done a =>
        have hsame : (w.store, w.log ++ []) = w.pair := by
          rw [List.append_nil]
          rfl
        show T.inv (w.store, w.log ++ []) ∧ T.rely w.pair (w.store, w.log ++ []) ∧
          ∀ t ∈ w.procs.set index (.done a), t.Keeps T Q (w.store, w.log ++ [])
        rw [hsame]
        refine ⟨hinv, T.refl _, ?_⟩
        intro u hu
        rcases List.mem_or_eq_of_mem_set hu with hold | rfl
        · exact hkeeps u hold
        · exact hkeeps _ (List.mem_of_getElem? hp)
      | ask k next =>
        have hmet := hrequest index input k next rfl hp
        obtain ⟨hneed, hnext⟩ :=
          hkeeps _ (List.mem_of_getElem? hp) w.pair (T.refl _) hinv hmet
        obtain ⟨hinv', hrely⟩ := T.served k input w.pair hinv hmet hneed
        refine ⟨hinv', hrely, ?_⟩
        intro u hu
        rcases List.mem_or_eq_of_mem_set hu with hold | rfl
        · exact hlater hrely u hold
        · exact hnext input
  | outside e =>
    obtain ⟨hinv', hrely⟩ := T.beside e w.store w.log hinv (houtside e rfl)
    exact ⟨hinv', hrely, hlater hrely⟩

/-- **Clients that ask only what they may make runs that keep the invariant**, and each of them
ends in `Q`. -/
theorem clients_run (hstable : ∀ a c c', Q a c → T.rely c c' → Q a c') {s : σ}
    {moves : List (Move (Client κ ρ α) ι ε)} (hinit : T.inv (s, []))
    (hstart : ∀ t, .start t ∈ moves → ∀ c, T.inv c → t.Keeps T Q c) (hmet : Met T s moves)
    (n : Nat) :
    T.inv ((clientSystem S outside).worldAt s moves n).pair ∧
      ∀ t ∈ ((clientSystem S outside).worldAt s moves n).procs,
        t.Keeps T Q ((clientSystem S outside).worldAt s moves n).pair := by
  refine System.invariant (fun w : World σ (Client κ ρ α) ο => T.inv w.pair ∧
    ∀ t ∈ w.procs, t.Keeps T Q w.pair) ⟨hinit, nofun⟩ ?_ n
  rintro n m hm ⟨hinv, hkeeps⟩
  obtain ⟨hinv', -, hkeeps'⟩ := client_move hstable hinv hkeeps (m := m)
    (fun t ht => hstart t (ht ▸ List.mem_of_getElem? hm) _ hinv)
    (fun index input k next h hp => hmet.request n index input k next (h ▸ hm) hp)
    (fun e h => hmet.outside n e (h ▸ hm))
  exact ⟨hinv', hkeeps'⟩

end

/-! ### Clients that are known by their place -/

/-- What a request of the client in a place does. -/
structure PlacedServer (κ : Type) (ρ : κ → Type) (σ ι ο : Type) where
  serve : Nat → (k : κ) → ι → σ → ρ k × σ × List ο

/-- Clients in their places as the processes of an interleaving. -/
def placedSystem (S : PlacedServer κ ρ σ ι ο) (outside : ε → σ → σ) :
    System σ (Client κ ρ α) ι ε ο where
  advance index i t s :=
    match t with
    | .done a => (.done a, s, [])
    | .ask k next => (next (S.serve index k i s).1, (S.serve index k i s).2)
  outside := outside

/-- The store and the log after a request. -/
def PlacedServer.after (S : PlacedServer κ ρ σ ι ο) (index : Nat) (k : κ) (i : ι)
    (c : σ × List ο) : σ × List ο :=
  ((S.serve index k i c.1).2.1, c.2 ++ (S.serve index k i c.1).2.2)

/-- `rely j` is what the client in place `j` may rely on while others move. -/
structure PlacedRules (S : PlacedServer κ ρ σ ι ο) (outside : ε → σ → σ) where
  inv : σ × List ο → Prop
  rely : Nat → σ × List ο → σ × List ο → Prop
  met : Nat → κ → σ → Prop
  needed : Nat → κ → σ × List ο → Prop
  refl : ∀ j c, rely j c c
  trans : ∀ j a b c, rely j a b → rely j b c → rely j a c
  served : ∀ index k i c, inv c → met index k c.1 → needed index k c →
    inv (S.after index k i c) ∧ ∀ j, j ≠ index → rely j c (S.after index k i c)
  beside : ∀ e s l, inv (s, l) → inv (outside e s, l) ∧ ∀ j, rely j (s, l) (outside e s, l)

section

variable {S : PlacedServer κ ρ σ ι ο} {outside : ε → σ → σ} (T : PlacedRules S outside)

/-- Whatever the others do in between, the client in place `j` asks only what it may, and ends
in `Q`. -/
def Client.KeepsAt (j : Nat) (Q : α → σ × List ο → Prop) : Client κ ρ α → σ × List ο → Prop
  | .done a, c => Q a c
  | .ask k next, c => ∀ c', T.rely j c c' → T.inv c' → T.met j k c'.1 →
      T.needed j k c' ∧ ∀ i, Client.KeepsAt j Q (next (S.serve j k i c'.1).1) (S.after j k i c')

/-- Of a client that may fail: what holds when it ends with a value, or with an error. -/
def Client.SucceedsAt (j : Nat) (Q : α → σ × List ο → Prop) (E : τ → σ × List ο → Prop)
    (t : ExceptT τ (Client κ ρ) α) (c : σ × List ο) : Prop :=
  Client.KeepsAt T j (fun r c =>
    match r with
    | .ok a => Q a c
    | .error e => E e c) t.run c

variable {T} {j : Nat} {Q Q' : α → σ × List ο → Prop} {P : β → σ × List ο → Prop}
  {E : τ → σ × List ο → Prop} {F : σ × List ο → Prop} {c : σ × List ο}

namespace Client

theorem KeepsAt.later (hstable : ∀ a c c', Q a c → T.rely j c c' → Q a c') {t : Client κ ρ α}
    {c' : σ × List ο} (h : t.KeepsAt T j Q c) (hr : T.rely j c c') : t.KeepsAt T j Q c' := by
  cases t with
  | done a => exact hstable a c c' h hr
  | ask k next =>
    intro c'' hr' hinv hmet
    exact h c'' (T.trans _ _ _ _ hr hr') hinv hmet

theorem KeepsAt.imp (hq : ∀ a c, Q a c → Q' a c) {t : Client κ ρ α} (h : t.KeepsAt T j Q c) :
    t.KeepsAt T j Q' c := by
  induction t generalizing c with
  | done a => exact hq a c h
  | ask k next ih =>
    intro c' hr hinv hmet
    obtain ⟨hneed, hnext⟩ := h c' hr hinv hmet
    exact ⟨hneed, fun i => ih _ (hnext i)⟩

/-- First the one, then the other. -/
theorem KeepsAt.bind {t : Client κ ρ β} {f : β → Client κ ρ α} (h : t.KeepsAt T j P c)
    (hf : ∀ b c, P b c → (f b).KeepsAt T j Q c) : (t >>= f).KeepsAt T j Q c := by
  rw [bind_eq]
  induction t generalizing c with
  | done b => exact hf b c h
  | ask k next ih =>
    intro c' hr hinv hmet
    obtain ⟨hneed, hnext⟩ := h c' hr hinv hmet
    exact ⟨hneed, fun i => ih _ (hnext i)⟩

/-- One request. -/
theorem KeepsAt.request {k : κ} {Q : ρ k → σ × List ο → Prop}
    (h : ∀ c', T.rely j c c' → T.inv c' → T.met j k c'.1 →
      T.needed j k c' ∧ ∀ i, Q (S.serve j k i c'.1).1 (S.after j k i c')) :
    (Client.request k : Client κ ρ (ρ k)).KeepsAt T j Q c := h

/-- A client that asks only what it always may and what does not disturb `F` keeps `F`. -/
theorem KeepsAt.of_only {A : κ → Prop} (hstable : ∀ c c', F c → T.rely j c c' → F c')
    (hfree : ∀ k c, A k → F c → T.inv c → T.needed j k c ∧ ∀ i, F (S.after j k i c))
    {t : Client κ ρ α} (h : t.Only A) (hf : F c) : t.KeepsAt T j (fun _ c => F c) c := by
  induction t generalizing c with
  | done a => exact hf
  | ask k next ih =>
    intro c' hr hinv _
    obtain ⟨hneed, hafter⟩ := hfree k c' h.1 (hstable _ _ hf hr) hinv
    exact ⟨hneed, fun i => ih _ (h.2 _) (hafter i)⟩

theorem SucceedsAt.bind {t : ExceptT τ (Client κ ρ) β} {f : β → ExceptT τ (Client κ ρ) α}
    (h : SucceedsAt T j P E t c) (hf : ∀ b c, P b c → SucceedsAt T j Q E (f b) c) :
    SucceedsAt T j Q E (t >>= f) c := by
  refine KeepsAt.bind h ?_
  intro r c hr
  cases r with
  | ok b => exact hf b c hr
  | error e => exact hr

theorem SucceedsAt.imp {E' : τ → σ × List ο → Prop} {t : ExceptT τ (Client κ ρ) α}
    (hq : ∀ a c, Q a c → Q' a c) (he : ∀ e c, E e c → E' e c) (h : SucceedsAt T j Q E t c) :
    SucceedsAt T j Q' E' t c := by
  refine KeepsAt.imp ?_ h
  intro r c hr
  cases r with
  | ok a => exact hq a c hr
  | error e => exact he e c hr

theorem SucceedsAt.of_only {A : κ → Prop} (hstable : ∀ c c', F c → T.rely j c c' → F c')
    (hfree : ∀ k c, A k → F c → T.inv c → T.needed j k c ∧ ∀ i, F (S.after j k i c))
    {t : ExceptT τ (Client κ ρ) α} (h : t.run.Only A) (hf : F c) :
    SucceedsAt T j (fun _ c => F c) (fun _ c => F c) t c := by
  refine KeepsAt.imp ?_ (KeepsAt.of_only hstable hfree h hf)
  intro r c hc
  cases r <;> exact hc

end Client

/-- The condition on a run of clients in their places. -/
def PlacedMet (T : PlacedRules S outside) (s : σ) (moves : List (Move (Client κ ρ α) ι ε)) :
    Prop :=
  ∀ n index input k next, moves[n]? = some (.advance index input) →
    ((placedSystem S outside).worldAt s moves n).procs[index]? = some (.ask k next) →
    T.met index k ((placedSystem S outside).worldAt s moves n).store

/-- **Clients that ask only what they may, each in its place, make runs that keep the
invariant.** -/
theorem placed_run (Q : Nat → α → σ × List ο → Prop)
    (hstable : ∀ j a c c', Q j a c → T.rely j c c' → Q j a c') {s : σ}
    {moves : List (Move (Client κ ρ α) ι ε)} (hinit : T.inv (s, []))
    (hstart : ∀ t : Client κ ρ α, .start t ∈ moves → ∀ j c, T.inv c → t.KeepsAt T j (Q j) c)
    (hmet : PlacedMet T s moves) (n : Nat) :
    T.inv ((placedSystem S outside).worldAt s moves n).pair ∧
      ∀ j (t : Client κ ρ α), ((placedSystem S outside).worldAt s moves n).procs[j]? = some t →
        t.KeepsAt T j (Q j) ((placedSystem S outside).worldAt s moves n).pair := by
  refine System.invariant (fun w : World σ (Client κ ρ α) ο => T.inv w.pair ∧
    ∀ j (t : Client κ ρ α), w.procs[j]? = some t → t.KeepsAt T j (Q j) w.pair) ⟨hinit, ?_⟩ ?_ n
  · intro j t ht
    simp at ht
  · intro n m hm hw
    have hrequest := hmet n
    generalize (placedSystem S outside).worldAt s moves n = w at hw hrequest
    obtain ⟨hinv, hkeeps⟩ := hw
    cases m with
    | start t =>
      refine ⟨hinv, ?_⟩
      intro j u hu
      have hu : (w.procs ++ [t])[j]? = some u := hu
      rw [List.getElem?_append] at hu
      split at hu
      · exact hkeeps j u hu
      · have hut : u = t := by
          have hmem := List.mem_of_getElem? hu
          simpa using hmem
        rw [hut]
        exact hstart t (List.mem_of_getElem? hm) j _ hinv
    | advance index input =>
      cases hp : w.procs[index]? with
      | none =>
        rw [System.move_advance_none hp]
        exact ⟨hinv, hkeeps⟩
      | some t =>
        rw [System.move_advance_some hp]
        cases t with
        | done a =>
          have hsame : (w.store, w.log ++ []) = w.pair := by
            rw [List.append_nil]
            rfl
          show T.inv (w.store, w.log ++ []) ∧ ∀ j (u : Client κ ρ α),
            (w.procs.set index (.done a))[j]? = some u → u.KeepsAt T j (Q j) (w.store, w.log ++ [])
          rw [hsame]
          refine ⟨hinv, ?_⟩
          intro j u hu
          by_cases hij : index = j
          · subst hij
            rw [List.getElem?_set_self'] at hu
            obtain ⟨-, -, rfl⟩ := Option.map_eq_some_iff.mp hu
            exact hkeeps index _ hp
          · rw [List.getElem?_set_ne hij] at hu
            exact hkeeps j u hu
        | ask k next =>
          have hmet := hrequest index input k next hm hp
          obtain ⟨hneed, hnext⟩ := hkeeps index _ hp w.pair (T.refl _ _) hinv hmet
          obtain ⟨hinv', hrely⟩ := T.served index k input w.pair hinv hmet hneed
          refine ⟨hinv', ?_⟩
          intro j u hu
          have hu : (w.procs.set index (next (S.serve index k input w.store).1))[j]? = some u := hu
          by_cases hij : index = j
          · subst hij
            rw [List.getElem?_set_self'] at hu
            obtain ⟨-, -, rfl⟩ := Option.map_eq_some_iff.mp hu
            exact hnext input
          · rw [List.getElem?_set_ne hij] at hu
            exact (hkeeps j u hu).later (hstable j) (hrely j (Ne.symm hij))
    | outside e =>
      obtain ⟨hinv', hrely⟩ := T.beside e w.store w.log hinv
      exact ⟨hinv', fun j u hu => (hkeeps j u hu).later (hstable j) (hrely j)⟩

end

/-! ### A client that runs alone -/

/-- The client in a place runs to its end, nobody moves in between, and every request is answered
with this input. -/
def PlacedServer.alone (S : PlacedServer κ ρ σ ι ο) (index : Nat) (input : ι) :
    Client κ ρ α → σ → α × σ
  | .done a, s => (a, s)
  | .ask k next, s =>
    S.alone index input (next (S.serve index k input s).1) (S.serve index k input s).2.1

section

variable {S : PlacedServer κ ρ σ ι ο} {outside : ε → σ → σ} {index : Nat} {input : ι}

theorem alone_bind (t : Client κ ρ β) (f : β → Client κ ρ α) (s : σ) :
    S.alone index input (t >>= f) s =
      S.alone index input (f (S.alone index input t s).1) (S.alone index input t s).2 := by
  rw [Client.bind_eq]
  induction t generalizing s with
  | done b => rfl
  | ask k next ih => exact ih _ _

/-- In the system, enough moves in its place bring a client to the end of its first part. -/
theorem alone_moves (S : PlacedServer κ ρ σ ι ο) (outside : ε → σ → σ) (input : ι)
    (t : Client κ ρ β) {f : β → Client κ ρ α} {w : World σ (Client κ ρ α) ο}
    (hp : w.procs[index]? = some (t >>= f)) :
    ∃ count,
      ((List.replicate count (Move.advance index input)).foldl (placedSystem S outside).move
          w).procs[index]? = some (f (S.alone index input t w.store).1) ∧
        ((List.replicate count (Move.advance index input)).foldl (placedSystem S outside).move
          w).store = (S.alone index input t w.store).2 := by
  induction t generalizing w with
  | done b => exact ⟨0, hp, rfl⟩
  | ask k next ih =>
    have hmove : ((placedSystem S outside).move w (.advance index input)).procs[index]? =
        some (next (S.serve index k input w.store).1 >>= f) := by
      rw [System.move_advance_some hp]
      exact List.getElem?_set_self (List.getElem?_eq_some_iff.mp hp).1
    have hstore : ((placedSystem S outside).move w (.advance index input)).store =
        (S.serve index k input w.store).2.1 := by
      rw [System.move_advance_some hp]
      rfl
    obtain ⟨count, hend, hlast⟩ := ih _ hmove
    rw [hstore] at hend hlast
    exact ⟨count + 1, hend, hlast⟩

end

end Interleave
