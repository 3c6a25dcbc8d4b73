import GuiguBridge.Matrix.CommandLedger

/-!
# Runs of the command ledger

Any number of `handle` calls over one ledger, resumed in any order with any results.

* `ledgerAt` — the ledger, the calls and what they did after a number of moves;
* `RunInv`, `runInv_ledgerAt` — the ledger's invariant and, of every completion in the log, what
  is kept of it, in every world;
* `commandLedger_atMostOnce` — **a key is in flight at most once, and completed at most once
  before the queue has turned over**.
-/

namespace GuiguBridge

open Relational Interleave

/-- The world after the first `n` moves over a new ledger. -/
def ledgerAt (capacity : Nat) (hcap : 0 < capacity) (moves : List (Move Handle Poll Empty))
    (n : Nat) : World CommandLedger Handle CommandEvent :=
  ledgerSystem.worldAt (.new capacity hcap) moves n

/-- Every completion in the log sent its reply and is kept. -/
def RepliesKept (ledger : CommandLedger) (log : List CommandEvent) : Prop :=
  ∀ before key reply sends later, log = before ++ .completed key reply sends :: later →
    sends = reply.sends ∧ LedgerKept ledger key reply later

structure RunInv (capacity : Nat) (w : World CommandLedger Handle CommandEvent) : Prop where
  ledger : LedgerInv w.store (holders w.procs)
  kept : RepliesKept w.store w.log
  capacity_eq : w.store.capacity = capacity

/-- An event at the end of a log, and one before it. -/
theorem append_singleton_eq_append_cons {α : Type} {xs before later : List α} {x y : α}
    (h : xs ++ [x] = before ++ y :: later) :
    (xs = before ∧ x = y ∧ later = []) ∨
      ∃ rest, later = rest ++ [x] ∧ xs = before ++ y :: rest := by
  obtain rfl | ⟨rest, last, rfl⟩ := List.eq_nil_or_concat later
  · obtain ⟨hxs, hlast⟩ := List.append_inj' h rfl
    exact Or.inl ⟨hxs, by simpa using hlast, rfl⟩
  · rw [List.concat_eq_append, ← List.cons_append, ← List.append_assoc] at h
    obtain ⟨hxs, hlast⟩ := List.append_inj' h rfl
    obtain rfl : x = last := by simpa using hlast
    exact Or.inr ⟨rest, List.concat_eq_append, hxs⟩

variable {ledger ledger' : CommandLedger} {calls : List Handle} {call call' : Handle}
  {log events : List CommandEvent} {index : Nat}

theorem HandleStep.logKept (hstep : HandleStep call ledger call' ledger' events)
    (hmem : call ∈ calls) (h : LedgerInv ledger (holders calls)) (hlog : RepliesKept ledger log) :
    RepliesKept ledger' (log ++ events) := by
  -- what was in the log before
  have hold : ∀ before key reply sends rest, log = before ++ .completed key reply sends :: rest →
      sends = reply.sends ∧ LedgerKept ledger' key reply (rest ++ events) := by
    intro before key reply sends rest hsplit
    obtain ⟨hsends, hkept⟩ := hlog before key reply sends rest hsplit
    exact ⟨hsends, hstep.kept hmem h hkept⟩
  -- an event that is no completion adds nothing to show
  have hother : ∀ event, events = [event] → (∀ key reply sends,
      event ≠ .completed key reply sends) → RepliesKept ledger' (log ++ events) := by
    intro event hevents hne before key reply sends later hsplit
    rw [hevents] at hsplit hold
    obtain ⟨-, heq, -⟩ | ⟨rest, rfl, hrest⟩ := append_singleton_eq_append_cons hsplit
    · exact absurd heq (hne key reply sends)
    · exact hold before key reply sends rest hrest
  cases hstep with
  | quiet hsame =>
    intro before key reply sends later hsplit
    rw [List.append_nil] at hsplit
    have hkept := hold before key reply sends later hsplit
    rw [List.append_nil] at hkept
    exact hkept
  | cached hsame hget => exact hother _ rfl (by simp)
  | inFlight hsame hget => exact hother _ rfl (by simp)
  | reserved hhold hhold' hget => exact hother _ rfl (by simp)
  | removed hhold hhold' => exact hother _ rfl (by simp)
  | committed made hhold hhold' =>
    intro before key reply sends later hsplit
    obtain ⟨-, heq, rfl⟩ | ⟨rest, rfl, hrest⟩ := append_singleton_eq_append_cons hsplit
    · obtain ⟨rfl, rfl, rfl⟩ : call.key = key ∧ made = reply ∧ made.sends = sends := by
        simpa using heq
      have hone := h.holders_eq_one hmem (by rw [hhold]; exact decide_eq_true rfl)
      exact ⟨rfl, .fresh h hone made⟩
    · exact hold before key reply sends rest hrest

/-- **Every world of every run.** -/
theorem runInv_ledgerAt {capacity : Nat} {hcap : 0 < capacity}
    {moves : List (Move Handle Poll Empty)}
    (hfresh : ∀ call, .start call ∈ moves → call.phase = .called) (n : Nat) :
    RunInv capacity (ledgerAt capacity hcap moves n) := by
  refine System.invariant (P := RunInv capacity) ?_ ?_ n
  · refine ⟨LedgerInv.new capacity hcap, ?_, rfl⟩
    intro before key reply sends later hsplit
    simp at hsplit
  · intro n m hm hw
    generalize ledgerSystem.worldAt _ moves n = w at hw ⊢
    cases m with
    | start call =>
      have hnone : holders (w.procs ++ [call]) = holders w.procs := by
        funext key
        show List.countP _ _ = List.countP _ _
        have hcalled := hfresh call (List.mem_of_getElem? hm)
        rw [List.countP_append, List.countP_singleton,
          holds_of_phase (by simp [hcalled])]
        rfl
      refine ⟨?_, hw.kept, hw.capacity_eq⟩
      show LedgerInv w.store (holders (w.procs ++ [call]))
      rw [hnone]
      exact hw.ledger
    | advance index poll =>
      cases hcall : w.procs[index]? with
      | none =>
        rw [System.move_advance_none hcall]
        exact hw
      | some call =>
        rw [System.move_advance_some hcall]
        have hstep := handle_step poll call w.store
        exact ⟨hstep.inv hcall hw.ledger,
          hstep.logKept (List.mem_of_getElem? hcall) hw.ledger hw.kept,
          hstep.capacity.trans hw.capacity_eq⟩
    | outside e => exact nomatch e

/-- What the calls and the ledger agree on. -/
structure LedgerPartition (w : World CommandLedger Handle CommandEvent) : Prop where
  one_in_flight : ∀ key, w.procs.countP (Handle.holds key) ≤ 1
  in_flight_kept : ∀ call ∈ w.procs, ∀ key, call.holds key = true →
    w.store.entries.get key = some ⟨key, none⟩
  entries_iff : ∀ key, (∃ entry, w.store.entries.get key = some entry) ↔
    (∃ call ∈ w.procs, call.holds key = true) ∨ key ∈ w.store.completed
  disjoint : ∀ call ∈ w.procs, ∀ key, call.holds key = true → key ∉ w.store.completed
  nodup : w.store.completed.Nodup
  bounded : w.store.completed.length ≤ w.store.capacity

theorem LedgerInv.partition {w : World CommandLedger Handle CommandEvent}
    (h : LedgerInv w.store (holders w.procs)) : LedgerPartition w := by
  have hflight : ∀ call ∈ w.procs, ∀ key, call.holds key = true →
      w.store.entries.get key = some ⟨key, none⟩ := by
    intro call hmem key hhold
    exact h.get_of_held (h.holders_eq_one hmem hhold)
  refine ⟨?_, hflight, ?_, ?_, h.nodup, h.bounded⟩
  · intro key
    have heq := h.held_eq key
    show holders w.procs key ≤ 1
    split at heq <;> omega
  · intro key
    constructor
    · intro hentry
      obtain ⟨⟨key', known⟩, hget⟩ := hentry
      obtain rfl : key' = key := Table.key_of_get hget
      cases known with
      | some reply => exact Or.inr ((h.done_iff key').mpr ⟨reply, hget⟩)
      | none =>
        have hone := h.held_eq key'
        rw [if_pos hget] at hone
        have hpos : 0 < w.procs.countP (Handle.holds key') := by
          show 0 < holders w.procs key'
          omega
        exact Or.inl (List.countP_pos_iff.mp hpos)
    · intro hkey
      obtain ⟨call, hmem, hhold⟩ | hdone := hkey
      · exact ⟨_, hflight call hmem key hhold⟩
      · obtain ⟨reply, hget⟩ := (h.done_iff key).mp hdone
        exact ⟨_, hget⟩
  · intro call hmem key hhold
    exact h.not_completed (by simp [hflight call hmem key hhold])

/-- A call of a key that completed before: its reply, or a whole queue of others completed in
between. -/
theorem LedgerKept.answer {key : CommandKey} {reply : CachedReply} {between after : List CommandEvent}
    {outcome : Begin} {sends : Option String}
    (h : LedgerKept ledger key reply (between ++ CommandEvent.began key outcome sends :: after)) :
    (outcome = .cached reply ∧ sends = reply.sends) ∨
      ∃ others : List CommandKey, others.Nodup ∧ key ∉ others ∧
        ledger.capacity ≤ others.length ∧ ∀ k ∈ others, k ∈ completedKeys between := by
  generalize hlater : between ++ CommandEvent.began key outcome sends :: after = later at h
  cases h with
  | live front hqueue hget hall =>
    refine Or.inl (hall outcome sends ?_)
    rw [← hlater]
    simp
  | @turned turn rest hall hnodup hout hlen =>
    obtain ⟨more, hbetween, -⟩ | ⟨more, hturn, hmore⟩ :=
      List.append_eq_append_iff.mp hlater.symm
    · refine Or.inr ⟨completedKeys turn, hnodup, hout, hlen, ?_⟩
      intro k hk
      rw [hbetween, completedKeys_append]
      exact List.mem_append_left _ hk
    · cases more with
      | nil =>
        refine Or.inr ⟨completedKeys turn, hnodup, hout, hlen, ?_⟩
        rw [hturn, List.append_nil]
        exact fun k hk => hk
      | cons first more =>
        obtain ⟨rfl, -⟩ := List.cons.inj hmore
        refine Or.inl (hall outcome sends ?_)
        rw [hturn]
        simp

/-- **At most once.**  In every world of every run of `handle` calls: a key is in flight at most
once and is not evicted, the entries are the keys in flight and the keys of the queue; and between
a completion of a key and a later call of it, either the call got the same reply or `capacity`
other keys completed. -/
theorem commandLedger_atMostOnce (capacity : Nat) (hcap : 0 < capacity)
    (moves : List (Move Handle Poll Empty))
    (hfresh : ∀ call, .start call ∈ moves → call.phase = .called) (n : Nat) :
    LedgerPartition (ledgerAt capacity hcap moves n) ∧
      (ledgerAt capacity hcap moves n).store.capacity = capacity ∧
      ∀ before key reply sends between outcome sends' after,
        (ledgerAt capacity hcap moves n).log =
          before ++ .completed key reply sends ::
            (between ++ .began key outcome sends' :: after) →
        (outcome = .cached reply ∧ sends' = sends) ∨
          ∃ others : List CommandKey, others.Nodup ∧ key ∉ others ∧
            capacity ≤ others.length ∧ ∀ k ∈ others, k ∈ completedKeys between := by
  have hrun : RunInv capacity (ledgerAt capacity hcap moves n) := runInv_ledgerAt hfresh n
  refine ⟨hrun.ledger.partition, hrun.capacity_eq, ?_⟩
  intro before key reply sends between outcome sends' after hlog
  obtain ⟨hsends, hkept⟩ := hrun.kept before key reply sends _ hlog
  rw [hsends, ← hrun.capacity_eq]
  exact hkept.answer

/-- A call with the command `/queue`. -/
def queueCommand (event_id : String) : Handle :=
  ⟨⟨event_id, "!r", none, "@u:h", "/queue"⟩, .called⟩

/-- A command, its repeat while it runs and its repeat after it; then two more commands, which turn
the queue of two over, and the first once more. -/
def repeatedCommand : List (Move Handle Poll Empty) :=
  [.start (queueCommand "$1"), .start (queueCommand "$1"), .start (queueCommand "$1"),
    .advance 0 .proceed, .advance 1 .proceed, .advance 0 (.executed (.ok "queue=empty")),
    .advance 2 .proceed,
    .start (queueCommand "$2"), .advance 3 .proceed, .advance 3 (.executed (.ok "queue=1")),
    .start (queueCommand "$3"), .advance 4 .proceed, .advance 4 (.executed (.ok "queue=2")),
    .start (queueCommand "$1"), .advance 5 .proceed]

/-- What the two other commands left. -/
def commandsBetween : List CommandEvent :=
  [.began ("!r", "$1") (.cached (.body "queue=empty")) (some "queue=empty"),
    .began ("!r", "$2") .reserved none, .completed ("!r", "$2") (.body "queue=1") (some "queue=1"),
    .began ("!r", "$3") .reserved none, .completed ("!r", "$3") (.body "queue=2") (some "queue=2")]

theorem commandLedger_repeated :
    LedgerPartition (ledgerAt 2 (by decide) repeatedCommand 15) ∧
      (ledgerAt 2 (by decide) repeatedCommand 15).log =
        [.began ("!r", "$1") .reserved none,
          .began ("!r", "$1") .inFlight (some "command=in_progress")] ++
        .completed ("!r", "$1") (.body "queue=empty") (some "queue=empty") ::
          (commandsBetween ++ .began ("!r", "$1") .reserved none :: []) ∧
      ∃ others : List CommandKey, others.Nodup ∧ ("!r", "$1") ∉ others ∧ 2 ≤ others.length ∧
        ∀ k ∈ others, k ∈ completedKeys commandsBetween := by
  have hfresh : ∀ call, .start call ∈ repeatedCommand → call.phase = .called := by
    intro call hcall
    simp only [repeatedCommand] at hcall
    simp at hcall
    rcases hcall with rfl | rfl | rfl | rfl | rfl | rfl <;> rfl
  have hlog : (ledgerAt 2 (by decide) repeatedCommand 15).log =
      [.began ("!r", "$1") .reserved none,
        .began ("!r", "$1") .inFlight (some "command=in_progress")] ++
      .completed ("!r", "$1") (.body "queue=empty") (some "queue=empty") ::
        (commandsBetween ++ .began ("!r", "$1") .reserved none :: []) := by decide
  obtain ⟨hpartition, -, hrepeat⟩ := commandLedger_atMostOnce 2 (by decide) repeatedCommand hfresh 15
  refine ⟨hpartition, hlog, ?_⟩
  obtain ⟨hcached, -⟩ | hothers := hrepeat _ _ _ _ _ _ _ _ hlog
  · cases hcached
  · exact hothers

end GuiguBridge
