import GuiguBridge.Lib.Eviction
import GuiguBridge.Lib.Interleave
import GuiguBridge.Matrix.Router

/-!
# The ledger of admin commands

A command is executed under a reservation of its `(room, event)` key; the ledger keeps the last
`capacity` replies and answers repeats from them (`src/src/matrix/admin.rs`).

* `CommandLedger`, `Reservation` — the map of entries and the queue of completed keys, with the
  three critical sections `start`, `commit` and `remove`;
* `Handle`, `ledgerSystem` — calls of `AdminHandler::handle` that wait, fail or are dropped
  between the critical sections, in any order;
* `LedgerInv`, `HandleStep.inv` — **the entries are the keys in flight and the keys of the
  queue**, apart from each other, the queue without duplicates and bounded;
* `LedgerKept`, `HandleStep.kept` — **a completed reply stays until the queue has turned over**.

`commandLedger_atMostOnce` in `Matrix.CommandRuns` is about whole runs.
-/

namespace GuiguBridge

open Relational Interleave

/-! ### The ledger -/

inductive CachedReply where
  | body (text : String)
  | outboxOwned
  deriving DecidableEq

/-- Room and event. -/
abbrev CommandKey := String × String

/-- What is known of a key: nothing yet while its command runs, its reply afterwards. -/
structure LedgerEntry where
  key : CommandKey
  reply : Option CachedReply
  deriving DecidableEq

structure CommandLedger where
  capacity : Nat
  capacity_pos : 0 < capacity
  entries : Table LedgerEntry.key
  completed : List CommandKey

/-- `CommandLedger::new`. -/
def CommandLedger.new (capacity : Nat) (h : 0 < capacity) : CommandLedger :=
  ⟨capacity, h, Table.empty, []⟩

inductive Begin where
  | cached (reply : CachedReply)
  | inFlight
  | reserved
  deriving DecidableEq

/-- `Reservation::begin`. -/
def Reservation.start (ledger : CommandLedger) (key : CommandKey) : Begin × CommandLedger :=
  match ledger.entries.get key with
  | some ⟨_, some reply⟩ => (.cached reply, ledger)
  | some ⟨_, none⟩ => (.inFlight, ledger)
  | none => (.reserved, { ledger with entries := ledger.entries.put ⟨key, none⟩ })

/-- The loop of `commit`: while the queue is too long, its front leaves both. -/
def evictCompleted (capacity : Nat) :
    Table LedgerEntry.key → List CommandKey → Table LedgerEntry.key × List CommandKey
  | entries, [] => (entries, [])
  | entries, old :: completed =>
    if capacity < (old :: completed).length then
      evictCompleted capacity (entries.remove old) completed
    else (entries, old :: completed)

/-- `Reservation::commit`. -/
def Reservation.commit (ledger : CommandLedger) (key : CommandKey) (reply : CachedReply) :
    CommandLedger :=
  let kept := evictCompleted ledger.capacity (ledger.entries.put ⟨key, some reply⟩)
    (ledger.completed ++ [key])
  { ledger with entries := kept.1, completed := kept.2 }

/-- `Reservation::remove` of an active reservation; `release` and `drop` are nothing else. -/
def Reservation.remove (ledger : CommandLedger) (key : CommandKey) : CommandLedger :=
  { ledger with entries := ledger.entries.remove key }

/-! ### The calls of `handle` -/

/-- `char::is_ascii_whitespace`. -/
def isAsciiBlank (c : Char) : Bool := [' ', '\t', '\n', '\x0c', '\r'].contains c

/-- The first token of the body starts with a slash. -/
def isCommand (body : String) : Bool :=
  match body.toList.dropWhile isAsciiBlank with
  | [] => false
  | c :: _ => c == '/'

/-- Where a call of `handle` is: not polled yet, at one of its two awaits, or over. -/
inductive HandlePhase where
  | called
  | executing
  | replying (text : String)
  | ordinary
  | replied
  | failed
  | dropped
  deriving DecidableEq

/-- A call of `AdminHandler::handle`. -/
structure Handle where
  event : InboundMatrixEvent
  phase : HandlePhase
  deriving DecidableEq

def Handle.key (call : Handle) : CommandKey := (call.event.room_id, call.event.event_id)

/-- The call holds an active reservation of `key`. -/
def Handle.holds (key : CommandKey) (call : Handle) : Bool :=
  decide (call.phase = .executing ∧ call.key = key)

/-- What a call is resumed with: nothing, the result of `execute`, that of `send_reply`, or its
future is dropped. -/
inductive Poll where
  | proceed
  | executed (result : Except Unit String)
  | sent (accepted : Bool)
  | drop
  deriving DecidableEq

/-- What the calls did: `sends` is what the call goes on to send. -/
inductive CommandEvent where
  | began (key : CommandKey) (outcome : Begin) (sends : Option String)
  | completed (key : CommandKey) (reply : CachedReply) (sends : Option String)
  | removed (key : CommandKey)
  deriving DecidableEq

/-- The await of `send_reply`, or the result where nothing is sent. -/
def replyPhase : Option String → HandlePhase
  | some text => .replying text
  | none => .replied

/-- What `handle` sends of a cached reply. -/
def CachedReply.sends : CachedReply → Option String
  | .body text => some text
  | .outboxOwned => none

/-- An empty body is owned by the outbox. -/
def CachedReply.ofBody (body : String) : CachedReply :=
  if body.isEmpty then .outboxOwned else .body body

/-- `handle` from its first poll to its first await. -/
def Handle.first (call : Handle) (ledger : CommandLedger) :
    Handle × CommandLedger × List CommandEvent :=
  if !isCommand call.event.body then ({ call with phase := .ordinary }, ledger, [])
  else match Reservation.start ledger call.key with
    | (.cached reply, ledger) =>
      ({ call with phase := replyPhase reply.sends }, ledger,
        [.began call.key (.cached reply) reply.sends])
    | (.inFlight, ledger) =>
      ({ call with phase := .replying "command=in_progress" }, ledger,
        [.began call.key .inFlight (some "command=in_progress")])
    | (.reserved, ledger) =>
      ({ call with phase := .executing }, ledger, [.began call.key .reserved none])

/-- `handle` from the result of `execute` to its next await. -/
def Handle.finish (call : Handle) (ledger : CommandLedger) :
    Except Unit String → Handle × CommandLedger × List CommandEvent
  | .error () =>
    ({ call with phase := .replying "command=temporarily_unavailable" },
      Reservation.remove ledger call.key, [.removed call.key])
  | .ok body =>
    let sends := if body.isEmpty then none else some body
    ({ call with phase := replyPhase sends },
      Reservation.commit ledger call.key (.ofBody body),
      [.completed call.key (.ofBody body) sends])

/-- One resumption of a call. -/
def Handle.advance (poll : Poll) (call : Handle) (ledger : CommandLedger) :
    Handle × CommandLedger × List CommandEvent :=
  match call.phase, poll with
  | .called, .proceed => call.first ledger
  | .executing, .executed result => call.finish ledger result
  | .executing, .drop =>
    ({ call with phase := .dropped }, Reservation.remove ledger call.key, [.removed call.key])
  | .replying _, .sent accepted =>
    ({ call with phase := if accepted then .replied else .failed }, ledger, [])
  | .called, .drop | .replying _, .drop => ({ call with phase := .dropped }, ledger, [])
  | _, _ => (call, ledger, [])

/-- Calls over one ledger; nothing else touches it. -/
def ledgerSystem : System CommandLedger Handle Poll Empty CommandEvent where
  advance _ := Handle.advance
  outside e := nomatch e

/-- What is sent the first time is what is sent of the cached reply. -/
theorem sends_ofBody (body : String) :
    (CachedReply.ofBody body).sends = if body.isEmpty then none else some body := by
  unfold CachedReply.ofBody
  split <;> rfl

/-! ### The critical sections -/

variable {ledger : CommandLedger} {key : CommandKey} {reply : CachedReply}

/-- What `begin` says of a key, and that only a reservation writes. -/
theorem start_cases (ledger : CommandLedger) (key : CommandKey) :
    (∃ reply, ledger.entries.get key = some ⟨key, some reply⟩ ∧
        Reservation.start ledger key = (.cached reply, ledger)) ∨
      (ledger.entries.get key = some ⟨key, none⟩ ∧
        Reservation.start ledger key = (.inFlight, ledger)) ∨
      (ledger.entries.get key = none ∧ Reservation.start ledger key =
        (.reserved, { ledger with entries := ledger.entries.put ⟨key, none⟩ })) := by
  unfold Reservation.start
  cases hget : ledger.entries.get key with
  | none => exact Or.inr (Or.inr ⟨rfl, rfl⟩)
  | some entry =>
    obtain ⟨key', known⟩ := entry
    obtain rfl : key' = key := Table.key_of_get hget
    cases known with
    | none => exact Or.inr (Or.inl ⟨rfl, rfl⟩)
    | some reply => exact Or.inl ⟨reply, rfl, rfl⟩

/-- What a reservation leaves. -/
theorem get_reserve (ledger : CommandLedger) (key k : CommandKey) :
    ({ ledger with entries := ledger.entries.put ⟨key, none⟩ } : CommandLedger).entries.get k =
      if k = key then some ⟨key, none⟩ else ledger.entries.get k := by
  show (ledger.entries.put ⟨key, none⟩).get k = _
  by_cases hk : k = key
  · subst hk
    rw [if_pos rfl]
    exact Table.get_put_self _ _
  · rw [if_neg hk, Table.get_put_of_ne _ hk]

theorem get_remove (ledger : CommandLedger) (key k : CommandKey) :
    (Reservation.remove ledger key).entries.get k =
      if k = key then none else ledger.entries.get k := by
  show (ledger.entries.remove key).get k = _
  by_cases hk : k = key
  · subst hk
    rw [if_pos rfl, Table.get_remove_self]
  · rw [if_neg hk, Table.get_remove_of_ne _ hk]

theorem evictCompleted_of_le {capacity : Nat} {entries : Table LedgerEntry.key}
    {completed : List CommandKey} (h : completed.length ≤ capacity) :
    evictCompleted capacity entries completed = (entries, completed) := by
  cases completed with
  | nil => rfl
  | cons old completed => rw [evictCompleted, if_neg (by omega)]

/-- One push needs at most one turn of the loop. -/
theorem evictCompleted_push {capacity : Nat} (entries : Table LedgerEntry.key)
    {completed : List CommandKey} (hcap : 0 < capacity) (h : completed.length ≤ capacity)
    (key : CommandKey) :
    (completed.length < capacity ∧ evictCompleted capacity entries (completed ++ [key]) =
        (entries, completed ++ [key])) ∨
      (completed.length = capacity ∧ ∃ old rest, completed = old :: rest ∧
        evictCompleted capacity entries (completed ++ [key]) =
          (entries.remove old, rest ++ [key])) := by
  by_cases hlt : completed.length < capacity
  · refine Or.inl ⟨hlt, evictCompleted_of_le ?_⟩
    rw [List.length_append, List.length_singleton]
    omega
  · refine Or.inr ⟨by omega, ?_⟩
    cases completed with
    | nil =>
      rw [List.length_nil] at hlt
      omega
    | cons old rest =>
      rw [List.length_cons] at h hlt
      refine ⟨old, rest, rfl, ?_⟩
      have hlen : (rest ++ [key]).length ≤ capacity := by
        rw [List.length_append, List.length_singleton]
        omega
      show (if capacity < (old :: (rest ++ [key])).length then
        evictCompleted capacity (entries.remove old) (rest ++ [key]) else _) = _
      rw [if_pos (by rw [List.length_cons, List.length_append, List.length_singleton]; omega),
        evictCompleted_of_le hlen]

/-! ### What one resumption does -/

/-- A resumption writes nothing, reserves, or ends a reservation. -/
inductive HandleStep : Handle → CommandLedger → Handle → CommandLedger → List CommandEvent → Prop
  | quiet {call call' : Handle} {ledger : CommandLedger}
      (h : ∀ key, call'.holds key = call.holds key) : HandleStep call ledger call' ledger []
  | cached {call call' : Handle} {ledger : CommandLedger} {reply : CachedReply}
      (h : ∀ key, call'.holds key = call.holds key)
      (hget : ledger.entries.get call.key = some ⟨call.key, some reply⟩) :
      HandleStep call ledger call' ledger [.began call.key (.cached reply) reply.sends]
  | inFlight {call call' : Handle} {ledger : CommandLedger} {sends : Option String}
      (h : ∀ key, call'.holds key = call.holds key)
      (hget : ledger.entries.get call.key = some ⟨call.key, none⟩) :
      HandleStep call ledger call' ledger [.began call.key .inFlight sends]
  | reserved {call call' : Handle} {ledger : CommandLedger}
      (h : ∀ key, call.holds key = false)
      (h' : ∀ key, call'.holds key = decide (call.key = key))
      (hget : ledger.entries.get call.key = none) :
      HandleStep call ledger call'
        { ledger with entries := ledger.entries.put ⟨call.key, none⟩ }
        [.began call.key .reserved none]
  | removed {call call' : Handle} {ledger : CommandLedger}
      (h : ∀ key, call.holds key = decide (call.key = key))
      (h' : ∀ key, call'.holds key = false) :
      HandleStep call ledger call' (Reservation.remove ledger call.key) [.removed call.key]
  | committed {call call' : Handle} {ledger : CommandLedger} (reply : CachedReply)
      (h : ∀ key, call.holds key = decide (call.key = key))
      (h' : ∀ key, call'.holds key = false) :
      HandleStep call ledger call' (Reservation.commit ledger call.key reply)
        [.completed call.key reply reply.sends]

theorem holds_of_phase {call : Handle} (h : call.phase ≠ .executing) (key : CommandKey) :
    call.holds key = false := by
  unfold Handle.holds
  simp [h]

theorem holds_of_executing {call : Handle} (h : call.phase = .executing) (key : CommandKey) :
    call.holds key = decide (call.key = key) := by
  unfold Handle.holds
  simp [h]

theorem holds_replyPhase (call : Handle) (sends : Option String) (key : CommandKey) :
    ({ call with phase := replyPhase sends } : Handle).holds key = false := by
  apply holds_of_phase
  cases sends <;> simp [replyPhase]

theorem first_step {call : Handle} (h : call.phase = .called) (ledger : CommandLedger) :
    HandleStep call ledger (call.first ledger).1 (call.first ledger).2.1
      (call.first ledger).2.2 := by
  have hnone : ∀ key, call.holds key = false := fun key => holds_of_phase (by simp [h]) key
  unfold Handle.first
  split
  · refine .quiet ?_
    intro key
    rw [hnone, holds_of_phase (by simp)]
  · obtain ⟨reply, hget, heq⟩ | ⟨hget, heq⟩ | ⟨hget, heq⟩ := start_cases ledger call.key
    · rw [heq]
      refine .cached ?_ hget
      intro key
      rw [hnone, holds_replyPhase]
    · rw [heq]
      refine .inFlight ?_ hget
      intro key
      rw [hnone, holds_of_phase (by simp)]
    · rw [heq]
      exact .reserved hnone (holds_of_executing rfl) hget

theorem finish_step {call : Handle} (h : call.phase = .executing) (ledger : CommandLedger)
    (result : Except Unit String) :
    HandleStep call ledger (call.finish ledger result).1 (call.finish ledger result).2.1
      (call.finish ledger result).2.2 := by
  cases result with
  | error e =>
    refine .removed (holds_of_executing h) ?_
    intro key
    exact holds_of_phase (by simp [Handle.finish]) key
  | ok body =>
    show HandleStep call ledger { call with phase := replyPhase _ } (Reservation.commit _ _ _)
      [.completed call.key (.ofBody body) (if body.isEmpty then none else some body)]
    rw [← sends_ofBody]
    exact .committed _ (holds_of_executing h) (holds_replyPhase call _)

/-- **Every resumption is one of these steps.** -/
theorem handle_step (poll : Poll) (call : Handle) (ledger : CommandLedger) :
    HandleStep call ledger (call.advance poll ledger).1 (call.advance poll ledger).2.1
      (call.advance poll ledger).2.2 := by
  -- a phase that is not `executing` stays one
  have hquiet : ∀ phase, call.phase ≠ .executing → phase ≠ .executing →
      HandleStep call ledger { call with phase := phase } ledger [] := by
    intro phase h h'
    refine .quiet ?_
    intro key
    rw [holds_of_phase h, holds_of_phase h']
  unfold Handle.advance
  split
  · exact first_step ‹_› ledger
  · exact finish_step ‹_› ledger _
  · exact .removed (holds_of_executing ‹_›) (holds_of_phase (by simp))
  · rename_i accepted hphase
    exact hquiet _ (by simp [hphase]) (by cases accepted <;> simp)
  · exact hquiet _ (by simp [‹call.phase = _›]) (by simp)
  · exact hquiet _ (by simp [‹call.phase = _›]) (by simp)
  · exact .quiet fun _ => rfl

/-! ### The invariant -/

/-- The entries are the keys held, each once, and the keys of the queue. -/
structure LedgerInv (ledger : CommandLedger) (held : CommandKey → Nat) : Prop where
  held_eq : ∀ key, held key = if ledger.entries.get key = some ⟨key, none⟩ then 1 else 0
  done_iff : ∀ key, key ∈ ledger.completed ↔
    ∃ reply, ledger.entries.get key = some ⟨key, some reply⟩
  nodup : ledger.completed.Nodup
  bounded : ledger.completed.length ≤ ledger.capacity

namespace LedgerInv

variable {held held' : CommandKey → Nat}

theorem new (capacity : Nat) (h : 0 < capacity) :
    LedgerInv (.new capacity h) fun _ => 0 where
  held_eq := by
    intro key
    simp [CommandLedger.new]
  done_iff := by
    intro key
    simp [CommandLedger.new]
  nodup := List.nodup_nil
  bounded := Nat.zero_le _

theorem get_of_held (h : LedgerInv ledger held) (hheld : held key = 1) :
    ledger.entries.get key = some ⟨key, none⟩ := by
  have heq := h.held_eq key
  rw [hheld] at heq
  by_contra hne
  rw [if_neg hne] at heq
  omega

theorem not_completed (h : LedgerInv ledger held)
    (hget : ∀ reply, ledger.entries.get key ≠ some ⟨key, some reply⟩) :
    key ∉ ledger.completed := by
  intro hmem
  obtain ⟨reply, hreply⟩ := (h.done_iff key).mp hmem
  exact hget reply hreply

theorem reserve (h : LedgerInv ledger held) (hget : ledger.entries.get key = none)
    (hheld : ∀ k, held' k = if k = key then 1 else held k) :
    LedgerInv { ledger with entries := ledger.entries.put ⟨key, none⟩ } held' where
  held_eq := by
    intro k
    rw [hheld, get_reserve]
    by_cases hk : k = key
    · simp [hk]
    · rw [if_neg hk, if_neg hk]
      exact h.held_eq k
  done_iff := by
    intro k
    show k ∈ ledger.completed ↔ _
    rw [get_reserve]
    by_cases hk : k = key
    · subst hk
      have hout : k ∉ ledger.completed := h.not_completed (by simp [hget])
      simp [hout]
    · rw [if_neg hk]
      exact h.done_iff k
  nodup := h.nodup
  bounded := h.bounded

theorem remove (h : LedgerInv ledger held) (hone : held key = 1)
    (hheld : ∀ k, held' k = if k = key then 0 else held k) :
    LedgerInv (Reservation.remove ledger key) held' where
  held_eq := by
    intro k
    rw [hheld, get_remove]
    by_cases hk : k = key
    · simp [hk]
    · rw [if_neg hk, if_neg hk]
      exact h.held_eq k
  done_iff := by
    intro k
    show k ∈ ledger.completed ↔ _
    rw [get_remove]
    by_cases hk : k = key
    · subst hk
      have hout : k ∉ ledger.completed := h.not_completed (by simp [h.get_of_held hone])
      simp [hout]
    · rw [if_neg hk]
      exact h.done_iff k
  nodup := h.nodup
  bounded := h.bounded

end LedgerInv

/-- What a commit leaves of every other key, and the queue. -/
theorem commit_cases {held : CommandKey → Nat} (h : LedgerInv ledger held)
    (hone : held key = 1) (reply : CachedReply) :
    ∃ gone kept, ledger.completed = gone ++ kept ∧
      (gone = [] ∨ (ledger.completed.length = ledger.capacity ∧ ∃ old, gone = [old])) ∧
      (Reservation.commit ledger key reply).completed = kept ++ [key] ∧
      (kept ++ [key]).length ≤ ledger.capacity ∧
      ∀ k, (Reservation.commit ledger key reply).entries.get k =
        if k = key then some ⟨key, some reply⟩ else if k ∈ gone then none
        else ledger.entries.get k := by
  have hout : key ∉ ledger.completed := h.not_completed (by simp [h.get_of_held hone])
  have hput : ∀ k, (ledger.entries.put ⟨key, some reply⟩).get k =
      if k = key then some ⟨key, some reply⟩ else ledger.entries.get k := by
    intro k
    by_cases hk : k = key
    · subst hk
      rw [if_pos rfl]
      exact Table.get_put_self _ _
    · rw [if_neg hk, Table.get_put_of_ne _ hk]
  obtain ⟨hlt, heq⟩ | ⟨hlen, old, rest, hsplit, heq⟩ :=
    evictCompleted_push (ledger.entries.put ⟨key, some reply⟩) ledger.capacity_pos h.bounded key
  · refine ⟨[], ledger.completed, rfl, Or.inl rfl, ?_, ?_, ?_⟩
    · show (evictCompleted _ _ _).2 = _
      rw [heq]
    · rw [List.length_append, List.length_singleton]
      omega
    · intro k
      show (evictCompleted _ _ _).1.get k = _
      rw [heq, hput]
      simp
  · refine ⟨[old], rest, hsplit, Or.inr ⟨hlen, old, rfl⟩, ?_, ?_, ?_⟩
    · show (evictCompleted _ _ _).2 = _
      rw [heq]
    · rw [hsplit, List.length_cons] at hlen
      rw [List.length_append, List.length_singleton]
      omega
    · intro k
      show (evictCompleted _ _ _).1.get k = _
      rw [heq]
      by_cases hk : k = old
      · subst hk
        have hne : k ≠ key := by
          intro hke
          subst hke
          exact hout (by simp [hsplit])
        rw [Table.get_remove_self, if_neg hne]
        simp
      · rw [Table.get_remove_of_ne _ hk, hput]
        simp [hk]

theorem LedgerInv.commit {held held' : CommandKey → Nat} (h : LedgerInv ledger held)
    (hone : held key = 1) (hheld : ∀ k, held' k = if k = key then 0 else held k)
    (reply : CachedReply) : LedgerInv (Reservation.commit ledger key reply) held' := by
  obtain ⟨gone, kept, hsplit, hgone, hqueue, hlen, hget⟩ := commit_cases h hone reply
  have hflight := h.get_of_held hone
  have hout : key ∉ ledger.completed := h.not_completed (by simp [hflight])
  have hnodup : (gone ++ kept).Nodup := hsplit ▸ h.nodup
  refine ⟨?_, ?_, ?_, ?_⟩
  · intro k
    rw [hheld, hget]
    by_cases hk : k = key
    · simp [hk]
    · rw [if_neg hk, if_neg hk]
      by_cases hmem : k ∈ gone
      · -- an evicted key was completed, so nobody holds it
        obtain ⟨r, hr⟩ := (h.done_iff k).mp (by rw [hsplit]; exact List.mem_append_left _ hmem)
        rw [if_pos hmem, h.held_eq, hr]
        simp
      · rw [if_neg hmem]
        exact h.held_eq k
  · intro k
    rw [hqueue, hget, List.mem_append, List.mem_singleton]
    by_cases hk : k = key
    · simp [hk]
    · rw [if_neg hk]
      by_cases hmem : k ∈ gone
      · have hkept : k ∉ kept := fun hkept =>
          (List.nodup_append.mp hnodup).2.2 k hmem k hkept rfl
        rw [if_pos hmem]
        simp [hk, hkept]
      · rw [if_neg hmem, ← h.done_iff k, hsplit, List.mem_append]
        simp [hk, hmem]
  · rw [hqueue]
    have hkept : key ∉ kept := fun hmem =>
      hout (by rw [hsplit]; exact List.mem_append_right _ hmem)
    rw [← List.concat_eq_append]
    exact (List.nodup_append.mp hnodup).2.1.concat hkept
  · rw [hqueue]
    exact hlen

/-! ### Counting the holders -/

/-- The calls that hold each key. -/
def holders (calls : List Handle) (key : CommandKey) : Nat := calls.countP (Handle.holds key)

variable {calls : List Handle} {index : Nat} {call call' : Handle}

theorem LedgerInv.holders_eq_one (h : LedgerInv ledger (holders calls)) (hmem : call ∈ calls)
    (hhold : call.holds key = true) : holders calls key = 1 := by
  have hpos : 0 < holders calls key := List.countP_pos_iff.mpr ⟨call, hmem, hhold⟩
  have heq := h.held_eq key
  split at heq <;> omega

theorem holders_quiet (hcall : calls[index]? = some call)
    (h : ∀ key, call'.holds key = call.holds key) :
    holders (calls.set index call') = holders calls := by
  funext key
  have hcount := countP_set_add (Handle.holds key) call' hcall
  rw [h] at hcount
  exact Nat.add_right_cancel hcount

theorem holders_reserved (hcall : calls[index]? = some call)
    (h : ∀ key, call.holds key = false) (h' : ∀ key, call'.holds key = decide (call.key = key))
    (hfree : holders calls call.key = 0) (k : CommandKey) :
    holders (calls.set index call') k = if k = call.key then 1 else holders calls k := by
  have hcount : holders (calls.set index call') k + _ = holders calls k + _ :=
    countP_set_add (Handle.holds k) call' hcall
  rw [h, h'] at hcount
  by_cases hk : k = call.key
  · subst hk
    simp only [Bool.false_eq_true, if_false, decide_true, if_true] at hcount ⊢
    omega
  · have hne : decide (call.key = k) = false := decide_eq_false fun heq => hk heq.symm
    rw [hne] at hcount
    rw [if_neg hk]
    exact Nat.add_right_cancel hcount

theorem holders_ended (hcall : calls[index]? = some call)
    (h : ∀ key, call.holds key = decide (call.key = key)) (h' : ∀ key, call'.holds key = false)
    (hone : holders calls call.key = 1) (k : CommandKey) :
    holders (calls.set index call') k = if k = call.key then 0 else holders calls k := by
  have hcount : holders (calls.set index call') k + _ = holders calls k + _ :=
    countP_set_add (Handle.holds k) call' hcall
  rw [h, h'] at hcount
  by_cases hk : k = call.key
  · subst hk
    simp only [Bool.false_eq_true, if_false, decide_true, if_true] at hcount ⊢
    omega
  · have hne : decide (call.key = k) = false := decide_eq_false fun heq => hk heq.symm
    rw [hne] at hcount
    rw [if_neg hk]
    exact Nat.add_right_cancel hcount

variable {ledger' : CommandLedger} {events : List CommandEvent}

/-- **A resumption keeps the invariant.** -/
theorem HandleStep.inv (hstep : HandleStep call ledger call' ledger' events)
    (hcall : calls[index]? = some call) (h : LedgerInv ledger (holders calls)) :
    LedgerInv ledger' (holders (calls.set index call')) := by
  have hmem : call ∈ calls := List.mem_of_getElem? hcall
  cases hstep with
  | quiet hsame =>
    rw [holders_quiet hcall hsame]
    exact h
  | cached hsame hget =>
    rw [holders_quiet hcall hsame]
    exact h
  | inFlight hsame hget =>
    rw [holders_quiet hcall hsame]
    exact h
  | reserved hhold hhold' hget =>
    have hfree : holders calls call.key = 0 := by
      rw [h.held_eq, hget]
      simp
    exact h.reserve hget (holders_reserved hcall hhold hhold' hfree)
  | removed hhold hhold' =>
    have hone := h.holders_eq_one hmem (by rw [hhold]; exact decide_eq_true rfl)
    exact h.remove hone (holders_ended hcall hhold hhold' hone)
  | committed reply hhold hhold' =>
    have hone := h.holders_eq_one hmem (by rw [hhold]; exact decide_eq_true rfl)
    exact h.commit hone (holders_ended hcall hhold hhold' hone) reply

theorem HandleStep.capacity (hstep : HandleStep call ledger call' ledger' events) :
    ledger'.capacity = ledger.capacity := by
  cases hstep <;> rfl

/-! ### How long a reply is kept -/

/-- The keys whose commands completed, in order. -/
def completedKeys (events : List CommandEvent) : List CommandKey :=
  events.filterMap fun
    | .completed key _ _ => some key
    | _ => none

theorem completedKeys_append (events more : List CommandEvent) :
    completedKeys (events ++ more) = completedKeys events ++ completedKeys more :=
  List.filterMap_append

/-- Every call of `key` was answered with `reply`. -/
def AllCached (key : CommandKey) (reply : CachedReply) (events : List CommandEvent) : Prop :=
  ∀ outcome sends, .began key outcome sends ∈ events →
    outcome = .cached reply ∧ sends = reply.sends

theorem AllCached.append {events more : List CommandEvent} (h : AllCached key reply events)
    (h' : AllCached key reply more) : AllCached key reply (events ++ more) := by
  intro outcome sends hmem
  obtain hold | hnew := List.mem_append.mp hmem
  · exact h outcome sends hold
  · exact h' outcome sends hnew

/-- After `key` completed with `reply`: the reply is still there and behind `key` stand the keys
that completed later, or a whole queue of others has completed since. -/
inductive LedgerKept (ledger : CommandLedger) (key : CommandKey) (reply : CachedReply) :
    List CommandEvent → Prop
  | live {later : List CommandEvent} (front : List CommandKey)
      (hqueue : ledger.completed = front ++ key :: completedKeys later)
      (hget : ledger.entries.get key = some ⟨key, some reply⟩)
      (hall : AllCached key reply later) : LedgerKept ledger key reply later
  | turned {turn rest : List CommandEvent} (hall : AllCached key reply turn)
      (hnodup : (completedKeys turn).Nodup) (hout : key ∉ completedKeys turn)
      (hlen : ledger.capacity ≤ (completedKeys turn).length) :
      LedgerKept ledger key reply (turn ++ rest)

/-- A commit of another key pushes behind the reply, or the reply at the front leaves. -/
theorem LedgerKept.commit {held : CommandKey → Nat} {later : List CommandEvent} {other : CommandKey}
    {reply' : CachedReply} {sends : Option String} {front : List CommandKey}
    (h : LedgerInv ledger held) (hone : held other = 1)
    (hqueue : ledger.completed = front ++ key :: completedKeys later)
    (hget : ledger.entries.get key = some ⟨key, some reply⟩)
    (hall : AllCached key reply later) :
    LedgerKept (Reservation.commit ledger other reply') key reply
      (later ++ [.completed other reply' sends]) := by
  have hflight := h.get_of_held hone
  have hne : key ≠ other := by
    intro heq
    subst heq
    rw [hget] at hflight
    simp at hflight
  have hout : other ∉ ledger.completed := h.not_completed (by simp [hflight])
  have hkeys : completedKeys (later ++ [.completed other reply' sends]) =
      completedKeys later ++ [other] := completedKeys_append _ _
  have hall' : AllCached key reply (later ++ [.completed other reply' sends]) :=
    hall.append (by intro outcome sends hmem; simp at hmem)
  have hnodup : (front ++ key :: completedKeys later).Nodup := hqueue ▸ h.nodup
  obtain ⟨gone, kept, hsplit, hgone, hqueue', -, hget'⟩ := commit_cases h hone reply'
  rw [hqueue] at hsplit
  have hstay : key ∉ gone → (Reservation.commit ledger other reply').entries.get key =
      some ⟨key, some reply⟩ := by
    intro hnot
    rw [hget', if_neg hne, if_neg hnot, hget]
  obtain rfl | ⟨hlen, old, rfl⟩ := hgone
  · refine .live front ?_ (hstay (by simp)) hall'
    rw [hqueue', hkeys, ← List.nil_append kept, ← hsplit]
    simp
  · cases front with
    | cons first front =>
      obtain ⟨rfl, hrest⟩ : first = old ∧ front ++ key :: completedKeys later = kept := by
        simpa using hsplit
      refine .live front ?_ (hstay ?_) hall'
      · rw [hqueue', hkeys, ← hrest]
        simp
      · intro hmem
        obtain rfl : key = first := by simpa using hmem
        simp at hnodup
    | nil =>
      -- the key itself was the front of a full queue
      rw [hqueue] at hlen hout
      rw [List.nil_append] at hlen hout hnodup
      rw [← List.append_nil (later ++ _)]
      refine .turned hall' ?_ ?_ ?_
      · rw [hkeys, ← List.concat_eq_append]
        exact (List.nodup_cons.mp hnodup).2.concat fun hmem =>
          hout (List.mem_cons_of_mem _ hmem)
      · rw [hkeys]
        intro hmem
        obtain hold | hnew := List.mem_append.mp hmem
        · exact (List.nodup_cons.mp hnodup).1 hold
        · exact hne (by simpa using hnew)
      · show ledger.capacity ≤ _
        rw [hkeys, ← hlen, List.length_cons, List.length_append, List.length_singleton]

/-- **A resumption keeps what is kept.** -/
theorem HandleStep.kept {later : List CommandEvent}
    (hstep : HandleStep call ledger call' ledger' events) (hmem : call ∈ calls)
    (h : LedgerInv ledger (holders calls)) (hkept : LedgerKept ledger key reply later) :
    LedgerKept ledger' key reply (later ++ events) := by
  cases hkept with
  | turned hall hnodup hout hlen =>
    rw [List.append_assoc]
    refine .turned hall hnodup hout ?_
    rw [hstep.capacity]
    exact hlen
  | live front hqueue hget hall =>
    cases hstep with
    | quiet hsame =>
      rw [List.append_nil]
      exact .live front hqueue hget hall
    | @cached _ _ known hsame hknown =>
      refine .live front ?_ hget (hall.append ?_)
      · rw [hqueue, completedKeys_append]
        simp [completedKeys]
      · intro outcome sends hin
        obtain ⟨rfl, rfl, rfl⟩ : key = call.key ∧ outcome = .cached known ∧
            sends = known.sends := by simpa using hin
        rw [hget] at hknown
        obtain rfl : reply = known := by simpa using hknown
        exact ⟨rfl, rfl⟩
    | inFlight hsame hknown =>
      refine .live front ?_ hget (hall.append ?_)
      · rw [hqueue, completedKeys_append]
        simp [completedKeys]
      · intro outcome sends hin
        obtain ⟨rfl, -⟩ : key = call.key ∧ _ := by simpa using hin
        rw [hget] at hknown
        simp at hknown
    | reserved hhold hhold' hfree =>
      have hne : key ≠ call.key := by
        intro heq
        rw [← heq, hget] at hfree
        cases hfree
      refine .live front ?_ ?_ (hall.append ?_)
      · rw [completedKeys_append]
        simpa [completedKeys] using hqueue
      · rw [get_reserve, if_neg hne, hget]
      · intro outcome sends hin
        exact absurd (show key = call.key by simpa using And.left (by simpa using hin)) hne
    | removed hhold hhold' =>
      have hflight := h.get_of_held
        (h.holders_eq_one hmem (by rw [hhold]; exact decide_eq_true rfl))
      have hne : key ≠ call.key := by
        intro heq
        rw [← heq, hget] at hflight
        simp at hflight
      refine .live front ?_ ?_ (hall.append ?_)
      · show ledger.completed = _
        rw [completedKeys_append]
        simpa [completedKeys] using hqueue
      · rw [get_remove, if_neg hne, hget]
      · intro outcome sends hin
        simp at hin
    | committed reply' hhold hhold' =>
      exact .commit h (h.holders_eq_one hmem (by rw [hhold]; exact decide_eq_true rfl))
        hqueue hget hall

/-- The key just completed is the last of the queue. -/
theorem LedgerKept.fresh {held : CommandKey → Nat} (h : LedgerInv ledger held)
    (hone : held key = 1) (reply : CachedReply) :
    LedgerKept (Reservation.commit ledger key reply) key reply [] := by
  obtain ⟨gone, kept, -, -, hqueue, -, hget⟩ := commit_cases h hone reply
  refine .live kept hqueue ?_ ?_
  · rw [hget, if_pos rfl]
  · intro outcome sends hin
    simp at hin

end GuiguBridge
