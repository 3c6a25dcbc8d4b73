import GuiguBridge.Bus.QueueLoop
import GuiguBridge.Reference

/-!
# The order in which tasks are processed

Whatever is submitted between two calls of the worker (`src/src/bus/worker.rs`):

* `popQueue_perm`, `popQueue_first` — a task taken is the first of the queue;
* `arrivals` — the submitted tasks under the numbers of their submission;
* `LoopInv`, `loopRun_inv` — **a task received is processed or queued, once**, those of one
  priority in the order of submission, the queue no longer than the channel;
* `worker_queue` — what this says of a run that returned, stopped, or is still running.
-/

namespace GuiguBridge

open Prog

namespace Worker

/-! ### The first of the queue -/

/-- `a` is taken before `b`. -/
def QueuedTask.Precedes (a b : QueuedTask) : Prop :=
  b.priority.value < a.priority.value ∨
    (a.priority.value = b.priority.value ∧ a.arrival < b.arrival)

theorem before_iff (a b : QueuedTask) : a.before b = true ↔ a.Precedes b := by
  simp [QueuedTask.before, QueuedTask.Precedes]

theorem popQueue_perm {queue rest : List QueuedTask} {next : QueuedTask}
    (h : popQueue queue = some (next, rest)) : queue.Perm (next :: rest) := by
  induction queue generalizing next rest with
  | nil => cases h
  | cons t ts ih =>
    rw [popQueue] at h
    cases hpop : popQueue ts with
    | none =>
      rw [hpop] at h
      cases h
      rw [popQueue_none hpop]
    | some popped =>
      obtain ⟨best, others⟩ := popped
      have hts := (ih hpop).cons t
      rw [hpop] at h
      dsimp only at h
      split at h
      · cases h
        exact hts.trans (List.Perm.swap next t others)
      · cases h
        exact hts

/-- Nothing left in the queue precedes the task taken. -/
theorem popQueue_first {queue rest : List QueuedTask} {next : QueuedTask}
    (h : popQueue queue = some (next, rest)) : ∀ q ∈ rest, ¬ q.Precedes next := by
  induction queue generalizing next rest with
  | nil => cases h
  | cons t ts ih =>
    rw [popQueue] at h
    cases hpop : popQueue ts with
    | none =>
      rw [hpop] at h
      cases h
      simp
    | some popped =>
      obtain ⟨best, others⟩ := popped
      have hbest := ih hpop
      rw [hpop] at h
      dsimp only at h
      split at h
      · rename_i hbefore
        cases h
        intro q hq
        obtain rfl | hq := List.mem_cons.mp hq
        · have hprecedes := (before_iff _ _).mp hbefore
          simp only [QueuedTask.Precedes] at hprecedes ⊢
          omega
        · exact hbest q hq
      · rename_i hbefore
        cases h
        have hnot : ¬ best.Precedes t := fun hp => hbefore ((before_iff _ _).mpr hp)
        intro q hq
        obtain rfl | hq := List.mem_cons.mp hq
        · exact hnot
        · have hq' := hbest q hq
          simp only [QueuedTask.Precedes] at hnot hq' ⊢
          omega

/-! ### Submitted tasks and their numbers -/

/-- The tasks of a channel as the queue knows them: numbered in the order of submission. -/
def arrivals (tasks : List AgentTask) : List QueuedTask :=
  tasks.zipIdx.map fun t => ⟨t.1.priority, t.2, t.1⟩

theorem arrivals_concat (tasks : List AgentTask) (task : AgentTask) :
    arrivals (tasks ++ [task]) = arrivals tasks ++ [⟨task.priority, tasks.length, task⟩] := by
  simp [arrivals, List.zipIdx_append]

/-- The number of a queued task is its place in the channel. -/
theorem mem_arrivals {tasks : List AgentTask} {q : QueuedTask} (h : q ∈ arrivals tasks) :
    tasks[q.arrival]? = some q.task ∧ q.priority = q.task.priority := by
  obtain ⟨t, ht, rfl⟩ := List.mem_map.mp h
  exact ⟨List.mem_zipIdx_iff_getElem?.mp ht, rfl⟩

theorem arrival_lt {tasks : List AgentTask} {q : QueuedTask} (h : q ∈ arrivals tasks) :
    q.arrival < tasks.length := (List.getElem?_eq_some_iff.mp (mem_arrivals h).1).1

theorem arrivals_nodup (tasks : List AgentTask) :
    ((arrivals tasks).map QueuedTask.arrival).Nodup := by
  have hmap : (arrivals tasks).map QueuedTask.arrival = tasks.zipIdx.map Prod.snd := by
    simp only [arrivals, List.map_map]
    rfl
  rw [hmap, List.zipIdx_map_snd]
  exact List.nodup_range'

/-- Of one priority, `a` was submitted first. -/
def Fifo (a b : QueuedTask) : Prop := a.priority = b.priority → a.arrival < b.arrival

/-! ### The invariant of the loop -/

variable {σ : Type} {w : Worker σ} {channel : TaskChannel σ}

/-- After `rounds` rounds in which the tasks `done` were processed. -/
structure LoopInv (w : Worker σ) (channel : TaskChannel σ) (done : List QueuedTask)
    (rounds : Nat) (l : LoopState σ) : Prop where
  taken_le : channel.taken l.state.world ≤ (channel.submitted l.state.world).length
  received : l.state.received =
    (channel.submitted l.state.world).take (channel.taken l.state.world)
  arrival : l.arrival = l.state.received.length
  perm : (done ++ l.queue).Perm (arrivals l.state.received)
  bounded : l.queue.length ≤ w.services.maxCapacity
  fifo : done.Pairwise Fifo
  ahead : ∀ d ∈ done, ∀ q ∈ l.queue, Fifo d q
  closed : l.closed = true → channel.Exhausted l.state.world
  paid : rounds ≤ done.length + l.state.received.length

theorem take_of_prefix {α : Type} {xs ys : List α} {n : Nat} (h : xs <+: ys)
    (hn : n ≤ xs.length) : ys.take n = xs.take n := by
  obtain ⟨more, rfl⟩ := h
  exact List.take_append_of_le_length hn

namespace LoopInv

variable {done : List QueuedTask} {rounds : Nat} {l : LoopState σ}

/-- The number of the tasks received is the number of those taken out. -/
theorem received_length (h : LoopInv w channel done rounds l) :
    l.state.received.length = channel.taken l.state.world := by
  rw [h.received, List.length_take]
  exact Nat.min_eq_left h.taken_le

/-- More was submitted; the tasks the worker has stay. -/
theorem submits {s : WorkerState σ} (h : LoopInv w channel done rounds l)
    (hs : channel.Submits l.state.world s.world) (hreceived : s.received = l.state.received) :
    LoopInv w channel done rounds { l with state := s } where
  taken_le := by
    have hlen := hs.submitted.length_le
    have hle := h.taken_le
    show channel.taken s.world ≤ (channel.submitted s.world).length
    rw [hs.taken]
    omega
  received := by
    show s.received = (channel.submitted s.world).take (channel.taken s.world)
    rw [hreceived, h.received, hs.taken, take_of_prefix hs.submitted h.taken_le]
  arrival := by
    show l.arrival = s.received.length
    rw [hreceived, h.arrival]
  perm := by
    show (done ++ l.queue).Perm (arrivals s.received)
    rw [hreceived]
    exact h.perm
  bounded := h.bounded
  fifo := h.fifo
  ahead := h.ahead
  closed := by
    intro hclosed
    obtain ⟨hend, htaken⟩ := h.closed hclosed
    obtain ⟨hend', hsame⟩ := hs.closed hend
    refine ⟨hend', ?_⟩
    show channel.taken s.world = _
    rw [hs.taken, htaken, hsame]
  paid := by
    show rounds ≤ done.length + s.received.length
    rw [hreceived]
    exact h.paid

/-- A task leaves the channel and enters the queue. -/
theorem enqueue {task : AgentTask} {world : σ} (h : LoopInv w channel done rounds l)
    (ht : channel.Takes l.state.world task world)
    (hroom : l.queue.length < w.services.maxCapacity) (hopen : l.closed = false) :
    LoopInv w channel done rounds (l.enqueue task world) := by
  have hlen : channel.taken l.state.world < (channel.submitted world).length :=
    (List.getElem?_eq_some_iff.mp ht.next).1
  have hreceived : l.state.received ++ [task] =
      (channel.submitted world).take (channel.taken world) := by
    rw [ht.taken, List.take_add_one, ht.next, h.received,
      take_of_prefix ht.submitted h.taken_le]
    rfl
  refine ⟨?_, hreceived, ?_, ?_, ?_, h.fifo, ?_, ?_, ?_⟩
  · show channel.taken world ≤ _
    rw [ht.taken]
    exact hlen
  · show l.arrival + 1 = (l.state.received ++ [task]).length
    rw [h.arrival, List.length_append, List.length_singleton]
  · show (done ++ (l.queue ++ [_])).Perm (arrivals (l.state.received ++ [task]))
    rw [arrivals_concat, ← List.append_assoc, h.arrival]
    exact h.perm.append_right _
  · show (l.queue ++ [_]).length ≤ _
    rw [List.length_append, List.length_singleton]
    exact hroom
  · intro d hd q hq hpriority
    obtain hq | hq := List.mem_append.mp hq
    · exact h.ahead d hd q hq hpriority
    · -- the number of the new task is larger than any before
      obtain rfl := List.mem_singleton.mp hq
      show d.arrival < l.arrival
      rw [h.arrival]
      exact arrival_lt (h.perm.subset (List.mem_append_left _ hd))
  · intro hclosed
    have hclosed : l.closed = true := hclosed
    rw [hopen] at hclosed
    cases hclosed
  · have hpaid := h.paid
    show rounds ≤ done.length + (l.state.received ++ [task]).length
    rw [List.length_append]
    omega

/-- The task taken is the first of the queue and has a number of its own. -/
theorem next_first {rest : List QueuedTask} {next : QueuedTask}
    (h : LoopInv w channel done rounds l) (hpop : popQueue l.queue = some (next, rest)) :
    ∀ q ∈ rest, next.Precedes q := by
  intro q hq
  have hnodup : ((done ++ l.queue).map QueuedTask.arrival).Nodup :=
    (h.perm.map _).nodup_iff.mpr (arrivals_nodup _)
  rw [List.map_append, List.nodup_append] at hnodup
  have hqueue := ((popQueue_perm hpop).map QueuedTask.arrival).nodup_iff.mp hnodup.2.1
  rw [List.map_cons, List.nodup_cons] at hqueue
  have hne : next.arrival ≠ q.arrival := by
    intro heq
    exact hqueue.1 (heq ▸ List.mem_map_of_mem hq)
  have hfirst := popQueue_first hpop q hq
  simp only [QueuedTask.Precedes] at hfirst ⊢
  omega

/-- The first of the queue is processed. -/
theorem pop {rest : List QueuedTask} {next : QueuedTask}
    (h : LoopInv w channel done rounds l) (hpop : popQueue l.queue = some (next, rest)) :
    LoopInv w channel (done ++ [next]) (rounds + 1) { l with queue := rest } := by
  have hperm := popQueue_perm hpop
  have hmem : ∀ q ∈ next :: rest, q ∈ l.queue := fun q hq => hperm.symm.subset hq
  refine ⟨h.taken_le, h.received, h.arrival, ?_, ?_, ?_, ?_, h.closed, ?_⟩
  · show (done ++ [next] ++ rest).Perm _
    rw [List.append_assoc, List.singleton_append]
    exact (hperm.symm.append_left done).trans h.perm
  · have hlen := hperm.length_eq
    rw [List.length_cons] at hlen
    have hbounded := h.bounded
    show rest.length ≤ _
    omega
  · rw [List.pairwise_append]
    refine ⟨h.fifo, List.pairwise_singleton _ _, ?_⟩
    intro d hd q hq
    obtain rfl := List.mem_singleton.mp hq
    exact h.ahead d hd q (hmem q List.mem_cons_self)
  · intro d hd q hq
    obtain hd | hd := List.mem_append.mp hd
    · exact h.ahead d hd q (hmem q (List.mem_cons_of_mem _ hq))
    · obtain rfl := List.mem_singleton.mp hd
      intro hpriority
      have hfirst := h.next_first hpop q hq
      rw [QueuedTask.Precedes, hpriority] at hfirst
      omega
  · have hpaid := h.paid
    show rounds + 1 ≤ (done ++ [next]).length + l.state.received.length
    rw [List.length_append, List.length_singleton]
    omega

end LoopInv

/-! ### One round -/

variable {done : List QueuedTask} {rounds : Nat} {l : LoopState σ}

theorem admitLoop_inv (hc : channel.Contract w) (budget : Nat)
    (h : LoopInv w channel done rounds l) (hopen : l.closed = false)
    (hroom : l.queue.length + budget ≤ w.services.maxCapacity) :
    LoopInv w channel done rounds (w.admitLoop budget l) := by
  induction budget generalizing l with
  | zero => exact h
  | succ budget ih =>
    have hcall := hc.tryRecv l.state.world
    rw [admitLoop]
    cases hanswer : w.services.tryRecv l.state.world with
    | mk answer world =>
      rw [hanswer] at hcall
      cases answer with
      | task task =>
        refine ih (h.enqueue hcall (by omega) hopen) hopen ?_
        show (l.queue ++ [_]).length + budget ≤ _
        rw [List.length_append, List.length_singleton]
        omega
      | empty => exact h.submits (s := (l.at world).state) hcall rfl
      | disconnected =>
        have hnext := h.submits (s := (l.at world).state) hcall.1 rfl
        exact { hnext with closed := fun _ => hcall.2 }

theorem admitted_inv (hc : channel.Contract w) (h : LoopInv w channel done rounds l) :
    LoopInv w channel done rounds (w.admitted l) := by
  have hbounded := h.bounded
  unfold admitted
  cases hclosed : l.closed with
  | true =>
    rw [if_pos rfl]
    exact h
  | false =>
    simp only [Bool.false_eq_true, if_false]
    exact admitLoop_inv hc _ h hclosed (by omega)

section

variable [Externals]

/-- A processed task leaves what was received, and the channel to its producers. -/
theorem process_keeps (hc : channel.Contract w) (task : AgentTask) (s : WorkerState σ) :
    channel.Submits s.world (w.process task s).2.world ∧
      (w.process task s).2.received = s.received := by
  refine ⟨process_served hc.calls task s, ?_⟩
  have hspec := w.process_spec task s s rfl
  cases hprocess : w.process task s with
  | mk result s' =>
    rw [hprocess] at hspec
    cases result with
    | ok value =>
      obtain ⟨k, es, d, u, -, htraced⟩ := hspec
      exact htraced.received
    | error error =>
      obtain ⟨k, phase, es, hstopped⟩ := hspec
      exact hstopped.received

/-- The queue a task is taken from is no longer than the channel, and the task is its first. -/
structure FirstTaken (w : Worker σ) (taken : Taken) : Prop where
  bounded : taken.heap.length ≤ w.services.maxCapacity
  mem : taken.next ∈ taken.heap
  first : ∀ q ∈ taken.heap, q = taken.next ∨ taken.next.Precedes q

omit [Externals] in
theorem LoopInv.firstTaken {rest : List QueuedTask} {next : QueuedTask}
    (h : LoopInv w channel done rounds l) (hpop : popQueue l.queue = some (next, rest)) :
    FirstTaken w ⟨l.queue, next⟩ := by
  have hperm := popQueue_perm hpop
  refine ⟨h.bounded, hperm.symm.subset List.mem_cons_self, ?_⟩
  intro q hq
  obtain rfl | hq := List.mem_cons.mp (hperm.subset hq)
  · exact Or.inl rfl
  · exact Or.inr (h.next_first hpop q hq)

/-- What a round leaves. -/
def RoundKeeps (w : Worker σ) (channel : TaskChannel σ) (done : List QueuedTask)
    (rounds : Nat) : Round σ → Prop
  | .took taken after => FirstTaken w taken ∧
      LoopInv w channel (done ++ [taken.next]) (rounds + 1) after
  | .waited after => LoopInv w channel done (rounds + 1) after
  | .stopped taken error s => FirstTaken w taken ∧ error.isRecoveryNeeded = false ∧
      ∃ l, l.state = s ∧ LoopInv w channel (done ++ [taken.next]) (rounds + 1) l
  | .drained s => ∃ l, l.state = s ∧ l.queue = [] ∧ channel.Exhausted s.world ∧
      LoopInv w channel done rounds l

/-- **One round.** -/
theorem round_keeps (hc : channel.Contract w) (h : LoopInv w channel done rounds l) :
    RoundKeeps w channel done rounds (w.round l) := by
  have hl := admitted_inv hc h
  unfold round
  dsimp only
  generalize w.admitted l = l at hl
  cases hpop : popQueue l.queue with
  | some popped =>
    obtain ⟨next, rest⟩ := popped
    have htaken := hl.firstTaken hpop
    have hkeeps := process_keeps hc next.task l.state
    dsimp only
    cases hprocess : w.process next.task l.state with
    | mk result s =>
      rw [hprocess] at hkeeps
      have hnext := (hl.pop hpop).submits hkeeps.1 hkeeps.2
      cases result with
      | ok value => exact ⟨htaken, hnext⟩
      | error error =>
        dsimp only
        cases hrec : error.isRecoveryNeeded with
        | true => exact ⟨htaken, hnext⟩
        | false => exact ⟨htaken, hrec, _, rfl, hnext⟩
  | none =>
    have hempty := popQueue_none hpop
    dsimp only
    cases hclosed : l.closed with
    | true => exact ⟨l, rfl, hempty, hl.closed hclosed, hl⟩
    | false =>
      have hcall := hc.recv l.state.world
      simp only [Bool.false_eq_true, if_false]
      cases hanswer : w.services.recv l.state.world with
      | mk answer world =>
        rw [hanswer] at hcall
        cases answer with
        | none =>
          exact ⟨_, rfl, hempty, hcall.2, hl.submits (s := (l.at world).state) hcall.1 rfl⟩
        | some task =>
          have hroom : l.queue.length < w.services.maxCapacity := by
            rw [hempty]
            exact hc.capacity_pos
          have hnext := hl.enqueue hcall hroom hclosed
          have hpaid := hl.paid
          have hsame : LoopState.enqueue ⟨l.state, [], l.arrival, false⟩ task world =
              l.enqueue task world := by
            unfold LoopState.enqueue
            rw [hempty, hclosed]
          show LoopInv w channel done (rounds + 1)
            (LoopState.enqueue ⟨l.state, [], l.arrival, false⟩ task world)
          rw [hsame]
          refine { hnext with paid := ?_ }
          show rounds + 1 ≤ done.length + (l.state.received ++ [task]).length
          rw [List.length_append, List.length_singleton]
          omega

/-! ### Every run -/

/-- What a run leaves where it is after `rounds` rounds in all. -/
def EndKeeps (w : Worker σ) (channel : TaskChannel σ) (done : List QueuedTask)
    (rounds : Nat) : Ending σ → Prop
  | .running l => LoopInv w channel done rounds l
  | .stopped error s => error.isRecoveryNeeded = false ∧
      ∃ l rounds, l.state = s ∧ LoopInv w channel done rounds l
  | .drained s => ∃ l rounds, l.state = s ∧ l.queue = [] ∧ channel.Exhausted s.world ∧
      LoopInv w channel done rounds l

/-- **A run keeps the invariant**, whatever is submitted meanwhile. -/
theorem loopRun_inv (hc : channel.Contract w) (fuel : Nat)
    (h : LoopInv w channel done rounds l) :
    (∀ taken ∈ (w.loopRun fuel l).takes, FirstTaken w taken) ∧
      EndKeeps w channel (done ++ (w.loopRun fuel l).processed) (rounds + fuel)
        (w.loopRun fuel l).ending := by
  induction fuel generalizing done rounds l with
  | zero =>
    show (∀ taken ∈ [], FirstTaken w taken) ∧ LoopInv w channel (done ++ []) rounds l
    rw [List.append_nil]
    exact ⟨by simp, h⟩
  | succ fuel ih =>
    have hround := round_keeps hc h
    rw [loopRun]
    cases hr : w.round l with
    | took taken after =>
      rw [hr] at hround
      obtain ⟨htakes, hend⟩ := ih hround.2
      refine ⟨?_, ?_⟩
      · intro t ht
        obtain rfl | ht := List.mem_cons.mp ht
        · exact hround.1
        · exact htakes t ht
      · rw [Nat.add_right_comm, List.append_assoc] at hend
        exact hend
    | waited after =>
      rw [hr] at hround
      have hnext := ih hround
      rw [Nat.add_right_comm] at hnext
      exact hnext
    | stopped taken error s =>
      rw [hr] at hround
      obtain ⟨htaken, hrec, l', hstate, hinv⟩ := hround
      exact ⟨by simpa using htaken, hrec, l', _, hstate, hinv⟩
    | drained s =>
      rw [hr] at hround
      obtain ⟨l', hstate, hempty, hend, hinv⟩ := hround
      show (∀ taken ∈ [], FirstTaken w taken) ∧ EndKeeps w channel (done ++ []) _ (.drained s)
      rw [List.append_nil]
      exact ⟨by simp, l', _, hstate, hempty, hend, hinv⟩

/-- The processed tasks and where a run is, said of what was submitted. -/
def RunServes (w : Worker σ) (channel : TaskChannel σ) (fuel : Nat)
    (processed : List QueuedTask) : Ending σ → Prop
  | .running l => l.queue.length ≤ w.services.maxCapacity ∧
      (processed ++ l.queue).Perm
        (arrivals ((channel.submitted l.state.world).take (channel.taken l.state.world))) ∧
      fuel ≤ 2 * (channel.submitted l.state.world).length ∧
      (fuel = 2 * (channel.submitted l.state.world).length →
        processed.Perm (arrivals (channel.submitted l.state.world)))
  | .stopped error s => error.isRecoveryNeeded = false ∧ ∃ queued : List QueuedTask,
      (processed ++ queued).Perm
        (arrivals ((channel.submitted s.world).take (channel.taken s.world)))
  | .drained s => channel.closed s.world = true ∧
      processed.Perm (arrivals (channel.submitted s.world))

omit [Externals] in
/-- When every round is paid for twice, nothing is left to process. -/
theorem LoopInv.all_processed {processed : List QueuedTask}
    (h : LoopInv w channel processed rounds l)
    (hfuel : rounds = 2 * (channel.submitted l.state.world).length) :
    processed.Perm (arrivals (channel.submitted l.state.world)) := by
  have hlen := h.perm.length_eq
  have hpaid := h.paid
  have hle := h.taken_le
  have hperm := h.perm
  simp only [arrivals, List.length_append, List.length_map, List.length_zipIdx] at hlen
  rw [h.received_length] at hlen hpaid
  have htaken : channel.taken l.state.world = (channel.submitted l.state.world).length := by
    omega
  have hqueue : l.queue = [] := List.eq_nil_of_length_eq_zero (by omega)
  rw [hqueue, List.append_nil, h.received, htaken, List.take_length] at hperm
  exact hperm

omit [Externals] in
theorem EndKeeps.serves {processed : List QueuedTask} {ending : Ending σ}
    (h : EndKeeps w channel processed rounds ending) :
    RunServes w channel rounds processed ending := by
  cases ending with
  | running l =>
    have h : LoopInv w channel processed rounds l := h
    have hlen := h.perm.length_eq
    have hpaid := h.paid
    have hle := h.taken_le
    simp only [arrivals, List.length_append, List.length_map, List.length_zipIdx] at hlen
    rw [h.received_length] at hlen hpaid
    refine ⟨h.bounded, ?_, by omega, h.all_processed⟩
    rw [← h.received]
    exact h.perm
  | stopped error s =>
    obtain ⟨hrec, l, n, rfl, hl⟩ := h
    refine ⟨hrec, l.queue, ?_⟩
    rw [← hl.received]
    exact hl.perm
  | drained s =>
    obtain ⟨l, n, rfl, hempty, ⟨hclosed, htaken⟩, hl⟩ := h
    have hperm := hl.perm
    rw [hempty, List.append_nil, hl.received, htaken, List.take_length] at hperm
    exact ⟨hclosed, hperm⟩

omit [Externals] in
theorem EndKeeps.fifo {processed : List QueuedTask} {ending : Ending σ}
    (h : EndKeeps w channel processed rounds ending) : processed.Pairwise Fifo := by
  cases ending with
  | running l => exact LoopInv.fifo h
  | stopped error s =>
    obtain ⟨-, l, n, -, hl⟩ := h
    exact hl.fifo
  | drained s =>
    obtain ⟨l, n, -, -, -, hl⟩ := h
    exact hl.fifo

omit [Externals] in
theorem loopInv_start (hc : channel.Contract w) {s : WorkerState σ} (hreceived : s.received = [])
    (htaken : channel.taken s.world = 0) : LoopInv w channel [] 0 ⟨s, [], 0, false⟩ where
  taken_le := by
    show channel.taken s.world ≤ _
    rw [htaken]
    exact Nat.zero_le _
  received := by
    show s.received = _
    rw [hreceived]
    show [] = (channel.submitted s.world).take (channel.taken s.world)
    rw [htaken, List.take_zero]
  arrival := by
    show 0 = s.received.length
    rw [hreceived, List.length_nil]
  perm := by
    show ([] : List QueuedTask).Perm (arrivals s.received)
    rw [hreceived]
    exact List.Perm.nil
  bounded := Nat.le_of_lt hc.capacity_pos
  fifo := List.Pairwise.nil
  ahead := by simp
  closed := by simp
  paid := Nat.zero_le _

/-- **The admission queue.**  A run of the loop, with anything submitted between its calls: each
task is the first of a queue no longer than the channel, those of one priority are processed in
the order of their submission, and every submitted task was processed once when the run
returned, and at most once when it stopped or is still running — which it is for at most two
rounds a task submitted. -/
theorem worker_queue (w : Worker σ) (channel : TaskChannel σ) (hc : channel.Contract w)
    (s : WorkerState σ) (hreceived : s.received = []) (htaken : channel.taken s.world = 0)
    (fuel : Nat) :
    w.run fuel s = (w.loopRun fuel ⟨s, [], 0, false⟩).ending.result ∧
      (∀ taken ∈ (w.loopRun fuel ⟨s, [], 0, false⟩).takes, FirstTaken w taken) ∧
      (w.loopRun fuel ⟨s, [], 0, false⟩).processed.Pairwise Fifo ∧
      RunServes w channel fuel (w.loopRun fuel ⟨s, [], 0, false⟩).processed
        (w.loopRun fuel ⟨s, [], 0, false⟩).ending := by
  obtain ⟨htakes, hend⟩ := loopRun_inv hc fuel (loopInv_start hc hreceived htaken)
  rw [List.nil_append, Nat.zero_add] at hend
  exact ⟨w.runLoop_eq fuel ⟨s, [], 0, false⟩, htakes, hend.fifo, hend.serves⟩

end

/-! ### A channel in memory -/

/-- A channel whose producers submitted everything before the worker starts. -/
structure Mailbox where
  submitted : List AgentTask
  taken : Nat
  taken_le : taken ≤ submitted.length

/-- The next task, if there is one. -/
def Mailbox.pull (m : Mailbox) : Option AgentTask × Mailbox :=
  if h : m.taken < m.submitted.length then
    (some (m.submitted.get ⟨m.taken, h⟩), { m with taken := m.taken + 1, taken_le := h })
  else (none, m)

def mailboxChannel : TaskChannel Mailbox where
  submitted := Mailbox.submitted
  taken := Mailbox.taken
  closed _ := true

/-- A worker without targets. -/
def mailboxWorker : Worker Mailbox where
  registry := []
  services :=
    { now := fun m => (DateTime.ofSecs 0, m), reasonFor := fun _ m => (none, m),
      activate := fun _ m => m, retire := fun _ m => m, emit := fun _ m => (.ok (), m),
      sleepUntil := fun _ m => ((), m), arm := fun m => (.stage, m), maxCapacity := 1,
      tryRecv := fun m => match m.pull with
        | (some task, m) => (.task task, m)
        | (none, m) => (.disconnected, m)
      recv := Mailbox.pull }
  dispatchers _ := none
  config := { limits := ⟨3, 8⟩, retry := ⟨1, .none⟩, cancellation := false, timer := false }
  lifecycle := none
  deliveryIds n := ⟨BitVec.ofNat 128 n⟩
  eventIds n := ⟨BitVec.ofNat 128 n⟩

theorem mailbox_submits (m : Mailbox) : mailboxChannel.Submits m m :=
  ⟨List.prefix_rfl, fun h => ⟨h, rfl⟩, rfl⟩

theorem mailbox_pull (m : Mailbox) : match m.pull.1 with
    | some task => mailboxChannel.Takes m task m.pull.2
    | none => mailboxChannel.Submits m m.pull.2 ∧ mailboxChannel.Exhausted m.pull.2 := by
  unfold Mailbox.pull
  by_cases h : m.taken < m.submitted.length
  · rw [dif_pos h]
    exact ⟨List.prefix_rfl, fun hc => ⟨hc, rfl⟩, List.getElem?_eq_getElem h, rfl⟩
  · rw [dif_neg h]
    have hle := m.taken_le
    exact ⟨mailbox_submits m, rfl, by show m.taken = m.submitted.length; omega⟩

theorem mailbox_contract : mailboxChannel.Contract mailboxWorker where
  capacity_pos := by decide
  calls :=
    { refl := mailbox_submits
      trans := by
        intro a b c hab hbc
        exact ⟨hab.submitted.trans hbc.submitted, fun h => ⟨rfl,
          (hbc.closed rfl).2.trans (hab.closed rfl).2⟩, hbc.taken.trans hab.taken⟩
      now := mailbox_submits, reasonFor := fun _ => mailbox_submits,
      activate := fun _ => mailbox_submits, retire := fun _ => mailbox_submits,
      emit := fun _ => mailbox_submits, sleepUntil := fun _ => mailbox_submits,
      arm := mailbox_submits, lifecycle := nofun, dispatcher := nofun }
  tryRecv := by
    intro m
    have hpull := mailbox_pull m
    cases hm : m.pull with
    | mk answer m' =>
      rw [hm] at hpull
      simp only [mailboxWorker, hm]
      cases answer with
      | some task => exact hpull
      | none => exact hpull
  recv := mailbox_pull

/-- Two tasks of one priority. -/
def mailboxStart : WorkerState Mailbox :=
  ⟨⟨[someTask, someTask], 0, by decide⟩, 0, 0, [], [], [], []⟩

theorem worker_queue_mailbox :
    mailboxWorker.run 4 mailboxStart =
        (mailboxWorker.loopRun 4 ⟨mailboxStart, [], 0, false⟩).ending.result ∧
      (mailboxWorker.loopRun 4 ⟨mailboxStart, [], 0, false⟩).processed.Pairwise Fifo ∧
      RunServes mailboxWorker mailboxChannel 4
        (mailboxWorker.loopRun 4 ⟨mailboxStart, [], 0, false⟩).processed
        (mailboxWorker.loopRun 4 ⟨mailboxStart, [], 0, false⟩).ending := by
  have h := worker_queue mailboxWorker mailboxChannel mailbox_contract mailboxStart rfl rfl 4
  exact ⟨h.1, h.2.2⟩

end Worker

end GuiguBridge
