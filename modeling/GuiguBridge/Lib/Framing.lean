import Mathlib.Tactic.Common

/-!
# Readers that are fed in chunks

A reader holds symbols that make no complete frame yet.  Chunks are pushed to it as they
arrive, and after every chunk it is asked for frames until it has none, or refuses.

* `Reader` — `push` and `next`, with the laws that make a frame, a refusal and a wait stable
  under symbols that arrive later;
* `drain` — the frames that a state gives, and the state or the refusal behind them;
* `read` — a whole run over a list of chunks;
* `read_flatten` — **a run gives what the concatenation of its chunks gives**, wherever the
  cuts are;
* `drain_written` — what a writer made frame by frame is read back;
* `visited`, `visited_size_le` — every state that a run meets holds at most what a waiting
  state may hold, and one chunk.
-/

namespace Framing

/-- A reader of frames of type `φ` from symbols of type `ι`, with refusals of type `ε`. -/
structure Reader (σ ι φ ε : Type) where
  push : List ι → σ → σ
  next : σ → Except ε (Option φ) × σ
  /-- How many symbols a state holds. -/
  size : σ → Nat
  push_nil (s : σ) : push [] s = s
  push_push (c d : List ι) (s : σ) : push d (push c s) = push (c ++ d) s
  size_push (c : List ι) (s : σ) : size (push c s) = size s + c.length
  size_next (s : σ) : size (next s).2 ≤ size s
  size_frame (s s' : σ) (f : φ) : next s = (.ok (some f), s') → size s' < size s
  /-- A frame stays the same frame, and what arrived later stands behind it. -/
  frame_push (c : List ι) (s s' : σ) (f : φ) :
    next s = (.ok (some f), s') → next (push c s) = (.ok (some f), push c s')
  /-- A refusal stays the same refusal. -/
  error_push (c : List ι) (s s' : σ) (e : ε) :
    next s = (.error e, s') → (next (push c s)).1 = .error e
  /-- What a waiting state has dropped is dropped from the longer input as well. -/
  wait_push (c : List ι) (s s' : σ) :
    next s = (.ok none, s') → next (push c s) = next (push c s')

namespace Reader

variable {σ ι φ ε : Type} (R : Reader σ ι φ ε)

/-! ### Draining -/

/-- The frames of a state, and the state that waits behind them or the refusal. -/
def drain (s : σ) : List φ × Except ε σ :=
  match _h : R.next s with
  | (.ok (some f), s') => (f :: (drain s').1, (drain s').2)
  | (.ok none, s') => ([], .ok s')
  | (.error e, _) => ([], .error e)
  termination_by R.size s
  decreasing_by all_goals exact R.size_frame s s' f _h

/-- The states that draining meets. -/
def drained (s : σ) : List σ :=
  match _h : R.next s with
  | (.ok (some _), s') => s' :: drained s'
  | (.ok none, s') => [s']
  | (.error _, s') => [s']
  termination_by R.size s
  decreasing_by exact R.size_frame s s' _ _h

variable {R}

theorem drain_frame {s s' : σ} {f : φ} (h : R.next s = (.ok (some f), s')) :
    R.drain s = (f :: (R.drain s').1, (R.drain s').2) := by
  rw [drain]
  split
  · next h' => rw [h] at h'; cases h'; rfl
  · next h' => rw [h] at h'; cases h'
  · next h' => rw [h] at h'; cases h'

theorem drain_wait {s s' : σ} (h : R.next s = (.ok none, s')) : R.drain s = ([], .ok s') := by
  rw [drain]
  split
  · next h' => rw [h] at h'; cases h'
  · next h' => rw [h] at h'; cases h'; rfl
  · next h' => rw [h] at h'; cases h'

theorem drain_error {s : σ} {e : ε} (h : (R.next s).1 = .error e) :
    R.drain s = ([], .error e) := by
  rw [drain]
  split
  · next h' => rw [h'] at h; cases h
  · next h' => rw [h'] at h; cases h
  · next h' => rw [h'] at h; cases h; rfl

/-- Draining looks at a state through `next` only. -/
theorem drain_congr {s t : σ} (h : R.next s = R.next t) : R.drain s = R.drain t := by
  match ht : R.next t with
  | (.ok (some f), s') => rw [drain_frame (h.trans ht), drain_frame ht]
  | (.ok none, s') => rw [drain_wait (h.trans ht), drain_wait ht]
  | (.error e, s') => rw [drain_error (by rw [h, ht]), drain_error (by rw [ht])]

/-- A state that draining leaves is a waiting one; what `next` preserves held before it. -/
theorem drain_waits {P : σ → Prop} (hP : ∀ s, P s → P (R.next s).2) {s s' : σ}
    {frames : List φ} (hs : P s) (h : R.drain s = (frames, .ok s')) :
    ∃ t, P t ∧ R.next t = (.ok none, s') := by
  induction hn : R.size s using Nat.strongRecOn generalizing s frames with
  | ind n ih =>
    match hnext : R.next s with
    | (.ok (some f), t) =>
      have ht : P t := by
        have := hP s hs
        rwa [hnext] at this
      rw [drain_frame hnext] at h
      cases hd : R.drain t with
      | mk gs r =>
        rw [hd] at h
        cases h
        exact ih _ (hn ▸ R.size_frame s t f hnext) ht hd rfl
    | (.ok none, t) =>
      rw [drain_wait hnext] at h
      cases h
      exact ⟨s, hs, hnext⟩
    | (.error e, t) =>
      rw [drain_error (by rw [hnext])] at h
      cases h

/-- Frames, then what the rest gives. -/
def andThen (frames : List φ) (rest : List φ × Except ε σ) : List φ × Except ε σ :=
  (frames ++ rest.1, rest.2)

/-- **What arrives later is drained behind what was there**: a refusal before it stands. -/
theorem drain_push (c : List ι) (s : σ) :
    R.drain (R.push c s) =
      match (R.drain s).2 with
      | .ok s' => andThen (R.drain s).1 (R.drain (R.push c s'))
      | .error e => ((R.drain s).1, .error e) := by
  induction hn : R.size s using Nat.strongRecOn generalizing s with
  | ind n ih =>
    match hnext : R.next s with
    | (.ok (some f), s') =>
      rw [drain_frame hnext, drain_frame (R.frame_push c s s' f hnext),
        ih _ (hn ▸ R.size_frame s s' f hnext) s' rfl]
      cases (R.drain s').2 with
      | ok t => rfl
      | error e => rfl
    | (.ok none, s') =>
      rw [drain_wait hnext]
      exact drain_congr (R.wait_push c s s' hnext)
    | (.error e, s') =>
      have herror : (R.next s).1 = .error e := by rw [hnext]
      rw [drain_error herror, drain_error (R.error_push c s s' e hnext)]

/-! ### Runs -/

variable (R)

/-- A run: every chunk is pushed, and frames are taken until none is left or one is refused. -/
def read (s : σ) : List (List ι) → List φ × Except ε σ
  | [] => ([], .ok s)
  | c :: chunks =>
    match R.drain (R.push c s) with
    | (frames, .ok s') => andThen frames (read s' chunks)
    | (frames, .error e) => (frames, .error e)

/-- The states that a run meets, each with the chunk that was pushed last. -/
def visited (s : σ) : List (List ι) → List (List ι × σ)
  | [] => []
  | c :: chunks =>
    (R.push c s :: R.drained (R.push c s)).map (fun t => (c, t)) ++
      match R.drain (R.push c s) with
      | (_, .ok s') => visited s' chunks
      | (_, .error _) => []

variable {R}

/-- A run from a state that has nothing to give is one draining of everything that arrives. -/
theorem read_eq_drain {s : σ} (hs : R.drain s = ([], .ok s)) (chunks : List (List ι)) :
    R.read s chunks = R.drain (R.push chunks.flatten s) := by
  induction chunks generalizing s with
  | nil => rw [List.flatten_nil, R.push_nil, hs]; rfl
  | cons c chunks ih =>
    rw [List.flatten_cons, ← R.push_push, drain_push, read]
    match hd : R.drain (R.push c s) with
    | (frames, .ok s') =>
      obtain ⟨t, -, ht⟩ := drain_waits (P := fun _ => True) (fun _ h => h) trivial hd
      have hs' : R.drain s' = ([], .ok s') := by
        have hnext := R.wait_push [] t s' ht
        rw [R.push_nil, R.push_nil] at hnext
        rw [← drain_congr hnext, drain_wait ht]
      show andThen frames (R.read s' chunks) = andThen frames (R.drain (R.push _ s'))
      rw [ih hs']
    | (frames, .error e) => rfl

/-- **A run gives what the concatenation of its chunks gives.** -/
theorem read_flatten {s : σ} (hs : R.drain s = ([], .ok s)) {chunks chunks' : List (List ι)}
    (h : chunks.flatten = chunks'.flatten) : R.read s chunks = R.read s chunks' := by
  rw [read_eq_drain hs, read_eq_drain hs, h]

/-! ### Frames that a writer made -/

/-- **What a writer made is read back**, when one frame in front is read as that frame. -/
theorem drain_written (write : φ → List ι) {s : σ} (hs : R.drain s = ([], .ok s))
    (frames : List φ) (hwrite : ∀ f ∈ frames, ∀ rest : List ι,
      R.next (R.push (write f ++ rest) s) = (.ok (some f), R.push rest s)) :
    R.drain (R.push (frames.flatMap write) s) = (frames, .ok s) := by
  induction frames with
  | nil => rw [List.flatMap_nil, R.push_nil, hs]
  | cons f frames ih =>
    have hfirst := hwrite f List.mem_cons_self (frames.flatMap write)
    rw [List.flatMap_cons, drain_frame hfirst,
      ih fun g hg => hwrite g (List.mem_cons_of_mem f hg)]

/-! ### What a run holds -/

theorem drained_size_le (s : σ) : ∀ t ∈ R.drained s, R.size t ≤ R.size s := by
  induction hn : R.size s using Nat.strongRecOn generalizing s with
  | ind n ih =>
    subst hn
    have hle : ∀ s' x, R.next s = (x, s') → R.size s' ≤ R.size s := by
      intro s' x h
      have := R.size_next s
      rwa [h] at this
    intro t ht
    rw [drained] at ht
    split at ht
    · next f s' h =>
      obtain rfl | ht := List.mem_cons.mp ht
      · exact hle _ _ h
      · exact Nat.le_trans (ih _ (R.size_frame s s' f h) s' rfl t ht) (hle _ _ h)
    · next s' h =>
      obtain rfl := List.mem_singleton.mp ht
      exact hle _ _ h
    · next e s' h =>
      obtain rfl := List.mem_singleton.mp ht
      exact hle _ _ h

/-- **A run never holds more than a waiting state may hold and one chunk.** -/
theorem visited_size_le (limit : σ → Nat) (hpush : ∀ c s, limit (R.push c s) = limit s)
    (hnext : ∀ s, limit (R.next s).2 = limit s)
    (hwait : ∀ s s', R.next s = (.ok none, s') → R.size s' ≤ limit s) {s : σ}
    (hs : R.size s ≤ limit s) (chunks : List (List ι)) :
    ∀ p ∈ R.visited s chunks, R.size p.2 ≤ limit s + p.1.length := by
  induction chunks generalizing s with
  | nil => exact fun p hp => absurd hp List.not_mem_nil
  | cons c chunks ih =>
    have hle : R.size (R.push c s) ≤ limit s + c.length := by
      have := R.size_push c s
      omega
    intro p hp
    obtain hp | hp := List.mem_append.mp hp
    · obtain ⟨t, ht, rfl⟩ := List.mem_map.mp hp
      obtain rfl | ht := List.mem_cons.mp ht
      · exact hle
      · exact Nat.le_trans (drained_size_le _ t ht) hle
    · split at hp
      · next frames s' hd =>
        obtain ⟨t, ht, ht'⟩ := drain_waits (P := fun t => limit t = limit s)
          (fun t h => (hnext t).trans h) (hpush c s) hd
        have hs' : limit s' = limit s := by
          have := hnext t
          rw [ht'] at this
          exact this.trans ht
        rw [← hs'] at ht
        have := ih (ht ▸ hwait t s' ht') p hp
        rwa [hs'] at this
      · exact absurd hp List.not_mem_nil

end Reader

end Framing
