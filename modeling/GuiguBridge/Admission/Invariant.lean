import GuiguBridge.Admission.Guard

/-!
# The invariant of the admission lock

Any number of processes work on the admission lock of one directory, and die at any point.

* `LockInv` — the invariant: files in quarantine were made by processes that are dead, and a
  process that holds a guard and lives made the file that is the lock;
* `LockRely` — what a process may rely on while the others move;
* `RenameMet`, `LockNeeded` — the condition on a run, and what a process must know;
* `serve_served`, `world_served` — every operation keeps the invariant and respects the others,
  **where a rename of the lock finds what its caller has looked at**; so does the world.
-/

namespace GuiguBridge.Admission

open Interleave

/-! ### Names -/

namespace LockDir

variable (d : LockDir)

theorem get_unlink (name other : LockName) :
    (d.unlink name).get other = if other = name then none else d.get other := by
  unfold get unlink
  dsimp only
  induction d.entries with
  | nil => simp
  | cons e entries ih =>
    rw [List.filter_cons, List.find?_cons]
    by_cases hname : e.1 = name
    · subst hname
      simp only [ne_eq, not_true_eq_false, decide_false, Bool.false_eq_true, if_false]
      rw [ih]
      by_cases hother : other = e.1
      · rw [if_pos hother, if_pos hother]
      · rw [if_neg hother, if_neg hother]
        simp [Ne.symm hother]
    · simp only [ne_eq, hname, not_false_eq_true, decide_true, if_true, List.find?_cons]
      by_cases hother : e.1 = other
      · have hne : other ≠ name := fun h => hname (hother.trans h)
        simp [hother, hne]
      · simpa [hother] using ih

theorem get_link (name other : LockName) (file : Nat) :
    (d.link name file).get other = if other = name then some file else d.get other := by
  have hrest := d.get_unlink name other
  unfold get link unlink at *
  dsimp only at *
  rw [List.find?_cons]
  by_cases hother : other = name
  · simp [hother]
  · rw [if_neg hother] at hrest ⊢
    simpa [Ne.symm hother] using hrest

@[simp] theorem unlink_files (name : LockName) : (d.unlink name).files = d.files := rfl
@[simp] theorem unlink_live (name : LockName) : (d.unlink name).live = d.live := rfl
@[simp] theorem link_files (name : LockName) (file : Nat) : (d.link name file).files = d.files :=
  rfl
@[simp] theorem link_live (name : LockName) (file : Nat) : (d.link name file).live = d.live := rfl

/-- The lock is a file that the process of this place made. -/
def Owns (place : Nat) : Prop :=
  ∃ file, d.get .lock = some file ∧ (d.files file).maker = some place

theorem owns_unique {d : LockDir} {i j : Nat} (hi : d.Owns i) (hj : d.Owns j) : i = j := by
  obtain ⟨file, hfile, hmaker⟩ := hi
  obtain ⟨file', hfile', hmaker'⟩ := hj
  rw [hfile] at hfile'
  cases hfile'
  rw [hmaker] at hmaker'
  exact Option.some.inj hmaker'

theorem lives_of_mem {d : LockDir} {place pid : Nat} (h : (place, pid) ∈ d.live) : d.Lives place :=
  List.mem_map.mpr ⟨_, h, rfl⟩

theorem Lives.exists {d : LockDir} {place : Nat} (h : d.Lives place) :
    ∃ pid, (place, pid) ∈ d.live := by
  obtain ⟨⟨p, pid⟩, hmem, rfl⟩ := List.mem_map.mp h
  exact ⟨pid, hmem⟩

/-- What a file of a dead process is taken for. -/
theorem takes_dead {d : LockDir} {place : Nat} {name : LockName}
    (h : ∀ file, d.get name = some file → d.MakerDead file ∨ (d.files file).maker = some place) :
    ∀ e ∈ d.takes place name, e.alive = false := by
  intro e he
  unfold takes at he
  cases hget : d.get name with
  | none =>
    rw [hget] at he
    cases he
  | some file =>
    rw [hget] at he
    rw [List.mem_singleton.mp he]
    rcases h file hget with hdead | hown
    · simp [hdead]
    · simp [hown]

/-- The file that is made has no bytes. -/
theorem make_new (place : Nat) (name : LockName) :
    (d.make place name).files d.next = ⟨[], true, 0o600, 1, some place⟩ :=
  Function.update_self _ _ _

theorem takes_none {d : LockDir} {place : Nat} {name : LockName} (h : d.get name = none) :
    d.takes place name = [] := by
  simp [takes, h]

end LockDir

/-! ### The invariant -/

section

variable [RecordCrates]

structure LockInv (d : LockDir) (log : List LockEvent) : Prop where
  born : ∀ e ∈ d.live, e.1 ∈ d.born
  pids : ∀ e ∈ d.live, ∀ e' ∈ d.live, e.1 = e'.1 ∨ e.2 = e'.2 → e = e'
  named : ∀ name file, d.get name = some file → file < d.next
  makers : ∀ file place, file < d.next → (d.files file).maker = some place → place ∈ d.born
  holders : ∀ place, d.holding place = true → place ∈ d.born
  quarantined : ∀ nonce file, d.get (.stale nonce) = some file → d.MakerDead file
  /-- What a living process has written is the beginning of a record with its own `pid`. -/
  written : ∀ file place pid, file < d.next → (d.files file).maker = some place →
    (place, pid) ∈ d.live →
    ∃ record : Record, record.pid = pid ∧ (d.files file).bytes <+: RecordCrates.toVec record
  held : ∀ place, d.holding place = true → d.Lives place → d.Owns place
  untouched : ∀ e ∈ log, e.alive = false

omit [RecordCrates] in
/-- What the process of place `j` may rely on. -/
structure LockRely (j : Nat) (d d' : LockDir) : Prop where
  live : ∀ pid, (j, pid) ∈ d'.live → (j, pid) ∈ d.live
  seen : d'.seen j = d.seen j
  holding : d'.holding j = d.holding j
  next : d.next ≤ d'.next
  maker : ∀ file, file < d.next → (d'.files file).maker = (d.files file).maker
  makerLive : ∀ file place pid, file < d.next → (d.files file).maker = some place →
    (place, pid) ∈ d'.live → (place, pid) ∈ d.live
  bytes : ∀ file, file < d.next → (d.files file).maker = some j →
    (d'.files file).bytes = (d.files file).bytes
  owned : ∀ file, file < d.next → d.get .lock = some file → (d.files file).maker = some j →
    d'.Lives j → d'.get .lock = some file

omit [RecordCrates] in
theorem LockRely.refl (j : Nat) (d : LockDir) : LockRely j d d where
  live _ h := h
  seen := rfl
  holding := rfl
  next := le_rfl
  maker _ _ := rfl
  makerLive _ _ _ _ _ h := h
  bytes _ _ _ := rfl
  owned _ _ h _ _ := h

omit [RecordCrates] in
theorem LockRely.lives {j : Nat} {d d' : LockDir} (h : LockRely j d d') (hj : d'.Lives j) :
    d.Lives j := by
  obtain ⟨pid, hmem⟩ := hj.exists
  exact LockDir.lives_of_mem (h.live pid hmem)

omit [RecordCrates] in
theorem LockRely.dead {j : Nat} {d d' : LockDir} (h : LockRely j d d') {file : Nat}
    (hfile : file < d.next) (hdead : d.MakerDead file) : d'.MakerDead file := by
  intro place hmaker hlives
  rw [h.maker file hfile] at hmaker
  obtain ⟨pid, hmem⟩ := hlives.exists
  exact hdead place hmaker (LockDir.lives_of_mem (h.makerLive file place pid hfile hmaker hmem))

omit [RecordCrates] in
theorem LockRely.trans {j : Nat} {d d' d'' : LockDir} (h : LockRely j d d')
    (h' : LockRely j d' d'') : LockRely j d d'' where
  live pid hpid := h.live pid (h'.live pid hpid)
  seen := h'.seen.trans h.seen
  holding := h'.holding.trans h.holding
  next := h.next.trans h'.next
  maker file hfile := (h'.maker file (hfile.trans_le h.next)).trans (h.maker file hfile)
  makerLive file place pid hfile hmaker hmem :=
    h.makerLive file place pid hfile hmaker
      (h'.makerLive file place pid (hfile.trans_le h.next) ((h.maker file hfile).trans hmaker) hmem)
  bytes file hfile hmaker :=
    (h'.bytes file (hfile.trans_le h.next) ((h.maker file hfile).trans hmaker)).trans
      (h.bytes file hfile hmaker)
  owned file hfile hget hmaker hj :=
    h'.owned file (hfile.trans_le h.next) (h.owned file hfile hget hmaker (h'.lives hj))
      ((h.maker file hfile).trans hmaker) hj

/-- A rename of the lock finds there the file that its caller opened last, and a rename onto the
lock finds nothing there. -/
def RenameMet (place : Nat) (op : LockOp) (d : LockDir) : Prop :=
  match op with
  | .rename source target =>
    (source = .lock → d.get .lock = none ∨ d.get .lock = d.seen place) ∧
      (target = .lock → d.get .lock = none)
  | _ => True

/-- What a living process must know when it asks for an operation. -/
def LockNeeded (place : Nat) (op : LockOp) (d : LockDir) : Prop :=
  match op with
  | .rename source target =>
    (source = .lock → target.isStale = true ∧
      ∀ file, d.seen place = some file → d.MakerDead file) ∧
      (source ≠ .lock → target = .lock)
  | .createNew name => name = .lock
  | .write file bytes => file < d.next ∧ (d.files file).maker = some place ∧
      ∀ pid, (place, pid) ∈ d.live →
        ∃ record : Record, record.pid = pid ∧
          (d.files file).bytes ++ bytes <+: RecordCrates.toVec record
  | .removeFile name => name = .lock → d.Owns place ∧ d.holding place = false
  | .returned => d.Owns place
  | _ => True

/-! ### What an operation does -/

section

variable {place : Nat} {d : LockDir} {log : List LockEvent}

theorem LockInv.append (hinv : LockInv d log) {events : List LockEvent}
    (h : ∀ e ∈ events, e.alive = false) : LockInv d (log ++ events) :=
  { hinv with
    untouched := by
      intro e he
      rcases List.mem_append.mp he with hold | hnew
      · exact hinv.untouched e hold
      · exact h e hnew }

/-- An operation that only notes what its caller has opened. -/
theorem LockInv.opened (hinv : LockInv d log) (file : Nat) :
    LockInv { d with seen := Function.update d.seen place (some file) } log :=
  ⟨hinv.born, hinv.pids, hinv.named, hinv.makers, hinv.holders, hinv.quarantined, hinv.written,
    hinv.held, hinv.untouched⟩

omit [RecordCrates] in
theorem LockRely.opened {j : Nat} (hj : j ≠ place) (file : Nat) :
    LockRely j d { d with seen := Function.update d.seen place (some file) } :=
  { LockRely.refl j d with seen := Function.update_of_ne hj _ _ }

/-- A rename of a file whose maker is dead. -/
theorem LockInv.renamed (hinv : LockInv d log) {source target : LockName} {file : Nat}
    (hsource : d.get source = some file) (hdead : d.MakerDead file)
    (hlock : (source = .lock ∧ target.isStale = true) ∨
      (target = .lock ∧ source.isStale = true ∧ d.get .lock = none)) :
    LockInv ((d.unlink source).link target file)
        (log ++ (d.takes place source ++ d.takes place target)) ∧
      ∀ j, j ≠ place → LockRely j d ((d.unlink source).link target file) := by
  have hget : ∀ name, ((d.unlink source).link target file).get name =
      if name = target then some file else if name = source then none else d.get name := by
    intro name
    rw [LockDir.get_link, LockDir.get_unlink]
  -- nobody who lives owns the lock that is renamed, or there is none
  have hnobody : ∀ i, d.Lives i → ¬ d.Owns i := by
    rintro i hi ⟨lock, hlockGet, hmaker⟩
    rcases hlock with ⟨rfl, -⟩ | ⟨-, -, hnone⟩
    · rw [hsource] at hlockGet
      cases hlockGet
      exact hdead i hmaker hi
    · rw [hnone] at hlockGet
      cases hlockGet
  have hentry : ∀ name other, ((d.unlink source).link target file).get name = some other →
      other = file ∨ d.get name = some other := by
    intro name other h
    rw [hget] at h
    split at h
    · exact .inl (Option.some.inj h).symm
    · split at h
      · cases h
      · exact .inr h
  have htaken : ∀ e ∈ d.takes place source ++ d.takes place target, e.alive = false := by
    intro e he
    rcases List.mem_append.mp he with hleft | hright
    · refine LockDir.takes_dead ?_ e hleft
      intro other hother
      rw [hsource] at hother
      cases hother
      exact .inl hdead
    · rcases hlock with ⟨-, htarget⟩ | ⟨rfl, -, hnone⟩
      · refine LockDir.takes_dead ?_ e hright
        intro other hother
        cases target with
        | lock => cases htarget
        | stale nonce => exact .inl (hinv.quarantined nonce other hother)
      · rw [LockDir.takes_none hnone] at hright
        cases hright
  refine ⟨LockInv.append (d := (d.unlink source).link target file)
    ⟨hinv.born, hinv.pids, ?_, hinv.makers, hinv.holders, ?_, hinv.written, ?_, hinv.untouched⟩
    htaken, ?_⟩
  · intro name other h
    rcases hentry name other h with rfl | hold
    · exact hinv.named source _ hsource
    · exact hinv.named name other hold
  · intro nonce other h
    rcases hentry _ other h with rfl | hold
    · exact hdead
    · exact hinv.quarantined nonce other hold
  · intro i hholding hi
    exact absurd (hinv.held i hholding hi) (hnobody i hi)
  · intro j _
    refine { LockRely.refl j d with owned := ?_ }
    intro lock _ hlockGet hmaker hi
    exact absurd ⟨lock, hlockGet, hmaker⟩ (hnobody j hi)

/-- A new lock file. -/
theorem LockInv.made (hinv : LockInv d log) (hlive : d.Lives place) (hfree : d.get .lock = none) :
    LockInv (d.make place .lock) log ∧ ∀ j, j ≠ place → LockRely j d (d.make place .lock) := by
  have hget : ∀ name, (d.make place .lock).get name =
      if name = .lock then some d.next else d.get name := fun name => d.get_link .lock name d.next
  have hold : ∀ file, file < d.next → (d.make place .lock).files file = d.files file := by
    intro file hfile
    exact Function.update_of_ne (Nat.ne_of_lt hfile) _ _
  have hnew : ((d.make place .lock).files d.next).maker = some place := by
    rw [LockDir.make_new]
  have hnobody : ∀ i, ¬ d.Owns i := by
    rintro i ⟨lock, hlock, -⟩
    rw [hfree] at hlock
    cases hlock
  have hcase : ∀ file, file < (d.make place .lock).next → file < d.next ∨ file = d.next := by
    intro file hfile
    have hfile : file < d.next + 1 := hfile
    omega
  refine ⟨⟨hinv.born, hinv.pids, ?_, ?_, hinv.holders, ?_, ?_, ?_, hinv.untouched⟩, ?_⟩
  · intro name file h
    rw [hget] at h
    show file < d.next + 1
    split at h
    · cases h
      omega
    · exact Nat.lt_succ_of_lt (hinv.named name file h)
  · intro file i hfile hmaker
    rcases hcase file hfile with hlt | rfl
    · rw [hold file hlt] at hmaker
      exact hinv.makers file i hlt hmaker
    · rw [hnew] at hmaker
      cases hmaker
      obtain ⟨pid, hmem⟩ := hlive.exists
      exact hinv.born _ hmem
  · intro nonce file h
    rw [hget, if_neg nofun] at h
    have hdead := hinv.quarantined nonce file h
    intro i hmaker
    rw [hold file (hinv.named _ _ h)] at hmaker
    exact hdead i hmaker
  · intro file i pid hfile hmaker hi
    rcases hcase file hfile with hlt | rfl
    · rw [hold file hlt] at hmaker ⊢
      exact hinv.written file i pid hlt hmaker hi
    · refine ⟨⟨1, "", pid, 1, ⟨"", 0, 0, 0, ""⟩, ⟨"", 0, 0, 0, ""⟩, ⟨"", 0, 0, 0, ""⟩, ""⟩, rfl, ?_⟩
      rw [LockDir.make_new]
      exact List.nil_prefix
  · intro i hholding hi
    exact absurd (hinv.held i hholding hi) (hnobody i)
  · intro j _
    refine ⟨fun _ h => h, rfl, rfl, Nat.le_succ _, ?_, fun _ _ _ _ _ h => h, ?_, ?_⟩
    · intro file hfile
      rw [hold file hfile]
    · intro file hfile _
      rw [hold file hfile]
    · intro file _ hfileGet hmaker _
      exact absurd ⟨file, hfileGet, hmaker⟩ (hnobody j)

omit [RecordCrates] in
theorem LockDir.append_maker (file other : Nat) (bytes : List Nat) :
    ((d.append file bytes).files other).maker = (d.files other).maker := by
  show (Function.update d.files file _ other).maker = _
  by_cases h : other = file
  · rw [h, Function.update_self]
  · rw [Function.update_of_ne h]

/-- More bytes in a file of the process's own. -/
theorem LockInv.appended (hinv : LockInv d log) {file : Nat} {bytes : List Nat}
    (hmaker : (d.files file).maker = some place)
    (hbytes : ∀ pid, (place, pid) ∈ d.live → ∃ record : Record, record.pid = pid ∧
      (d.files file).bytes ++ bytes <+: RecordCrates.toVec record) :
    LockInv (d.append file bytes) log ∧ ∀ j, j ≠ place → LockRely j d (d.append file bytes) := by
  have hdead : ∀ other, d.MakerDead other → (d.append file bytes).MakerDead other := by
    intro other h i hi
    rw [LockDir.append_maker] at hi
    exact h i hi
  refine ⟨⟨hinv.born, hinv.pids, hinv.named, ?_, hinv.holders, ?_, ?_, ?_, hinv.untouched⟩, ?_⟩
  · intro other i hlt hi
    rw [LockDir.append_maker] at hi
    exact hinv.makers other i hlt hi
  · intro nonce other h
    exact hdead other (hinv.quarantined nonce other h)
  · intro other i pid hlt hi hlive
    rw [LockDir.append_maker] at hi
    show ∃ record : Record, record.pid = pid ∧
      (Function.update d.files file _ other).bytes <+: RecordCrates.toVec record
    by_cases h : other = file
    · subst h
      rw [hmaker] at hi
      cases hi
      rw [Function.update_self]
      exact hbytes pid hlive
    · rw [Function.update_of_ne h]
      exact hinv.written other i pid hlt hi hlive
  · intro i hholding hi
    obtain ⟨lock, hlock, hown⟩ := hinv.held i hholding hi
    exact ⟨lock, hlock, (d.append_maker file lock bytes).trans hown⟩
  · intro j hj
    refine ⟨fun _ h => h, rfl, rfl, le_rfl, fun other _ => d.append_maker file other bytes,
      fun _ _ _ _ _ h => h, ?_, fun _ _ h _ _ => h⟩
    intro other _ hother
    have hne : other ≠ file := by
      rintro rfl
      rw [hmaker] at hother
      exact hj (Option.some.inj hother).symm
    show (Function.update d.files file _ other).bytes = _
    rw [Function.update_of_ne hne]

/-- A name is removed: the lock by its owner, or a quarantine. -/
theorem LockInv.removed (hinv : LockInv d log) {name : LockName}
    (hname : name = .lock → d.Owns place ∧ d.holding place = false) :
    LockInv (d.unlink name) (log ++ d.takes place name) ∧
      ∀ j, j ≠ place → LockRely j d (d.unlink name) := by
  have hentry : ∀ other file, (d.unlink name).get other = some file →
      other ≠ name ∧ d.get other = some file := by
    intro other file h
    rw [LockDir.get_unlink] at h
    split at h
    · cases h
    · rename_i hne
      exact ⟨hne, h⟩
  have hkept : ∀ j, j ≠ place → d.Owns j → name ≠ .lock := by
    rintro j hj hown rfl
    exact hj (LockDir.owns_unique hown (hname rfl).1)
  have hstay : ∀ file, name ≠ .lock → d.get .lock = some file →
      (d.unlink name).get .lock = some file := by
    intro file hne h
    rw [LockDir.get_unlink, if_neg (Ne.symm hne)]
    exact h
  have htaken : ∀ e ∈ d.takes place name, e.alive = false := by
    refine LockDir.takes_dead ?_
    intro file hfile
    cases name with
    | lock =>
      obtain ⟨lock, hlock, hown⟩ := (hname rfl).1
      rw [hlock] at hfile
      cases hfile
      exact .inr hown
    | stale nonce => exact .inl (hinv.quarantined nonce file hfile)
  refine ⟨LockInv.append (d := d.unlink name)
    ⟨hinv.born, hinv.pids, ?_, hinv.makers, hinv.holders, ?_, hinv.written, ?_, hinv.untouched⟩
    htaken, ?_⟩
  · intro other file h
    exact hinv.named other file (hentry other file h).2
  · intro nonce file h
    exact hinv.quarantined nonce file (hentry _ file h).2
  · intro i hholding hi
    have hheld : d.holding i = true := hholding
    have hown := hinv.held i hheld hi
    have hne : name ≠ .lock := by
      rintro rfl
      obtain ⟨hplace, hfree⟩ := hname rfl
      rw [LockDir.owns_unique hown hplace, hfree] at hheld
      cases hheld
    obtain ⟨lock, hlock, hmaker⟩ := hown
    exact ⟨lock, hstay lock hne hlock, hmaker⟩
  · intro j hj
    refine { LockRely.refl j d with owned := ?_ }
    intro file _ hget hmaker _
    exact hstay file (hkept j hj ⟨file, hget, hmaker⟩) hget

/-- A guard is returned, or its drop begins. -/
theorem LockInv.marked (hinv : LockInv d log) (hlive : d.Lives place) {holding : Bool}
    (hown : holding = true → d.Owns place) :
    LockInv { d with holding := Function.update d.holding place holding } log ∧
      ∀ j, j ≠ place →
        LockRely j d { d with holding := Function.update d.holding place holding } := by
  refine ⟨⟨hinv.born, hinv.pids, hinv.named, hinv.makers, ?_, hinv.quarantined, hinv.written, ?_,
    hinv.untouched⟩, ?_⟩
  · intro i hi
    by_cases h : i = place
    · obtain ⟨pid, hmem⟩ := hlive.exists
      exact h ▸ hinv.born _ hmem
    · have hi : Function.update d.holding place holding i = true := hi
      rw [Function.update_of_ne h] at hi
      exact hinv.holders i hi
  · intro i hi hilive
    have hi : Function.update d.holding place holding i = true := hi
    by_cases h : i = place
    · subst h
      rw [Function.update_self] at hi
      exact hown hi
    · rw [Function.update_of_ne h] at hi
      exact hinv.held i hi hilive
  · intro j hj
    exact { LockRely.refl j d with holding := Function.update_of_ne hj _ _ }

/-- **Every operation of a living process**, where the renames are met. -/
theorem perform_served (hinv : LockInv d log) (hlive : d.Lives place) (input : OpInput)
    (op : LockOp) (hmet : RenameMet place op d) (hneeded : LockNeeded place op d) :
    LockInv (perform place input d op).2.1 (log ++ (perform place input d op).2.2) ∧
      ∀ j, j ≠ place → LockRely j d (perform place input d op).2.1 := by
  have hquiet : LockInv d (log ++ []) ∧ ∀ j, j ≠ place → LockRely j d d := by
    rw [List.append_nil]
    exact ⟨hinv, fun j _ => .refl j d⟩
  cases op with
  | spawn pid => exact hquiet
  | marker name => exact hquiet
  | identity path => exact hquiet
  | startTime pid => exact hquiet
  | readDir => exact hquiet
  | pathExists name => exact hquiet
  | metadata file => exact hquiet
  | readToEnd file => exact hquiet
  | fsyncParent => exact hquiet
  | syncAll file => exact hquiet
  | openRead name =>
    simp only [perform]
    cases d.get name with
    | none => exact hquiet
    | some file =>
      rw [List.append_nil]
      exact ⟨hinv.opened file, fun j hj => .opened hj file⟩
  | symlinkMetadata name =>
    simp only [perform]
    cases d.get name <;> exact hquiet
  | rename source target =>
    simp only [perform]
    cases hsource : d.get source with
    | none => exact hquiet
    | some file =>
      obtain ⟨hneed, hback⟩ := hneeded
      cases source with
      | lock =>
        obtain ⟨hstale, hdead⟩ := hneed rfl
        rcases hmet.1 rfl with hnone | hseen
        · rw [hsource] at hnone
          cases hnone
        · exact hinv.renamed hsource (hdead file (hseen.symm.trans hsource)) (.inl ⟨rfl, hstale⟩)
      | stale nonce =>
        have htarget := hback nofun
        exact hinv.renamed hsource (hinv.quarantined nonce file hsource)
          (.inr ⟨htarget, rfl, hmet.2 htarget⟩)
  | createNew name =>
    obtain rfl : name = .lock := hneeded
    simp only [perform]
    split
    · exact hquiet
    · rename_i hfree
      rw [List.append_nil]
      exact hinv.made hlive (by simpa using hfree)
  | write file bytes =>
    obtain ⟨-, hmaker, hbytes⟩ := hneeded
    simp only [perform]
    rw [List.append_nil]
    refine hinv.appended hmaker ?_
    intro pid hpid
    obtain ⟨record, hrecord, hpre⟩ := hbytes pid hpid
    refine ⟨record, hrecord, List.IsPrefix.trans ?_ hpre⟩
    exact (List.prefix_append_right_inj _).mpr (List.take_prefix _ _)
  | removeFile name =>
    simp only [perform]
    split
    · exact hinv.removed hneeded
    · exact hquiet
  | returned =>
    simp only [perform]
    rw [List.append_nil]
    exact hinv.marked hlive fun _ => hneeded
  | dropping =>
    simp only [perform]
    rw [List.append_nil]
    exact hinv.marked hlive nofun

/-- A process begins. -/
theorem LockInv.spawned (hinv : LockInv d log) {pid : Nat} (hnew : place ∉ d.born)
    (hpid : pid ∉ d.live.map Prod.snd) :
    LockInv { d with live := (place, pid) :: d.live, born := place :: d.born } log ∧
      ∀ j, j ≠ place →
        LockRely j d { d with live := (place, pid) :: d.live, born := place :: d.born } := by
  have hold : ∀ i p, i ∈ d.born → (i, p) ∈ (place, pid) :: d.live → (i, p) ∈ d.live := by
    intro i p hi hmem
    rcases List.mem_cons.mp hmem with heq | hmem
    · cases heq
      exact absurd hi hnew
    · exact hmem
  have hlives : ∀ i, i ∈ d.born →
      ({ d with live := (place, pid) :: d.live, born := place :: d.born } : LockDir).Lives i →
      d.Lives i := by
    intro i hi hlive
    obtain ⟨p, hmem⟩ := hlive.exists
    exact LockDir.lives_of_mem (hold i p hi hmem)
  have hfresh : ∀ e ∈ d.live, ¬ (e.1 = place ∨ e.2 = pid) := by
    rintro e he (hplace | heq)
    · exact hnew (hplace ▸ hinv.born e he)
    · exact hpid (List.mem_map.mpr ⟨e, he, heq⟩)
  refine ⟨⟨?_, ?_, hinv.named, ?_, ?_, ?_, ?_, ?_, hinv.untouched⟩, ?_⟩
  · intro e he
    rcases List.mem_cons.mp he with rfl | he
    · exact List.mem_cons_self
    · exact List.mem_cons_of_mem _ (hinv.born e he)
  · intro e he e' he' heq
    rcases List.mem_cons.mp he with rfl | he <;> rcases List.mem_cons.mp he' with rfl | he'
    · rfl
    · exact absurd (heq.imp Eq.symm Eq.symm) (hfresh e' he')
    · exact absurd heq (hfresh e he)
    · exact hinv.pids e he e' he' heq
  · intro file i hfile hmaker
    exact List.mem_cons_of_mem _ (hinv.makers file i hfile hmaker)
  · intro i hi
    exact List.mem_cons_of_mem _ (hinv.holders i hi)
  · intro nonce file hget i hmaker hi
    have hborn := hinv.makers file i (hinv.named _ _ hget) hmaker
    exact hinv.quarantined nonce file hget i hmaker (hlives i hborn hi)
  · intro file i p hfile hmaker hmem
    exact hinv.written file i p hfile hmaker (hold i p (hinv.makers file i hfile hmaker) hmem)
  · intro i hi hlive
    exact hinv.held i hi (hlives i (hinv.holders i hi) hlive)
  · intro j hj
    refine { LockRely.refl j d with live := ?_, makerLive := ?_, owned := fun _ _ h _ _ => h }
    · intro p hmem
      rcases List.mem_cons.mp hmem with heq | hmem
      · cases heq
        exact absurd rfl hj
      · exact hmem
    · intro file i p hfile hmaker hmem
      exact hold i p (hinv.makers file i hfile hmaker) hmem

omit [RecordCrates] in
theorem serve_eq {op : LockOp} (hop : ∀ pid, op ≠ .spawn pid) (input : OpInput) :
    serve place op input d =
      if ¬ d.Lives place then (op.failed "dead", d, [])
      else
        match op.failure input with
        | some message => (op.failed message, d, [])
        | none => perform place input d op := by
  cases op with
  | spawn pid => exact absurd rfl (hop pid)
  | _ => rfl

omit [RecordCrates] in
/-- An operation fails and leaves everything as it is, or the process lives and it is done. -/
theorem serve_cases (place : Nat) (d : LockDir) {op : LockOp} (hop : ∀ pid, op ≠ .spawn pid) (input : OpInput) :
    (∃ message, (d.Lives place → (op.failure input).isSome) ∧
      serve place op input d = (op.failed message, d, [])) ∨
      (d.Lives place ∧ serve place op input d = perform place input d op) := by
  rw [serve_eq hop]
  by_cases hlive : d.Lives place
  · rw [if_neg (not_not_intro hlive)]
    cases op.failure input with
    | some message => exact .inl ⟨message, fun _ => rfl, rfl⟩
    | none => exact .inr ⟨hlive, rfl⟩
  · rw [if_pos hlive]
    exact .inl ⟨"dead", fun h => absurd h hlive, rfl⟩

/-- **Every operation**, where the renames of living processes are met. -/
theorem serve_served (hinv : LockInv d log) (op : LockOp) (input : OpInput)
    (hmet : d.Lives place → RenameMet place op d)
    (hneeded : d.Lives place → LockNeeded place op d) :
    LockInv (serve place op input d).2.1 (log ++ (serve place op input d).2.2) ∧
      ∀ j, j ≠ place → LockRely j d (serve place op input d).2.1 := by
  have hquiet : LockInv d (log ++ []) ∧ ∀ j, j ≠ place → LockRely j d d := by
    rw [List.append_nil]
    exact ⟨hinv, fun j _ => .refl j d⟩
  by_cases hspawn : ∃ pid, op = .spawn pid
  · obtain ⟨pid, rfl⟩ := hspawn
    simp only [serve]
    split
    · exact hquiet
    · rename_i hnew
      obtain ⟨hplace, hpid⟩ := not_or.mp hnew
      rw [List.append_nil]
      exact hinv.spawned hplace hpid
  · rcases serve_cases place d (not_exists.mp hspawn) input with ⟨message, -, heq⟩ | ⟨hlive, heq⟩
    · rw [heq]
      exact hquiet
    · rw [heq]
      exact perform_served hinv hlive input op (hmet hlive) (hneeded hlive)

/-- A process dies, or the files beside the lock change. -/
theorem world_served (hinv : LockInv d log) (e : LockWorld) :
    LockInv (e.apply d) log ∧ ∀ j, LockRely j d (e.apply d) := by
  cases e with
  | changes markers identities =>
    exact ⟨⟨hinv.born, hinv.pids, hinv.named, hinv.makers, hinv.holders, hinv.quarantined,
      hinv.written, hinv.held, hinv.untouched⟩, fun j => { LockRely.refl j d with }⟩
  | dies place =>
    have hmem : ∀ e, e ∈ (LockWorld.apply (.dies place) d).live → e ∈ d.live := by
      intro e he
      exact List.mem_of_mem_filter he
    have hlives : ∀ i, (LockWorld.apply (.dies place) d).Lives i → d.Lives i := by
      intro i hi
      obtain ⟨pid, hpid⟩ := hi.exists
      exact LockDir.lives_of_mem (hmem _ hpid)
    refine ⟨⟨?_, ?_, hinv.named, hinv.makers, hinv.holders, ?_, ?_, ?_, hinv.untouched⟩, ?_⟩
    · intro e he
      exact hinv.born e (hmem e he)
    · intro e he e' he' heq
      exact hinv.pids e (hmem e he) e' (hmem e' he') heq
    · intro nonce file hget i hmaker hi
      exact hinv.quarantined nonce file hget i hmaker (hlives i hi)
    · intro file i pid hfile hmaker hpid
      exact hinv.written file i pid hfile hmaker (hmem _ hpid)
    · intro i hi hlive
      exact hinv.held i hi (hlives i hlive)
    · intro j
      exact { LockRely.refl j d with
        live := fun pid h => hmem _ h,
        makerLive := fun _ _ _ _ _ h => hmem _ h,
        owned := fun _ _ h _ _ => h }

/-- A directory before the first process: what lies there was made by nobody who lives. -/
structure LockDir.Fresh (d : LockDir) : Prop where
  live : d.live = []
  born : d.born = []
  holding : ∀ place, d.holding place = false
  named : ∀ name file, d.get name = some file → file < d.next
  makers : ∀ file, file < d.next → (d.files file).maker = none

theorem LockInv.fresh (h : d.Fresh) : LockInv d [] where
  born e he := by
    rw [h.live] at he
    cases he
  pids e he := by
    rw [h.live] at he
    cases he
  named := h.named
  makers file place hfile hmaker := by
    rw [h.makers file hfile] at hmaker
    cases hmaker
  holders place hplace := by
    rw [h.holding] at hplace
    cases hplace
  quarantined nonce file hget place hmaker := by
    rw [h.makers file (h.named _ _ hget)] at hmaker
    cases hmaker
  written file place pid hfile hmaker := by
    rw [h.makers file hfile] at hmaker
    cases hmaker
  held place hplace := by
    rw [h.holding] at hplace
    cases hplace
  untouched e he := by cases he

end

end

end GuiguBridge.Admission
