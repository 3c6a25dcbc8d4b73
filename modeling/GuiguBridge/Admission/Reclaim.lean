import GuiguBridge.Admission.Exclusion

/-!
# The lock of a dead owner

What one `acquire` does when nobody else moves, on whatever directory the dead have left.

* `runAlone` — code of the guard, run alone and without failures;
* `LockDir.recordAt`, `Record.Reclaimable` — the record behind a name, and whether it is stale;
* `LockDir.Admits` — the directories in which an `acquire` succeeds;
* `acquire_after_deaths` — **it succeeds there and nowhere else**, and leaves one lock and no
  quarantine; elsewhere it leaves the files as they are.
-/

namespace GuiguBridge.Admission

open Interleave

/-- A part of the guard's code, run alone. -/
def runAlone {α : Type} (place : Nat) (input : OpInput) (code : LockCode α) (d : LockDir) :
    Except IoError α × LockDir :=
  lockServer.alone place input code.run d

section

variable {α β : Type} {place : Nat} {input : OpInput} {d : LockDir}

theorem runAlone_bind (code : LockCode β) (f : β → LockCode α) :
    runAlone place input (code >>= f) d =
      match runAlone place input code d with
      | (.ok b, d') => runAlone place input (f b) d'
      | (.error e, d') => (.error e, d') := by
  refine (alone_bind (S := lockServer) code.run _ d).trans ?_
  unfold runAlone
  rcases lockServer.alone place input code.run d with ⟨_ | _, d'⟩ <;> rfl

theorem runAlone_bind_ok {code : LockCode β} {f : β → LockCode α} {b : β} {d' : LockDir}
    (h : runAlone place input code d = (.ok b, d')) :
    runAlone place input (code >>= f) d = runAlone place input (f b) d' := by
  rw [runAlone_bind, h]

theorem runAlone_bind_error {code : LockCode β} {f : β → LockCode α} {e : IoError} {d' : LockDir}
    (h : runAlone place input code d = (.error e, d')) :
    runAlone place input (code >>= f) d = (.error e, d') := by
  rw [runAlone_bind, h]

theorem runAlone_lift (client : LockClient α) :
    runAlone place input (ExceptT.lift client) d =
      (.ok (lockServer.alone place input client d).1,
        (lockServer.alone place input client d).2) := by
  exact alone_bind (S := lockServer) client _ d

theorem runAlone_attempt (code : LockCode α) :
    runAlone place input (attempt code) d =
      (.ok (runAlone place input code d).1, (runAlone place input code d).2) :=
  runAlone_lift code.run

end

/-- The process in this place lives, and none of its operations fails. -/
structure Undisturbed (place : Nat) (input : OpInput) (d : LockDir) : Prop where
  lives : d.Lives place
  failure : input.failure = none
  taken : 0 < input.taken

section

variable {place : Nat} {input : OpInput} {d : LockDir}

theorem Undisturbed.of_live {d' : LockDir} (h : Undisturbed place input d)
    (hlive : d'.live = d.live) : Undisturbed place input d' where
  lives := by
    show place ∈ d'.live.map Prod.fst
    rw [hlive]
    exact h.lives
  failure := h.failure
  taken := h.taken

theorem Undisturbed.serve_eq (h : Undisturbed place input d) {op : LockOp}
    (hop : ∀ pid, op ≠ .spawn pid) : serve place op input d = perform place input d op := by
  rw [Admission.serve_eq hop, if_neg (not_not_intro h.lives)]
  cases op <;> simp only [LockOp.failure, h.failure]

/-- One operation, run alone. -/
theorem Undisturbed.request_eq (h : Undisturbed place input d) (op : LockOp)
    (hop : ∀ pid, op ≠ .spawn pid) :
    lockServer.alone place input (request op) d =
      ((perform place input d op).1, (perform place input d op).2.1) := by
  show ((serve place op input d).1, (serve place op input d).2.1) = _
  rw [h.serve_eq hop]

/-! ### The interlocks -/

theorem rejectMarker_alone (h : Undisturbed place input d) (active ambiguous name : String) :
    runAlone place input (rejectMarker active ambiguous name) d =
      (if d.markers.contains name then .error (.other active) else .ok (), d) := by
  have hask : runAlone place input (attempt (ask (request (.marker name)))) d =
      (.ok (if d.markers.contains name then .ok () else .error .notFound), d) := by
    rw [runAlone_attempt]
    exact congrArg (fun r => (Except.ok r.1, r.2)) (h.request_eq (.marker name) nofun)
  refine (runAlone_bind_ok hask).trans ?_
  cases d.markers.contains name <;> rfl

theorem forM_rejectMarker (h : Undisturbed place input d) (active ambiguous : String)
    (names : List String) :
    (∀ name ∈ names, d.markers.contains name = false) ∧
        runAlone place input (names.forM (rejectMarker active ambiguous)) d = (.ok (), d) ∨
      (∃ name ∈ names, d.markers.contains name = true) ∧
        runAlone place input (names.forM (rejectMarker active ambiguous)) d =
          (.error (.other active), d) := by
  induction names with
  | nil => exact .inl ⟨nofun, rfl⟩
  | cons name names ih =>
    have hfirst := rejectMarker_alone h active ambiguous name
    cases hname : d.markers.contains name with
    | true =>
      rw [hname, if_pos rfl] at hfirst
      exact .inr ⟨⟨name, List.mem_cons_self, hname⟩, runAlone_bind_error hfirst⟩
    | false =>
      rw [hname, if_neg Bool.false_ne_true] at hfirst
      have hrest : runAlone place input ((name :: names).forM (rejectMarker active ambiguous)) d =
          runAlone place input (names.forM (rejectMarker active ambiguous)) d :=
        runAlone_bind_ok hfirst
      rw [hrest]
      rcases ih with ⟨hfree, heq⟩ | ⟨⟨found, hmem, hfound⟩, heq⟩
      · refine .inl ⟨?_, heq⟩
        intro other hother
        rcases List.mem_cons.mp hother with rfl | hother
        · exact hname
        · exact hfree other hother
      · exact .inr ⟨⟨found, List.mem_cons_of_mem _ hmem, hfound⟩, heq⟩

/-- No marker is there that an `acquire` of this kind looks for. -/
def LockDir.Unlocked (d : LockDir) (kind : String) : Prop :=
  ∀ name ∈ interlocks kind ++ cleanupWitnesses, d.markers.contains name = false

theorem rejectRestoreInterlock_alone (h : Undisturbed place input d) (kind : String) :
    (d.Unlocked kind ∧ runAlone place input (rejectRestoreInterlock kind) d = (.ok (), d)) ∨
      (¬ d.Unlocked kind ∧
        ∃ e, runAlone place input (rejectRestoreInterlock kind) d = (.error e, d)) := by
  rcases forM_rejectMarker h "restore interlock is active" "restore interlock is ambiguous"
    (interlocks kind) with ⟨hfree, heq⟩ | ⟨⟨name, hmem, hname⟩, heq⟩
  · rcases forM_rejectMarker h "cleanup interlock is active" "cleanup interlock is ambiguous"
      cleanupWitnesses with ⟨hfree', heq'⟩ | ⟨⟨name, hmem, hname⟩, heq'⟩
    · refine .inl ⟨?_, (runAlone_bind_ok heq).trans heq'⟩
      intro name hname
      exact (List.mem_append.mp hname).elim (hfree name) (hfree' name)
    · refine .inr ⟨?_, _, (runAlone_bind_ok heq).trans heq'⟩
      intro hall
      rw [hall name (List.mem_append_right _ hmem)] at hname
      cases hname
  · refine .inr ⟨?_, _, runAlone_bind_error heq⟩
    intro hall
    rw [hall name (List.mem_append_left _ hmem)] at hname
    cases hname

end

section

variable [Externals] [RecordCrates] {place : Nat} {input : OpInput} {d : LockDir}

/-! ### Records -/

/-- The record behind a name, where there is a sound one. -/
def LockDir.recordAt (d : LockDir) (name : LockName) : Option Record :=
  match d.get name with
  | none => none
  | some file =>
    if !(d.metadataOf file).regular || (d.metadataOf file).permissions != 0o600 ||
        (d.metadataOf file).nlink != 1 then none
    else
      match RecordCrates.fromSlice (d.files file).bytes with
      | none => none
      | some record => if record.valid then some record else none

/-- `d` and `d'` differ in what was opened last. -/
def LockDir.Looked (d d' : LockDir) : Prop := ∃ seen, d' = { d with seen := seen }

omit [Externals] [RecordCrates] in
theorem LockDir.Looked.undisturbed {d' : LockDir} (h : d.Looked d')
    (hd : Undisturbed place input d) : Undisturbed place input d' := by
  obtain ⟨seen, rfl⟩ := h
  exact hd.of_live rfl

/-- `read_record`, alone. -/
theorem readRecord_alone (h : Undisturbed place input d) (name : LockName) :
    ∃ d', d.Looked d' ∧
      match d.recordAt name with
      | some record => runAlone place input (readRecord name) d = (.ok record, d')
      | none => ∃ e, runAlone place input (readRecord name) d = (.error e, d') := by
  have hopen : runAlone place input (ask (request (.openRead name))) d = _ :=
    h.request_eq (.openRead name) (by simp)
  unfold LockDir.recordAt
  cases hget : d.get name with
  | none =>
    simp only [perform, hget] at hopen
    exact ⟨d, ⟨d.seen, rfl⟩, _, runAlone_bind_error hopen⟩
  | some file =>
    simp only [perform, hget] at hopen
    have hlooked : d.Looked { d with seen := Function.update d.seen place (some file) } :=
      ⟨_, rfl⟩
    have hmetadata : ∀ d', d.Looked d' →
        runAlone place input (ask (request (.metadata file))) d' =
          (.ok (d.metadataOf file), d') := by
      intro d' hlooked
      have h' := hlooked.undisturbed h
      obtain ⟨seen, rfl⟩ := hlooked
      exact h'.request_eq (.metadata file) (by simp)
    have hread : ∀ d', d.Looked d' →
        runAlone place input (ask (request (.readToEnd file))) d' =
          (.ok (d.files file).bytes, d') := by
      intro d' hlooked
      have h' := hlooked.undisturbed h
      obtain ⟨seen, rfl⟩ := hlooked
      exact h'.request_eq (.readToEnd file) (by simp)
    refine ⟨_, hlooked, ?_⟩
    generalize ({ d with seen := Function.update d.seen place (some file) } : LockDir) = d'
      at hopen hlooked
    unfold readRecord
    rw [runAlone_bind_ok hopen, runAlone_bind_ok (hmetadata d' hlooked)]
    by_cases hunsound : (!(d.metadataOf file).regular ||
        (d.metadataOf file).permissions != 0o600 || (d.metadataOf file).nlink != 1) = true
    · simp only [if_pos hunsound]
      exact ⟨_, rfl⟩
    · simp only [if_neg hunsound]
      rw [runAlone_bind_ok (hread d' hlooked)]
      cases RecordCrates.fromSlice (d.files file).bytes with
      | none => exact ⟨_, rfl⟩
      | some record =>
        cases hvalid : record.valid with
        | true =>
          simp only [hvalid, if_true]
          rfl
        | false =>
          simp only [hvalid, Bool.false_eq_true, if_false]
          exact ⟨_, rfl⟩

omit [Externals] [RecordCrates] in
/-- A stale record for a process that reads its own in `record`. -/
def Record.Reclaimable (stale record : Record) (d : LockDir) : Prop :=
  stale.pid ∉ d.live.map Prod.snd ∧ stale.executable = record.executable ∧
    stale.config = record.config ∧ stale.database = record.database

/-- The record behind a name is stale for a process that has `record`. -/
def LockDir.Stale (d : LockDir) (record : Record) (name : LockName) : Prop :=
  ∃ stale, d.recordAt name = some stale ∧ stale.Reclaimable record d

omit [Externals] [RecordCrates] in
/-- `validate_stale`, alone. -/
theorem validateStale_alone (h : Undisturbed place input d) (record stale : Record) :
    (stale.Reclaimable record d ∧ runAlone place input (validateStale record stale) d = (.ok (), d)) ∨
      (¬ stale.Reclaimable record d ∧
        ∃ e, runAlone place input (validateStale record stale) d = (.error e, d)) := by
  have hask : runAlone place input (attempt (ask (request (.startTime stale.pid)))) d =
      (.ok (if stale.pid ∈ d.live.map Prod.snd then .ok input.started else .error .notFound), d) := by
    rw [runAlone_attempt]
    exact congrArg (fun r => (Except.ok r.1, r.2)) (h.request_eq (.startTime stale.pid) nofun)
  unfold validateStale
  rw [runAlone_bind_ok hask]
  by_cases hlive : stale.pid ∈ d.live.map Prod.snd
  · rw [if_pos hlive]
    exact .inr ⟨fun hstale => hstale.1 hlive, _, rfl⟩
  · rw [if_neg hlive]
    dsimp only
    split
    · rename_i hdrift
      refine .inr ⟨?_, _, rfl⟩
      rintro ⟨-, hexecutable, hconfig, hdatabase⟩
      simp [hexecutable, hconfig, hdatabase] at hdrift
    · rename_i hsame
      simp only [ne_eq, not_or, not_not] at hsame
      exact .inl ⟨⟨hlive, hsame⟩, rfl⟩

/-! ### A new lock -/

omit [Externals] [RecordCrates] in
theorem LockDir.append_append (d : LockDir) (file : Nat) (bytes more : List Nat) :
    (d.append file bytes).append file more = d.append file (bytes ++ more) := by
  simp [LockDir.append, List.append_assoc]

omit [Externals] [RecordCrates] in
theorem LockDir.append_nil (d : LockDir) (file : Nat) : d.append file [] = d := by
  simp [LockDir.append]

omit [Externals] [RecordCrates] in
theorem writeAll_alone (file : Nat) (fuel : Nat) : ∀ (bytes : List Nat) (d : LockDir),
    Undisturbed place input d → bytes.length ≤ fuel →
    runAlone place input (writeAll file fuel bytes) d = (.ok (), d.append file bytes) := by
  induction fuel with
  | zero =>
    intro bytes d _ hfuel
    obtain rfl := List.length_eq_zero_iff.mp (Nat.le_zero.mp hfuel)
    rw [LockDir.append_nil]
    rfl
  | succ fuel ih =>
    intro bytes d h hfuel
    unfold writeAll
    by_cases hnil : bytes = []
    · rw [if_pos hnil, hnil, LockDir.append_nil]
      rfl
    have hlength : 0 < bytes.length := List.length_pos_of_ne_nil hnil
    have hwrite : runAlone place input (ask (request (.write file bytes))) d =
        (.ok (min input.taken bytes.length), d.append file (bytes.take input.taken)) :=
      h.request_eq (.write file bytes) (by simp)
    have htaken := h.taken
    have hrest : runAlone place input
        (writeAll file fuel (bytes.drop (min input.taken bytes.length)))
        (d.append file (bytes.take input.taken)) = _ :=
      ih _ (d.append file (bytes.take input.taken)) (h.of_live rfl)
        (by rw [List.length_drop]; omega)
    rw [if_neg hnil, runAlone_bind_ok hwrite, if_neg (by omega), hrest, LockDir.append_append]
    have htake : bytes.take input.taken = bytes.take (min input.taken bytes.length) := by
      rw [List.take_eq_take_iff]
      omega
    rw [htake, List.take_append_drop]

/-- The directory with a new lock. -/
def LockDir.locked (d : LockDir) (place : Nat) (bytes : List Nat) : LockDir :=
  (d.make place .lock).append d.next bytes

omit [Externals] [RecordCrates] in
theorem create_alone (h : Undisturbed place input d) (nonce : String) (bytes : List Nat) :
    runAlone place input (create nonce bytes) d =
      if (d.get .lock).isSome then (.error .alreadyExists, d)
      else (.ok ⟨nonce, d.next⟩, d.locked place bytes) := by
  have hcreate : runAlone place input (ask (request (.createNew .lock))) d = _ :=
    h.request_eq (.createNew .lock) (by simp)
  unfold create
  by_cases hlock : (d.get .lock).isSome
  · simp only [perform, if_pos hlock] at hcreate
    rw [if_pos hlock, runAlone_bind_error hcreate]
  · simp only [perform, if_neg hlock] at hcreate
    have h' : Undisturbed place input (d.locked place bytes) := h.of_live rfl
    have hsync : runAlone place input (ask (request (.syncAll d.next))) (d.locked place bytes) =
        (.ok (), d.locked place bytes) := h'.request_eq (.syncAll d.next) (by simp)
    have hmetadata : runAlone place input (ask (request (.metadata d.next)))
        (d.locked place bytes) = (.ok ((d.locked place bytes).metadataOf d.next),
          d.locked place bytes) := h'.request_eq (.metadata d.next) (by simp)
    have hfsync : runAlone place input (ask (request .fsyncParent)) (d.locked place bytes) =
        (.ok (), d.locked place bytes) := h'.request_eq .fsyncParent (by simp)
    have hwrite : runAlone place input (writeAll d.next bytes.length bytes) (d.make place .lock) =
        (.ok (), d.locked place bytes) :=
      writeAll_alone d.next _ bytes _ (h.of_live rfl) le_rfl
    rw [if_neg hlock, runAlone_bind_ok hcreate, runAlone_bind_ok hwrite, runAlone_bind_ok hsync,
      runAlone_bind_ok hmetadata, runAlone_bind_ok hfsync]
    rfl

/-! ### Quarantines -/

/-- The names in quarantine. -/
def LockDir.quarantines (d : LockDir) : List LockName :=
  (d.entries.map Prod.fst).filter LockName.isStale

omit [Externals] [RecordCrates] in
theorem LockDir.quarantines_unlink (d : LockDir) (name : LockName) :
    (d.unlink name).quarantines = d.quarantines.filter fun other => other ≠ name := by
  unfold LockDir.quarantines LockDir.unlink
  dsimp only
  rw [List.filter_filter, List.filter_map, List.filter_map, List.filter_filter]
  refine congrArg (List.map Prod.fst) (List.filter_congr ?_)
  intro e _
  exact Bool.and_comm _ _

omit [Externals] [RecordCrates] in
theorem LockDir.quarantines_link (d : LockDir) (name : LockName) (file : Nat) :
    (d.link name file).quarantines =
      (if name.isStale then [name] else []) ++ (d.unlink name).quarantines := by
  show (name :: ((d.unlink name).entries.map Prod.fst)).filter LockName.isStale = _
  rw [List.filter_cons]
  split <;> rfl

/-- The directory has one lock, this file with these bytes, and nothing in quarantine. -/
structure LockDir.LockedBy (d : LockDir) (file : Nat) (bytes : List Nat) : Prop where
  lock : d.get .lock = some file
  quarantines : d.quarantines = []
  bytes : (d.files file).bytes = bytes

omit [Externals] [RecordCrates] in
theorem LockDir.locked_bytes (d : LockDir) (place : Nat) (bytes : List Nat) :
    ((d.locked place bytes).files d.next).bytes = bytes := by
  show (Function.update (d.make place .lock).files d.next _ d.next).bytes = bytes
  rw [Function.update_self, LockDir.make_new]
  exact List.nil_append _

omit [Externals] [RecordCrates] in
theorem LockDir.get_locked (d : LockDir) (place : Nat) (bytes : List Nat) (name : LockName) :
    (d.locked place bytes).get name = if name = .lock then some d.next else d.get name :=
  d.get_link .lock name d.next

omit [Externals] [RecordCrates] in
theorem LockDir.quarantines_locked (d : LockDir) (place : Nat) (bytes : List Nat) :
    (d.locked place bytes).quarantines = d.quarantines.filter fun name => name ≠ .lock :=
  (d.quarantines_link .lock d.next).trans (d.quarantines_unlink .lock)

theorem LockDir.get_of_recordAt {name : LockName} {record : Record}
    (h : d.recordAt name = some record) : ∃ file, d.get name = some file := by
  unfold LockDir.recordAt at h
  split at h
  · cases h
  · exact ⟨_, ‹_›⟩

/-- The lock goes into quarantine, a new one is made, and the quarantine is removed. -/
theorem replace_alone (h : Undisturbed place input d) (record : Record) (bytes : List Nat)
    (nonce : String) {file : Nat} (hlock : d.get .lock = some file)
    (hquarantines : d.quarantines = []) :
    ∃ d', d'.LockedBy d.next bytes ∧
      runAlone place input
        (do
          ask (request (.rename .lock (.stale nonce)))
          ask (request .fsyncParent)
          let guard ← create record.nonce bytes
          orDrop guard do
            ask (request (.removeFile (.stale nonce)))
            ask (request .fsyncParent)
          pure guard) d = (.ok ⟨record.nonce, d.next⟩, d') := by
  -- the directory without a lock, with the new lock, and without the quarantine
  let apart := (d.unlink .lock).link (.stale nonce) file
  let locked := apart.locked place bytes
  have hrename : runAlone place input (ask (request (.rename .lock (.stale nonce)))) d =
      (.ok (), apart) := by
    have heq := h.request_eq (.rename .lock (.stale nonce)) (by simp)
    simp only [perform, hlock] at heq
    exact heq
  have hapart : Undisturbed place input apart := h.of_live rfl
  have hfsync : runAlone place input (ask (request .fsyncParent)) apart = (.ok (), apart) :=
    hapart.request_eq .fsyncParent (by simp)
  have hfree : apart.get .lock = none := by
    rw [LockDir.get_link, if_neg (by simp), LockDir.get_unlink, if_pos rfl]
  have hcreate : runAlone place input (create record.nonce bytes) apart =
      (.ok ⟨record.nonce, d.next⟩, locked) := by
    rw [create_alone hapart, hfree]
    rfl
  have hlocked : Undisturbed place input locked := h.of_live rfl
  have hstale : locked.get (.stale nonce) = some file := by
    rw [LockDir.get_locked, if_neg (by simp), LockDir.get_link, if_pos rfl]
  have hremove : runAlone place input (ask (request (.removeFile (.stale nonce)))) locked =
      (.ok (), locked.unlink (.stale nonce)) := by
    have heq := hlocked.request_eq (.removeFile (.stale nonce)) (by simp)
    simp only [perform, hstale, Option.isSome_some, if_true] at heq
    exact heq
  have hfsync' : runAlone place input (ask (request .fsyncParent)) (locked.unlink (.stale nonce)) =
      (.ok (), locked.unlink (.stale nonce)) :=
    (h.of_live rfl : Undisturbed place input (locked.unlink (.stale nonce))).request_eq
      .fsyncParent (by simp)
  refine ⟨locked.unlink (.stale nonce), ⟨?_, ?_, apart.locked_bytes place bytes⟩, ?_⟩
  · rw [LockDir.get_unlink, if_neg (by simp), LockDir.get_locked, if_pos rfl]
    rfl
  · rw [LockDir.quarantines_unlink, LockDir.quarantines_locked, LockDir.quarantines_link,
      LockDir.quarantines_unlink, LockDir.quarantines_unlink, hquarantines]
    simp [LockName.isStale]
  · have hstep : runAlone place input
        (orDrop ⟨record.nonce, d.next⟩ do
          ask (request (.removeFile (.stale nonce)))
          ask (request .fsyncParent)) locked = (.ok (), locked.unlink (.stale nonce)) := by
      unfold orDrop
      rw [runAlone_bind, runAlone_attempt, runAlone_bind_ok hremove, hfsync']
      rfl
    rw [runAlone_bind_ok hrename, runAlone_bind_ok hfsync, runAlone_bind_ok hcreate,
      runAlone_bind_ok hstep]
    rfl

/-- `reclaim`, alone. -/
theorem reclaim_alone (h : Undisturbed place input d) (record : Record) (bytes : List Nat)
    (hquarantines : d.quarantines = []) :
    (d.Stale record .lock ∧ ∃ d', d'.LockedBy d.next bytes ∧
        runAlone place input (reclaim record bytes) d = (.ok ⟨record.nonce, d.next⟩, d')) ∨
      (¬ d.Stale record .lock ∧ ∃ d' e, d.Looked d' ∧
        runAlone place input (reclaim record bytes) d = (.error e, d')) := by
  obtain ⟨d', hlooked, hread⟩ := readRecord_alone h .lock
  have h' := hlooked.undisturbed h
  unfold LockDir.Stale
  cases hrecord : d.recordAt .lock with
  | none =>
    rw [hrecord] at hread
    obtain ⟨e, hread⟩ := hread
    refine .inr ⟨?_, d', e, hlooked, runAlone_bind_error hread⟩
    rintro ⟨stale, hstale, -⟩
    cases hstale
  | some stale =>
    rw [hrecord] at hread
    have hlive : stale.Reclaimable record d' ↔ stale.Reclaimable record d := by
      obtain ⟨seen, rfl⟩ := hlooked
      exact Iff.rfl
    unfold reclaim
    rw [runAlone_bind_ok hread]
    rcases validateStale_alone h' record stale with ⟨hstale, hvalid⟩ | ⟨hfresh, e, hvalid⟩
    · refine .inl ⟨⟨stale, rfl, hlive.mp hstale⟩, ?_⟩
      rw [runAlone_bind_ok hvalid]
      obtain ⟨file, hlock⟩ := LockDir.get_of_recordAt hrecord
      obtain ⟨seen, rfl⟩ := hlooked
      exact replace_alone h' record bytes stale.nonce hlock hquarantines
    · refine .inr ⟨?_, d', e, hlooked, runAlone_bind_error hvalid⟩
      rintro ⟨other, hother, hreclaimable⟩
      cases hother
      exact hfresh (hlive.mpr hreclaimable)

/-- A quarantine that was left behind, alone. -/
theorem readmit_alone (h : Undisturbed place input d) (record : Record) (name : LockName) :
    (d.Stale record name ∧ ∃ d', d'.live = d.live ∧ d'.next = d.next ∧
        (d'.get .lock).isSome ∧ d'.Stale record .lock ∧
        d'.quarantines = d.quarantines.filter (fun other => other ≠ name) ∧
        runAlone place input ( readmit record [name]) d = (.ok (), d')) ∨
      (¬ d.Stale record name ∧
        ∃ d' e, d.Looked d' ∧ runAlone place input ( readmit record [name]) d = (.error e, d')) := by
  obtain ⟨d', hlooked, hread⟩ := readRecord_alone h name
  have h' := hlooked.undisturbed h
  unfold LockDir.Stale readmit
  cases hrecord : d.recordAt name with
  | none =>
    rw [hrecord] at hread
    obtain ⟨e, hread⟩ := hread
    refine .inr ⟨?_, d', e, hlooked, runAlone_bind_error hread⟩
    rintro ⟨stale, hstale, -⟩
    cases hstale
  | some stale =>
    rw [hrecord] at hread
    have hlive : stale.Reclaimable record d' ↔ stale.Reclaimable record d := by
      obtain ⟨seen, rfl⟩ := hlooked
      exact Iff.rfl
    rw [runAlone_bind_ok hread]
    rcases validateStale_alone h' record stale with ⟨hstale, hvalid⟩ | ⟨hfresh, e, hvalid⟩
    · refine .inl ⟨⟨stale, rfl, hlive.mp hstale⟩, ?_⟩
      rw [runAlone_bind_ok hvalid]
      obtain ⟨file, hget⟩ := LockDir.get_of_recordAt hrecord
      obtain ⟨seen, rfl⟩ := hlooked
      let moved := (({ d with seen := seen } : LockDir).unlink name).link .lock file
      have hrename : runAlone place input (ask (request (.rename name .lock)))
          { d with seen := seen } = (.ok (), moved) := by
        have heq := h'.request_eq (.rename name .lock) (by simp)
        have hget' : ({ d with seen := seen } : LockDir).get name = some file := hget
        simp only [perform, hget'] at heq
        exact heq
      have hfsync : runAlone place input (ask (request .fsyncParent)) moved = (.ok (), moved) :=
        (h.of_live rfl : Undisturbed place input moved).request_eq .fsyncParent (by simp)
      have hmoved : moved.get .lock = some file := by
        rw [LockDir.get_link, if_pos rfl]
      have hsame : moved.recordAt .lock = some stale := by
        rw [← hrecord]
        unfold LockDir.recordAt
        rw [hmoved, hget]
        rfl
      refine ⟨moved, rfl, rfl, by rw [hmoved]; rfl, ⟨stale, hsame, hstale⟩, ?_,
        (runAlone_bind_ok hrename).trans hfsync⟩
      have hfree : ∀ other ∈ d.quarantines, other ≠ .lock := by
        rintro other hother rfl
        cases (List.mem_filter.mp hother).2
      rw [LockDir.quarantines_link, LockDir.quarantines_unlink, LockDir.quarantines_unlink]
      show List.filter _ (List.filter _ d.quarantines) = _
      rw [List.filter_filter]
      refine List.filter_congr ?_
      intro other hother
      simp [hfree other hother]
    · refine .inr ⟨?_, d', e, hlooked, runAlone_bind_error hvalid⟩
      rintro ⟨other, hother, hreclaimable⟩
      cases hother
      exact hfresh (hlive.mpr hreclaimable)

/-! ### `acquire` -/

/-- What the dead have left can be taken over: nothing, or **one lock or one quarantine, with a
record that is stale**. -/
def LockDir.Replaceable (d : LockDir) (record : Record) : Prop :=
  (d.quarantines = [] ∧ (d.get .lock = none ∨ d.Stale record .lock)) ∨
    ∃ name, d.quarantines = [name] ∧ d.get .lock = none ∧ d.Stale record name

/-- An `acquire` succeeds: no interlock is there, and what the dead have left can be taken over
with the identities that the files have now. -/
def LockDir.Admits (d : LockDir) (call : AcquireInput) : Prop :=
  d.Unlocked call.kind ∧ ∃ record : Record,
    d.identities call.database = .ok record.database ∧
      d.identities call.config = .ok record.config ∧
      d.identities call.executable = .ok record.executable ∧ d.Replaceable record

theorem LockDir.Stale.congr {record other : Record} {name : LockName}
    (h : d.Stale other name) (hexecutable : other.executable = record.executable)
    (hconfig : other.config = record.config) (hdatabase : other.database = record.database) :
    d.Stale record name := by
  obtain ⟨stale, hstale, hpid, he, hc, hd⟩ := h
  exact ⟨stale, hstale, hpid, he.trans hexecutable, hc.trans hconfig, hd.trans hdatabase⟩

/-- Only the identities of the record count. -/
theorem LockDir.Replaceable.congr {record other : Record} (h : d.Replaceable other)
    (hexecutable : other.executable = record.executable)
    (hconfig : other.config = record.config) (hdatabase : other.database = record.database) :
    d.Replaceable record := by
  rcases h with ⟨hnil, hfree | hstale⟩ | ⟨name, hone, hfree, hstale⟩
  · exact .inl ⟨hnil, .inl hfree⟩
  · exact .inl ⟨hnil, .inr (hstale.congr hexecutable hconfig hdatabase)⟩
  · exact .inr ⟨name, hone, hfree, hstale.congr hexecutable hconfig hdatabase⟩

omit [Externals] [RecordCrates] in
theorem identity_alone (h : Undisturbed place input d) (path : String) {α : Type}
    (f : FileIdentity → LockCode α) :
    (∃ identity, d.identities path = .ok identity ∧
        runAlone place input (ask (request (.identity path)) >>= f) d =
          runAlone place input (f identity) d) ∨
      ∃ e, d.identities path = .error e ∧
        runAlone place input (ask (request (.identity path)) >>= f) d = (.error e, d) := by
  have hask : runAlone place input (ask (request (.identity path))) d = (d.identities path, d) :=
    h.request_eq (.identity path) nofun
  cases hidentity : d.identities path with
  | ok identity =>
    rw [hidentity] at hask
    exact .inl ⟨identity, rfl, runAlone_bind_ok hask⟩
  | error e =>
    rw [hidentity] at hask
    exact .inr ⟨e, rfl, runAlone_bind_error hask⟩

/-- The end of `acquire`: a lock is created, or the one that is there is reclaimed. -/
def createOrReclaim (record : Record) : LockCode Guard := do
  let created ← attempt (create record.nonce (RecordCrates.toVec record))
  match created with
  | .ok guard => pure guard
  | .error .alreadyExists => reclaim record (RecordCrates.toVec record)
  | .error error => throw error

/-- What is in quarantine is looked at, and taken back, before a lock is created. -/
def takeOver (record : Record) (quarantines : List LockName) : LockCode Guard := do
  if ← ambiguous quarantines then throw (.other "ambiguous admission quarantine")
  readmit record quarantines
  createOrReclaim record

theorem createOrReclaim_alone (h : Undisturbed place input d) (record : Record)
    (hquarantines : d.quarantines = []) :
    ((d.get .lock = none ∨ d.Stale record .lock) ∧
        ∃ d', d'.LockedBy d.next (RecordCrates.toVec record) ∧
          runAlone place input (createOrReclaim record) d = (.ok ⟨record.nonce, d.next⟩, d')) ∨
      (¬ (d.get .lock = none ∨ d.Stale record .lock) ∧
        ∃ d' e, d.Looked d' ∧ runAlone place input (createOrReclaim record) d = (.error e, d')) := by
  have hcreate := create_alone h record.nonce (RecordCrates.toVec record)
  unfold createOrReclaim
  cases hlock : d.get .lock with
  | none =>
    rw [hlock, if_neg nofun] at hcreate
    refine .inl ⟨.inl rfl, d.locked place (RecordCrates.toVec record), ⟨?_, ?_, ?_⟩, ?_⟩
    · rw [LockDir.get_locked, if_pos rfl]
    · rw [LockDir.quarantines_locked, hquarantines]
      rfl
    · exact d.locked_bytes place _
    · rw [runAlone_bind, runAlone_attempt, hcreate]
      rfl
  | some file =>
    rw [hlock, if_pos Option.isSome_some] at hcreate
    rw [runAlone_bind, runAlone_attempt, hcreate]
    rcases reclaim_alone h record (RecordCrates.toVec record) hquarantines with
      ⟨hstale, hdone⟩ | ⟨hfresh, hrefused⟩
    · exact .inl ⟨.inr hstale, hdone⟩
    · exact .inr ⟨fun hor => hor.elim nofun hfresh, hrefused⟩

theorem takeOver_alone (h : Undisturbed place input d) (record : Record) :
    (d.Replaceable record ∧ ∃ d', d'.LockedBy d.next (RecordCrates.toVec record) ∧
        runAlone place input (takeOver record d.quarantines) d =
          (.ok ⟨record.nonce, d.next⟩, d')) ∨
      (¬ d.Replaceable record ∧ ∃ d' e, d.Looked d' ∧
        runAlone place input (takeOver record d.quarantines) d = (.error e, d')) := by
  unfold LockDir.Replaceable
  match hquarantines : d.quarantines with
  | [] =>
    have hcode : runAlone place input (takeOver record []) d =
        runAlone place input (createOrReclaim record) d := rfl
    rw [hcode]
    rcases createOrReclaim_alone h record hquarantines with ⟨hreplace, hdone⟩ | ⟨hkeep, hrefused⟩
    · exact .inl ⟨.inl ⟨rfl, hreplace⟩, hdone⟩
    · refine .inr ⟨?_, hrefused⟩
      rintro (⟨-, hreplace⟩ | ⟨name, hname, -⟩)
      · exact hkeep hreplace
      · cases hname
  | [name] =>
    have hexists : runAlone place input (ambiguous [name]) d = (.ok (d.get .lock).isSome, d) :=
      (runAlone_lift _).trans
        (congrArg (fun r => (Except.ok r.1, r.2)) (h.request_eq (.pathExists .lock) nofun))
    cases hlock : d.get .lock with
    | some file =>
      rw [hlock] at hexists
      refine .inr ⟨?_, d, .other "ambiguous admission quarantine", ⟨d.seen, rfl⟩,
        runAlone_bind_ok hexists⟩
      rintro (⟨hnil, -⟩ | ⟨only, -, hfree, -⟩)
      · cases hnil
      · cases hfree
    | none =>
      rw [hlock] at hexists
      have hcode : runAlone place input (takeOver record [name]) d =
          runAlone place input ( readmit record [name] >>= fun _ => createOrReclaim record) d :=
        runAlone_bind_ok hexists
      rw [hcode]
      rcases readmit_alone h record name with
        ⟨hstale, d', hlive, hnext, hlocked, hstale', hrest, hdone⟩ | ⟨hfresh, d', e, hlooked, hrefused⟩
      · rw [hquarantines] at hrest
        rw [runAlone_bind_ok hdone, ← hnext]
        rcases createOrReclaim_alone (h.of_live hlive) record (by simpa using hrest) with
          ⟨-, hcreated⟩ | ⟨hkeep, -⟩
        · exact .inl ⟨.inr ⟨name, rfl, rfl, hstale⟩, hcreated⟩
        · exact absurd (.inr hstale') hkeep
      · refine .inr ⟨?_, d', e, hlooked, runAlone_bind_error hrefused⟩
        rintro (⟨hnil, -⟩ | ⟨only, honly, -, hstale⟩)
        · cases hnil
        · cases honly
          exact hfresh hstale
  | name :: other :: rest =>
    refine .inr ⟨?_, d, .other "ambiguous admission quarantine", ⟨d.seen, rfl⟩, rfl⟩
    rintro (⟨hnil, -⟩ | ⟨only, honly, -⟩)
    · cases hnil
    · cases honly

/-- **`acquire`, alone**, on any directory. -/
theorem acquire_alone (h : Undisturbed place input d) (call : AcquireInput)
    (hpid : call.pid ∈ d.live.map Prod.snd) :
    (d.Admits call ∧ ∃ d' record, record.pid = call.pid ∧ record.nonce = call.nonce ∧
        d'.LockedBy d.next (RecordCrates.toVec record) ∧
        runAlone place input (acquire call) d = (.ok ⟨call.nonce, d.next⟩, d')) ∨
      (¬ d.Admits call ∧ ∃ d' e, d.Looked d' ∧
        runAlone place input (acquire call) d = (.error e, d')) := by
  unfold acquire
  rcases rejectRestoreInterlock_alone h call.kind with
    ⟨hunlocked, hreject⟩ | ⟨hlocked, e, hreject⟩
  swap
  · exact .inr ⟨fun hadmits => hlocked hadmits.1, d, e, ⟨d.seen, rfl⟩, runAlone_bind_error hreject⟩
  rw [runAlone_bind_ok hreject]
  have hunknown : ∀ {code : LockCode Guard} {e : IoError},
      (∀ record : Record, d.identities call.database = .ok record.database →
        d.identities call.config = .ok record.config →
        d.identities call.executable = .ok record.executable → False) →
      runAlone place input code d = (.error e, d) →
      ¬ d.Admits call ∧ ∃ d' e, d.Looked d' ∧ runAlone place input code d = (.error e, d') := by
    intro code e hno hcode
    refine ⟨?_, d, e, ⟨d.seen, rfl⟩, hcode⟩
    rintro ⟨-, record, hdatabase, hconfig, hexecutable, -⟩
    exact hno record hdatabase hconfig hexecutable
  rcases identity_alone h call.database _ with ⟨database, hd, heq⟩ | ⟨e, hd, heq⟩
  swap
  · exact .inr (hunknown (fun record h _ _ => by cases hd.symm.trans h) heq)
  rw [heq]
  rcases identity_alone h call.config _ with ⟨config, hc, heq⟩ | ⟨e, hc, heq⟩
  swap
  · exact .inr (hunknown (fun record _ h _ => by cases hc.symm.trans h) heq)
  rw [heq]
  rcases identity_alone h call.executable _ with ⟨executable, he, heq⟩ | ⟨e, he, heq⟩
  swap
  · exact .inr (hunknown (fun record _ _ h => by cases he.symm.trans h) heq)
  rw [heq]
  have hstarted : runAlone place input (ask (request (.startTime call.pid))) d =
      (.ok input.started, d) := by
    have hask := h.request_eq (.startTime call.pid) (by simp)
    simp only [perform, if_pos hpid] at hask
    exact hask
  have hnames : runAlone place input (ask (request .readDir)) d =
      (.ok (d.entries.map Prod.fst), d) := h.request_eq .readDir (by simp)
  rw [runAlone_bind_ok hstarted]
  dsimp only
  rw [runAlone_bind_ok hnames]
  let record : Record :=
    { version := 1, kind := call.kind, pid := call.pid, starttime := input.started,
      executable := executable, config := config, database := database, nonce := call.nonce }
  rcases takeOver_alone h record with ⟨hreplace, d', hlocked, hdone⟩ | ⟨hkeep, d', e, hlooked, hrefused⟩
  · exact .inl ⟨⟨hunlocked, record, hd, hc, he, hreplace⟩, d', record, rfl, rfl, hlocked, hdone⟩
  · refine .inr ⟨?_, d', e, hlooked, hrefused⟩
    rintro ⟨-, other, hdatabase, hconfig, hexecutable, hreplace⟩
    exact hkeep (hreplace.congr (Except.ok.inj (hexecutable.symm.trans he))
      (Except.ok.inj (hconfig.symm.trans hc)) (Except.ok.inj (hdatabase.symm.trans hd)))

end

/-! ### After the deaths -/

section

variable [Externals] [RecordCrates]

/-- **A process that is alone takes over what the dead have left exactly where the directory
`Admits` it.**  In any world of the system, a process that is about to acquire, that lives and
whose operations do not fail, comes to return a guard, with one lock, its own, and nothing in
quarantine; or its `acquire` fails, and the files are what they were. -/
theorem acquire_after_deaths {w : World LockDir (LockClient Unit) LockEvent} {place : Nat}
    {input : OpInput} {call : AcquireInput} {rest : Unit → LockClient Unit}
    (hcall : w.procs[place]? = some (acquireAndDrop call >>= rest))
    (halone : Undisturbed place input w.store) (hpid : (place, call.pid) ∈ w.store.live) :
    ∃ count w', w' = (List.replicate count (.advance place input)).foldl lockSystem.move w ∧
      (w.store.Admits call → ∃ next record, w'.procs[place]? = some (.ask .returned next) ∧
        record.pid = call.pid ∧ record.nonce = call.nonce ∧
        w'.store.LockedBy w.store.next (RecordCrates.toVec record)) ∧
      (¬ w.store.Admits call → w'.procs[place]? = some (rest ()) ∧ w.store.Looked w'.store) := by
  have hassoc := hcall.trans (congrArg some (Client.bind_assoc _ _ _))
  obtain ⟨count, hprocs, hstore⟩ := alone_moves lockServer LockWorld.apply input _ hassoc
  have hlive : call.pid ∈ w.store.live.map Prod.snd := List.mem_map.mpr ⟨_, hpid, rfl⟩
  refine ⟨count, _, rfl, ?_⟩
  rcases acquire_alone halone call hlive with
    ⟨hadmits, d', record, hrecord, hnonce, hlocked, hdone⟩ | ⟨hrefuses, d', e, hlooked, hfailed⟩
  · have hrun : lockServer.alone place input (acquire call).run w.store = _ := hdone
    rw [hrun] at hprocs hstore
    refine ⟨fun _ => ⟨_, record, hprocs, hrecord, hnonce, ?_⟩, fun h => absurd hadmits h⟩
    exact hstore.symm ▸ hlocked
  · have hrun : lockServer.alone place input (acquire call).run w.store = _ := hfailed
    rw [hrun] at hprocs hstore
    exact ⟨fun h => absurd h hrefuses, fun _ => ⟨hprocs, hstore.symm ▸ hlooked⟩⟩

end

/-! ### Runs -/

def laterCall : AcquireInput :=
  ⟨"/data/db", "/config", "/bridge", "startup", "00000000-0000-7000-8000-000000000003", 200⟩

/-- A process has begun, over the lock of a dead one. -/
def begunWorld : World LockDir (LockClient Unit) LockEvent :=
  lockSystem.worldAt staleDir
    [.start (lockProcess 200 [laterCall]), .advance 0 ⟨none, 4096, 9⟩] 2

theorem begunWorld_admits : begunWorld.store.Admits laterCall := by
  refine ⟨?_, { staleRecord with pid := 200 }, rfl, rfl, rfl, .inl ⟨rfl, .inr ⟨staleRecord, ?_, ?_⟩⟩⟩
  · show ∀ name ∈ interlocks "startup" ++ cleanupWitnesses, [].contains name = false
    intro name _
    rfl
  · decide +kernel
  · exact ⟨by decide, rfl, rfl, rfl⟩

/-- It takes over. -/
theorem begunWorld_takes_over : ∃ count w',
    w' = (List.replicate count (.advance 0 ⟨none, 4096, 9⟩)).foldl lockSystem.move begunWorld ∧
      ∃ next record, w'.procs[0]? = some (.ask .returned next) ∧ record.pid = 200 ∧
        w'.store.LockedBy 1 (RecordCrates.toVec record) := by
  have hcall : begunWorld.procs[0]? = some (acquireAndDrop laterCall >>= fun _ => pure ()) := rfl
  have halone : Undisturbed 0 ⟨none, 4096, 9⟩ begunWorld.store :=
    ⟨by decide, rfl, by decide⟩
  obtain ⟨count, w', heq, hdone, -⟩ := acquire_after_deaths hcall halone (by decide)
  obtain ⟨next, record, hprocs, hpid, -, hlocked⟩ := hdone begunWorld_admits
  exact ⟨count, w', heq, next, record, hprocs, hpid, hlocked⟩

/-- The first process dies after these moves, and a second one begins. -/
def afterDeath (moves : List (Move (LockClient Unit) OpInput LockWorld)) :
    List (Move (LockClient Unit) OpInput LockWorld) :=
  .start (reclaimer 100 "00000000-0000-7000-8000-000000000002") :: moves ++
    [.outside (.dies 0), .start (lockProcess 200 [laterCall]), .advance 1 ⟨none, 4096, 9⟩]

def worldAfter (d : LockDir) (moves : List (Move (LockClient Unit) OpInput LockWorld)) :
    World LockDir (LockClient Unit) LockEvent :=
  lockSystem.worldAt d (afterDeath moves) (afterDeath moves).length

/-- A directory without a lock. -/
def emptyDir : LockDir := { staleDir with entries := [], next := 0 }

/-- What a later `acquire` returns. -/
def laterResult (w : World LockDir (LockClient Unit) LockEvent) : Option IoError :=
  match (runAlone 1 ⟨none, 4096, 9⟩ (acquire laterCall) w.store).1 with
  | .ok _ => none
  | .error e => some e

/-- The database has other contents. -/
def changedIdentities (path : String) : Except IoError FileIdentity :=
  if path = "/data/db" then .ok { sampleIdentity "/data/db" 22 with digest := "01" }
  else staleDir.identities path

/-- **A dead owner that is not replaced**: it died in the middle of its record, or after it wrote to
the database, or with its new lock beside the old one in quarantine. -/
theorem dead_owner_kept :
    (worldAfter emptyDir (lockSteps 0 24 ++ [.advance 0 ⟨none, 10, 9⟩])).store.live = [(1, 200)] ∧
      (laterResult (worldAfter emptyDir (lockSteps 0 24 ++ [.advance 0 ⟨none, 10, 9⟩])) =
        some (.other "malformed admission lock")) ∧
      (laterResult (worldAfter emptyDir
          (lockSteps 0 29 ++ [.outside (.changes [] changedIdentities)])) =
        some (.other "stale lock identity drift")) ∧
      (laterResult (worldAfter staleDir (lockSteps 0 35)) =
        some (.other "ambiguous admission quarantine")) := by
  decide +kernel

end GuiguBridge.Admission
