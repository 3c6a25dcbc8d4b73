import GuiguBridge.Acp.OutputFiles

/-!
# Publishing a file

A file of an output set is written under a temporary name, linked to its own name, and the
temporary name is removed (`publish_file` of `src/src/acp/output_files.rs`).  The process may be
killed between two calls; what is on disk then is all that the next call finds.

* `publishFile` — the function, call by call; `write_all` may have come to any byte;
* `prepareRoot`, `prepareSet` — the directory that the files are written in;
* `SpoolWorld.withFiles` — a world with other files in the directory of one set: every call of
  `publishFile` leads from one of these to another;
* `Aside` — the other files, next to which the temporary one is written, linked and removed;
* `writeTemp_cut`, `linkTemp_cut_new`, `linkTemp_cut_taken` — what the two halves leave when they
  are cut after some calls;
* `publishFile_alone` — **what a call does that nobody interrupts**;
* `publishFile_retry` — **a retry repairs exactly the cuts that neither end inside the write nor
  leave both names**.
-/

namespace GuiguBridge

open Relational Interleave

/-! ### The calls -/

/-- The name under which a file is written. -/
def tempName (name : String) : String := "." ++ name ++ ".tmp"

/-- An inode that no file has. -/
def freshInode (files : Table FileEntry.name) : Nat :=
  (files.rows.map FileEntry.inode).foldr max 0 + 1

namespace SpoolM

variable {α : Type}

/-- One call on the files of a directory. -/
def onDir (set_id : String)
    (f : Table FileEntry.name → Except OutputSpoolError α × Table FileEntry.name)
    (fs : SpoolFiles) : Except OutputSpoolError α × SpoolFiles :=
  match fs.get set_id with
  | none => (.error .io, fs)
  | some d => ((f d.files).1, fs.modify set_id fun _ => (f d.files).2)

def inDir (set_id : String)
    (f : Table FileEntry.name → Except OutputSpoolError α × Table FileEntry.name) : SpoolM α :=
  SpoolM.file (onDir set_id f)

/-- The result of a call, with its error. -/
def attempt (t : SpoolM α) : SpoolM (Except OutputSpoolError α) :=
  ExceptT.mk (t.run >>= fun r => pure (.ok r))

end SpoolM

/-- `open` with `create_new`: the inode of the new file, or nothing when the name is taken. -/
def createIn (name : String) (files : Table FileEntry.name) :
    Except OutputSpoolError (Option Nat) × Table FileEntry.name :=
  match files.insert ⟨name, freshInode files, []⟩ with
  | some files' => (.ok (some (freshInode files)), files')
  | none => (.ok none, files)

def createNew (set_id name : String) : SpoolM (Option Nat) :=
  SpoolM.inDir set_id (createIn name)

/-- A file with more bytes. -/
def FileEntry.push (bytes : Bytes) (e : FileEntry) : FileEntry :=
  { e with bytes := e.bytes ++ bytes }

def pushIn (inode : Nat) (byte : UInt8) (files : Table FileEntry.name) :
    Except OutputSpoolError Unit × Table FileEntry.name :=
  (.ok (), files.updateWhere (fun e => decide (e.inode = inode)) (FileEntry.push [byte])
    fun _ => rfl)

/-- `write_all`: it may be cut after any byte. -/
def writeAll (set_id : String) (inode : Nat) : Bytes → SpoolM Unit
  | [] => pure ()
  | byte :: rest => do
    SpoolM.inDir set_id (pushIn inode byte)
    writeAll set_id inode rest

/-- `sync_all` of a file or of a directory: nothing changes for the processes. -/
def syncAll (set_id : String) : SpoolM Unit := SpoolM.inDir set_id fun files => (.ok (), files)

/-- `fs::hard_link`: whether the target had no file before. -/
def linkIn (source target : String) (files : Table FileEntry.name) :
    Except OutputSpoolError Bool × Table FileEntry.name :=
  match files.get source with
  | none => (.error .io, files)
  | some e =>
    match files.insert { e with name := target } with
    | some files' => (.ok true, files')
    | none => (.ok false, files)

def hardLink (set_id source target : String) : SpoolM Bool :=
  SpoolM.inDir set_id (linkIn source target)

/-- `fs::remove_file`. -/
def unlinkIn (name : String) (files : Table FileEntry.name) :
    Except OutputSpoolError Unit × Table FileEntry.name :=
  match files.get name with
  | none => (.error .io, files)
  | some _ => (.ok (), files.deleteWhere fun e => decide (e.name = name))

def unlinkFile (set_id name : String) : SpoolM Unit := SpoolM.inDir set_id (unlinkIn name)

/-- The first half of `publish_file`: the temporary file, written now or found with the same
bytes. -/
def writeTemp (set_id temp : String) (bytes : Bytes) : SpoolM Unit := do
  match ← createNew set_id temp with
  | some inode =>
    writeAll set_id inode bytes
    syncAll set_id
  | none =>
    let found ← readExactFile set_id temp
    SpoolM.require (found = bytes) .io

/-- After the link: a target that was there must have the same bytes. -/
def settleTarget (set_id temp name : String) (bytes : Bytes) :
    Except OutputSpoolError Bool → SpoolM Unit
  | .ok true => do
    unlinkFile set_id temp
    syncAll set_id
  | .ok false => do
    let existing ← readExactFile set_id name
    unlinkFile set_id temp
    syncAll set_id
    SpoolM.require (existing = bytes) .io
  | .error error => do
    let _ ← SpoolM.attempt (unlinkFile set_id temp)
    throw error

/-- The second half of `publish_file`. -/
def linkTemp (set_id temp name : String) (bytes : Bytes) : SpoolM Unit := do
  let linked ← SpoolM.attempt (hardLink set_id temp name)
  settleTarget set_id temp name bytes linked

/-- `publish_file`. -/
def publishFile (set_id name : String) (bytes : Bytes) : SpoolM Unit := do
  writeTemp set_id (tempName name) bytes
  linkTemp set_id (tempName name) name bytes

/-! ### Directories -/

/-- `prepare_root`: the directories above those of the sets are in place, or the call fails. -/
def prepareRoot : SpoolM Unit := SpoolM.file fun fs => (.ok (), fs)

/-- `fs::create_dir` for a set: whether there was none. -/
def createDir (set_id : String) : SpoolM Bool :=
  SpoolM.file fun fs =>
    match fs.insert ⟨set_id, 0o777, Table.empty⟩ with
    | some fs' => (.ok true, fs')
    | none => (.ok false, fs)

/-- `fs::set_permissions` to `0700`. -/
def restrictDir (set_id : String) : SpoolM Unit :=
  SpoolM.file fun fs =>
    (.ok (), fs.updateWhere (fun d => decide (d.set_id = set_id)) (fun d => { d with mode := 0o700 })
      fun _ => rfl)

/-- `prepare_set`. -/
def prepareSet (set_id : String) : SpoolM Unit := do
  if ← createDir set_id then
    restrictDir set_id
    SpoolM.file fun fs => (.ok (), fs)
  else
    validateDir set_id

/-- Every call is answered, and nothing fails. -/
def SpoolInput.calm : SpoolInput := ⟨.ok, .ok ()⟩

/-! ### One directory -/

/-- Other files in the directory of a set. -/
def SpoolWorld.withFiles (w : SpoolWorld) (set_id : String) (files : Table FileEntry.name) :
    SpoolWorld :=
  { w with files := w.files.modify set_id fun _ => files }

section

variable {w : SpoolWorld} {set_id : String} {d : SetDir} {files : Table FileEntry.name}

theorem SpoolFiles.get_modify {fs : SpoolFiles} (hd : fs.get set_id = some d)
    (f : Table FileEntry.name → Table FileEntry.name) :
    (fs.modify set_id f).get set_id = some { d with files := f d.files } := by
  have hkey : d.set_id = set_id := Table.key_of_get hd
  unfold SpoolFiles.modify
  rw [Table.get_updateWhere, hd]
  simp [hkey]

theorem SpoolFiles.modify_modify (fs : SpoolFiles)
    (f g : Table FileEntry.name → Table FileEntry.name) :
    (fs.modify set_id f).modify set_id g = fs.modify set_id fun t => g (f t) := by
  apply Table.ext_rows
  show ((fs.rows.map _).map _) = fs.rows.map _
  rw [List.map_map]
  refine List.map_congr_left fun r _ => ?_
  by_cases h : r.set_id = set_id
  · simp [h]
  · simp [h]

theorem SpoolFiles.modify_self {fs : SpoolFiles} (hd : fs.get set_id = some d) :
    fs.modify set_id (fun _ => d.files) = fs := by
  apply Table.ext_rows
  show fs.rows.map _ = fs.rows
  conv => rhs; rw [← List.map_id fs.rows]
  refine List.map_congr_left fun r hr => ?_
  by_cases h : r.set_id = set_id
  · have hrow : r = d := by
      have := Table.get_of_mem hr
      rw [h, hd] at this
      exact (Option.some.inj this).symm
    simp [hrow]
  · simp [h]

theorem withFiles_self (hd : w.files.get set_id = some d) : w.withFiles set_id d.files = w := by
  unfold SpoolWorld.withFiles
  rw [SpoolFiles.modify_self hd]

theorem withFiles_get (hd : w.files.get set_id = some d) :
    (w.withFiles set_id files).files.get set_id = some { d with files := files } :=
  SpoolFiles.get_modify hd _

variable {α : Type}
  {f : Table FileEntry.name → Except OutputSpoolError α × Table FileEntry.name}

theorem file_alone (g : SpoolFiles → Except OutputSpoolError α × SpoolFiles)
    (log : Except OutputSpoolError α → List SpoolEvent) :
    Thread.alone .calm (SpoolM.file g log).run w =
      ((g w.files).1, { w with files := (g w.files).2 }) := rfl

theorem file_cut (g : SpoolFiles → Except OutputSpoolError α × SpoolFiles)
    (log : Except OutputSpoolError α → List SpoolEvent) (inputs : List SpoolInput) :
    Thread.cut (SpoolM.file g log).run (.calm :: inputs) w =
      (some ((g w.files).1, inputs), { w with files := (g w.files).2 }) := rfl

theorem onDir_withFiles (hd : w.files.get set_id = some d) :
    SpoolM.onDir set_id f (w.withFiles set_id files).files =
      ((f files).1, (w.withFiles set_id (f files).2).files) := by
  unfold SpoolM.onDir
  rw [withFiles_get hd]
  show ((f files).1, SpoolFiles.modify _ _ _) = _
  congr 1
  exact SpoolFiles.modify_modify w.files (fun _ => files) fun _ => (f files).2

theorem inDir_alone (hd : w.files.get set_id = some d) :
    Thread.alone .calm (SpoolM.inDir set_id f).run (w.withFiles set_id files) =
      ((f files).1, w.withFiles set_id (f files).2) := by
  unfold SpoolM.inDir
  rw [file_alone, onDir_withFiles hd]
  rfl

theorem inDir_cut (hd : w.files.get set_id = some d) (inputs : List SpoolInput) :
    Thread.cut (SpoolM.inDir set_id f).run (.calm :: inputs) (w.withFiles set_id files) =
      (some ((f files).1, inputs), w.withFiles set_id (f files).2) := by
  unfold SpoolM.inDir
  rw [file_cut, onDir_withFiles hd]
  rfl

/-- What `read_exact_file` finds. -/
def readFiles (files : Table FileEntry.name) (name : String) : Except OutputSpoolError Bytes :=
  match files.get name with
  | none => .error .io
  | some e => if files.affected (fun e' => e'.inode = e.inode) = 1 then .ok e.bytes else .error .io

theorem readExact_withFiles (hd : w.files.get set_id = some d) (name : String) :
    readExact (w.withFiles set_id files).files set_id name = readFiles files name := by
  unfold readExact
  rw [withFiles_get hd]
  rfl

theorem readExactFile_alone (hd : w.files.get set_id = some d) (name : String) :
    Thread.alone .calm (readExactFile set_id name).run (w.withFiles set_id files) =
      (readFiles files name, w.withFiles set_id files) := by
  unfold readExactFile
  rw [file_alone, readExact_withFiles hd]

theorem readExactFile_cut (hd : w.files.get set_id = some d) (name : String)
    (inputs : List SpoolInput) :
    Thread.cut (readExactFile set_id name).run (.calm :: inputs) (w.withFiles set_id files) =
      (some (readFiles files name, inputs), w.withFiles set_id files) := by
  unfold readExactFile
  rw [file_cut, readExact_withFiles hd]

end

/-! ### The files beside the temporary one -/

theorem lt_freshInode {files : Table FileEntry.name} {e : FileEntry} (he : e ∈ files.rows) :
    e.inode < freshInode files := by
  have hle : ∀ inodes : List Nat, ∀ i ∈ inodes, i ≤ inodes.foldr max 0 := by
    intro inodes
    induction inodes with
    | nil => nofun
    | cons j inodes ih =>
      intro i hi
      rw [List.foldr_cons]
      cases List.mem_cons.mp hi with
      | inl h => exact h ▸ le_max_left _ _
      | inr h => exact (ih i h).trans (le_max_right _ _)
  have := hle _ _ (List.mem_map_of_mem (f := FileEntry.inode) he)
  unfold freshInode
  omega

theorem get_of_rows {files beside : Table FileEntry.name} {extra : List FileEntry}
    (hrows : files.rows = beside.rows ++ extra) (name : String) :
    files.get name = (beside.get name).or (extra.find? fun e => decide (e.name = name)) := by
  unfold Table.get
  rw [hrows, List.find?_append]

theorem affected_of_rows {files beside : Table FileEntry.name} {extra : List FileEntry}
    (hrows : files.rows = beside.rows ++ extra) (p : FileEntry → Bool) :
    files.affected p = beside.affected p + extra.countP p := by
  unfold Table.affected
  rw [hrows, List.countP_append]

/-- No other file has the temporary name, or the inode. -/
structure Aside (beside : Table FileEntry.name) (temp : String) (inode : Nat) : Prop where
  name_free : beside.get temp = none
  inode_free : ∀ e ∈ beside.rows, e.inode ≠ inode

namespace Aside

variable {beside files : Table FileEntry.name} {temp name : String} {inode : Nat}
  {bytes : Bytes} {rest : List FileEntry}

theorem fresh (h : beside.get temp = none) : Aside beside temp (freshInode beside) :=
  ⟨h, fun _ he => (lt_freshInode he).ne⟩

theorem get_temp (h : Aside beside temp inode)
    (hrows : files.rows = beside.rows ++ ⟨temp, inode, bytes⟩ :: rest) :
    files.get temp = some ⟨temp, inode, bytes⟩ := by
  rw [get_of_rows hrows, h.name_free]
  simp

/-- The links of the file. -/
theorem links (h : Aside beside temp inode)
    (hrows : files.rows = beside.rows ++ ⟨temp, inode, bytes⟩ :: rest) :
    files.affected (fun e => decide (e.inode = inode)) =
      rest.countP (fun e => decide (e.inode = inode)) + 1 := by
  have hnone : beside.affected (fun e => decide (e.inode = inode)) = 0 := by
    rw [Table.affected_eq_zero_iff]
    intro e he
    exact decide_eq_false (h.inode_free e he)
  rw [affected_of_rows hrows, hnone, List.countP_cons]
  simp

theorem read_temp (h : Aside beside temp inode)
    (hrows : files.rows = beside.rows ++ [⟨temp, inode, bytes⟩]) :
    readFiles files temp = .ok bytes := by
  unfold readFiles
  rw [h.get_temp hrows]
  show (if files.affected (fun e => decide (e.inode = inode)) = 1 then _ else _) = _
  rw [h.links hrows]
  rfl

/-- A file with a second name is not read. -/
theorem read_linked (h : Aside beside temp inode) {e : FileEntry} (he : e.inode = inode)
    (hrows : files.rows = beside.rows ++ [⟨temp, inode, bytes⟩, e]) :
    readFiles files temp = .error .io := by
  unfold readFiles
  rw [h.get_temp hrows]
  show (if files.affected (fun e => decide (e.inode = inode)) = 1 then _ else _) = _
  rw [h.links hrows]
  simp [he]

/-- Another file is read as before. -/
theorem read_beside (h : Aside beside temp inode) {e : FileEntry} (he : beside.get name = some e)
    (hrows : files.rows = beside.rows ++ [⟨temp, inode, bytes⟩]) :
    readFiles files name = readFiles beside name := by
  have hne : ¬ inode = e.inode := fun heq => h.inode_free e (Table.mem_of_get he) heq.symm
  unfold readFiles
  rw [get_of_rows hrows, he]
  simp only [Option.some_or]
  rw [affected_of_rows hrows]
  simp [hne]

theorem push (h : Aside beside temp inode) (byte : UInt8)
    (hrows : files.rows = beside.rows ++ [⟨temp, inode, bytes⟩]) :
    (pushIn inode byte files).2.rows = beside.rows ++ [⟨temp, inode, bytes ++ [byte]⟩] := by
  show files.rows.map _ = _
  rw [hrows, List.map_append]
  congr 1
  · conv => rhs; rw [← List.map_id beside.rows]
    refine List.map_congr_left fun e he => ?_
    simp [h.inode_free e he]
  · simp [FileEntry.push]

theorem link_new (h : Aside beside temp inode) (hname : beside.get name = none)
    (hne : temp ≠ name) (hrows : files.rows = beside.rows ++ [⟨temp, inode, bytes⟩]) :
    ∃ files' : Table FileEntry.name,
      files'.rows = beside.rows ++ [⟨temp, inode, bytes⟩, ⟨name, inode, bytes⟩] ∧
        linkIn temp name files = (.ok true, files') := by
  have hfree : files.get name = none := by
    rw [get_of_rows hrows, hname]
    simp [hne]
  obtain ⟨files', hinsert⟩ := Table.exists_insert (r := (⟨name, inode, bytes⟩ : FileEntry))
    ((Table.get_eq_none_iff _ _).mp hfree)
  refine ⟨files', ?_, ?_⟩
  · rw [((Table.insert_eq_some_iff _ _ _).mp hinsert).2, hrows, List.append_assoc]
    rfl
  · unfold linkIn
    rw [h.get_temp hrows]
    simp only
    rw [hinsert]

theorem link_taken (h : Aside beside temp inode) {e : FileEntry} (he : beside.get name = some e)
    (hrows : files.rows = beside.rows ++ [⟨temp, inode, bytes⟩]) :
    linkIn temp name files = (.ok false, files) := by
  have htaken : files.get (FileEntry.name ⟨name, inode, bytes⟩) = some e := by
    rw [get_of_rows hrows, he]
    rfl
  unfold linkIn
  rw [h.get_temp hrows]
  simp only
  rw [Table.insert_eq_none htaken]

theorem unlink (h : Aside beside temp inode) (hrest : ∀ e ∈ rest, e.name ≠ temp)
    (hrows : files.rows = beside.rows ++ ⟨temp, inode, bytes⟩ :: rest) :
    ∃ files' : Table FileEntry.name, files'.rows = beside.rows ++ rest ∧
      unlinkIn temp files = (.ok (), files') := by
  refine ⟨files.deleteWhere fun e => decide (e.name = temp), ?_, ?_⟩
  · show files.rows.filter _ = _
    rw [hrows, List.filter_append, List.filter_cons]
    have hbeside : beside.rows.filter (fun e => !decide (e.name = temp)) = beside.rows := by
      rw [List.filter_eq_self]
      intro e he
      simpa using (Table.get_eq_none_iff _ _).mp h.name_free e he
    have hkeep : rest.filter (fun e => !decide (e.name = temp)) = rest := by
      rw [List.filter_eq_self]
      intro e he
      simpa using hrest e he
    rw [hbeside, hkeep]
    simp
  · unfold unlinkIn
    rw [h.get_temp hrows]

end Aside

theorem createIn_free {files : Table FileEntry.name} {temp : String}
    (h : files.get temp = none) :
    ∃ files' : Table FileEntry.name,
      files'.rows = files.rows ++ [⟨temp, freshInode files, []⟩] ∧
        createIn temp files = (.ok (some (freshInode files)), files') := by
  obtain ⟨files', hinsert⟩ := Table.exists_insert
    (r := (⟨temp, freshInode files, []⟩ : FileEntry)) ((Table.get_eq_none_iff _ _).mp h)
  refine ⟨files', ((Table.insert_eq_some_iff _ _ _).mp hinsert).2, ?_⟩
  unfold createIn
  rw [hinsert]

theorem createIn_taken {files : Table FileEntry.name} {temp : String} {e : FileEntry}
    (h : files.get temp = some e) : createIn temp files = (.ok none, files) := by
  have htaken : files.get (FileEntry.name ⟨temp, freshInode files, []⟩) = some e := h
  unfold createIn
  rw [Table.insert_eq_none htaken]

/-! ### Runs -/

section

variable {w : SpoolWorld} {set_id temp name : String} {d : SetDir} {inode : Nat}
  {beside files : Table FileEntry.name} {bytes pre : Bytes}

theorem attempt_cut {α : Type} {t : SpoolM α} {inputs rest : List SpoolInput}
    {s s' : SpoolWorld} {r : Except OutputSpoolError α}
    (h : Thread.cut t.run inputs s = (some (r, rest), s')) :
    Thread.cut (SpoolM.attempt t).run inputs s = (some (.ok r, rest), s') := by
  have hrun : (SpoolM.attempt t).run = t.run >>= fun r => pure (Except.ok r) := rfl
  rw [hrun, Thread.cut_bind, h]
  rfl

theorem syncAll_cut (hd : w.files.get set_id = some d) (inputs : List SpoolInput) :
    Thread.cut (syncAll set_id).run (.calm :: inputs) (w.withFiles set_id files) =
      (some (.ok (), inputs), w.withFiles set_id files) :=
  inDir_cut hd inputs

/-- What is written of a file when the writing is cut after `n` bytes. -/
theorem writeAll_cut (hd : w.files.get set_id = some d) (h : Aside beside temp inode)
    (bytes : Bytes) (n : Nat) (hrows : files.rows = beside.rows ++ [⟨temp, inode, pre⟩]) :
    ∃ files' : Table FileEntry.name,
      files'.rows = beside.rows ++ [⟨temp, inode, pre ++ bytes.take n⟩] ∧
        Thread.cut (writeAll set_id inode bytes).run (List.replicate n .calm)
          (w.withFiles set_id files) =
          (if bytes.length ≤ n then some (.ok (), List.replicate (n - bytes.length) .calm)
            else none, w.withFiles set_id files') := by
  induction bytes generalizing files pre n with
  | nil =>
    refine ⟨files, ?_, ?_⟩
    · rw [hrows, List.take_nil, List.append_nil]
    · simp only [List.length_nil, Nat.zero_le, if_true, Nat.sub_zero]
      rfl
  | cons byte bytes ih =>
    cases n with
    | zero =>
      refine ⟨files, ?_, rfl⟩
      rw [hrows, List.take_zero, List.append_nil]
    | succ n =>
      obtain ⟨files', hfiles', hcut⟩ := ih n (h.push byte hrows)
      refine ⟨files', ?_, ?_⟩
      · rw [hfiles', List.append_assoc]
        rfl
      · have hpush : Thread.cut (SpoolM.inDir set_id (pushIn inode byte)).run
            (.calm :: List.replicate n .calm) (w.withFiles set_id files) =
            (some (.ok (), List.replicate n .calm),
              w.withFiles set_id (pushIn inode byte files).2) := inDir_cut hd _
        show Thread.cut (SpoolM.inDir set_id (pushIn inode byte) >>= fun _ =>
          writeAll set_id inode bytes).run (.calm :: List.replicate n .calm) _ = _
        rw [Thread.cut_seq _ _ hpush, hcut]
        simp only [List.length_cons, Nat.add_le_add_iff_right, Nat.add_sub_add_right]

/-- What `writeTemp` leaves when it is cut after the file was created. -/
theorem writeTemp_cut (hd : w.files.get set_id = some d) (hfree : beside.get temp = none)
    (bytes : Bytes) (n : Nat) :
    ∃ files' : Table FileEntry.name,
      files'.rows = beside.rows ++ [⟨temp, freshInode beside, bytes.take n⟩] ∧
        Thread.cut (writeTemp set_id temp bytes).run (List.replicate (n + 1) .calm)
          (w.withFiles set_id beside) =
          (if bytes.length < n then
              some (.ok (), List.replicate (n - (bytes.length + 1)) .calm)
            else none, w.withFiles set_id files') := by
  obtain ⟨created, hcreated, hcreate⟩ := createIn_free hfree
  have hstep : Thread.cut (createNew set_id temp).run (.calm :: List.replicate n .calm)
      (w.withFiles set_id beside) =
      (some (.ok (some (freshInode beside)), List.replicate n .calm),
        w.withFiles set_id created) := by
    unfold createNew
    rw [inDir_cut hd, hcreate]
  obtain ⟨files', hfiles', hwrite⟩ :=
    writeAll_cut hd (Aside.fresh hfree) bytes n hcreated
  refine ⟨files', hfiles', ?_⟩
  show Thread.cut (createNew set_id temp >>= fun found => _).run
    (.calm :: List.replicate n .calm) _ = _
  rw [Thread.cut_seq _ _ hstep]
  show Thread.cut (writeAll set_id (freshInode beside) bytes >>= fun _ => syncAll set_id).run _ _
    = _
  by_cases hle : bytes.length ≤ n
  · rw [if_pos hle] at hwrite
    rw [Thread.cut_seq _ _ hwrite]
    by_cases hlt : bytes.length < n
    · obtain ⟨m, hm⟩ : ∃ m, n - bytes.length = m + 1 := ⟨n - bytes.length - 1, by omega⟩
      have hrest : n - (bytes.length + 1) = m := by omega
      rw [if_pos hlt, hm, hrest]
      exact syncAll_cut hd _
    · have hzero : n - bytes.length = 0 := by omega
      rw [if_neg hlt, hzero]
      rfl
  · rw [if_neg hle] at hwrite
    rw [Thread.cut_stop _ _ hwrite, if_neg (by omega)]

/-- A link that is not cut. -/
theorem hardLink_cut (hd : w.files.get set_id = some d) {files' : Table FileEntry.name}
    {linked : Bool} (h : linkIn temp name files = (.ok linked, files'))
    (inputs : List SpoolInput) :
    Thread.cut (SpoolM.attempt (hardLink set_id temp name)).run (.calm :: inputs)
      (w.withFiles set_id files) =
      (some (.ok (.ok linked), inputs), w.withFiles set_id files') := by
  refine attempt_cut ?_
  unfold hardLink
  rw [inDir_cut hd, h]

theorem unlinkFile_cut (hd : w.files.get set_id = some d) {files' : Table FileEntry.name}
    (h : unlinkIn temp files = (.ok (), files')) (inputs : List SpoolInput) :
    Thread.cut (unlinkFile set_id temp).run (.calm :: inputs) (w.withFiles set_id files) =
      (some (.ok (), inputs), w.withFiles set_id files') := by
  unfold unlinkFile
  rw [inDir_cut hd, h]

/-- The files beside the others when `linkTemp` is cut after `n` calls and there was no
target. -/
def leftLinking (temp name : String) (inode : Nat) (bytes : Bytes) : Nat → List FileEntry
  | 0 => [⟨temp, inode, bytes⟩]
  | 1 => [⟨temp, inode, bytes⟩, ⟨name, inode, bytes⟩]
  | _ => [⟨name, inode, bytes⟩]

theorem linkTemp_cut_new (hd : w.files.get set_id = some d) (h : Aside beside temp inode)
    (hname : beside.get name = none) (hne : temp ≠ name)
    (hrows : files.rows = beside.rows ++ [⟨temp, inode, bytes⟩]) (n : Nat) :
    ∃ files' : Table FileEntry.name,
      files'.rows = beside.rows ++ leftLinking temp name inode bytes n ∧
        Thread.cut (linkTemp set_id temp name bytes).run (List.replicate n .calm)
          (w.withFiles set_id files) =
          (if 3 ≤ n then some (.ok (), List.replicate (n - 3) .calm) else none,
            w.withFiles set_id files') := by
  obtain ⟨linked, hlinked, hlink⟩ := h.link_new hname hne hrows
  obtain ⟨done, hdone, hunlink⟩ := h.unlink (by simpa using hne.symm) hlinked
  match n with
  | 0 => exact ⟨files, hrows, rfl⟩
  | 1 =>
    refine ⟨linked, hlinked, ?_⟩
    exact Thread.cut_seq _ _ (hardLink_cut hd hlink [])
  | 2 =>
    refine ⟨done, hdone, ?_⟩
    refine (Thread.cut_seq _ _ (hardLink_cut hd hlink [.calm])).trans ?_
    exact Thread.cut_seq _ _ (unlinkFile_cut hd hunlink [])
  | n + 3 =>
    refine ⟨done, hdone, ?_⟩
    refine (Thread.cut_seq _ _ (hardLink_cut hd hlink
      (List.replicate (n + 2) .calm))).trans ?_
    refine (Thread.cut_seq _ _ (unlinkFile_cut hd hunlink
      (List.replicate (n + 1) .calm))).trans ?_
    rw [if_pos (by omega)]
    exact syncAll_cut hd (List.replicate n .calm)

/-- The same when the target was there. -/
def leftLinked (temp : String) (inode : Nat) (bytes : Bytes) (n : Nat) : List FileEntry :=
  if n < 3 then [⟨temp, inode, bytes⟩] else []

theorem linkTemp_cut_taken (hd : w.files.get set_id = some d) (h : Aside beside temp inode)
    (hread : readFiles beside name = .ok bytes)
    (hrows : files.rows = beside.rows ++ [⟨temp, inode, bytes⟩]) (n : Nat) :
    ∃ files' : Table FileEntry.name,
      files'.rows = beside.rows ++ leftLinked temp inode bytes n ∧
        Thread.cut (linkTemp set_id temp name bytes).run (List.replicate n .calm)
          (w.withFiles set_id files) =
          (if 4 ≤ n then some (.ok (), List.replicate (n - 4) .calm) else none,
            w.withFiles set_id files') := by
  obtain ⟨e, he⟩ : ∃ e, beside.get name = some e := by
    unfold readFiles at hread
    cases hget : beside.get name with
    | none =>
      rw [hget] at hread
      cases hread
    | some e => exact ⟨e, rfl⟩
  have hlink := h.link_taken he hrows
  have hfound : readFiles files name = .ok bytes := (h.read_beside he hrows).trans hread
  have hlast : ∀ e ∈ ([] : List FileEntry), e.name ≠ temp := by
    intro e he
    cases he
  obtain ⟨done, hdone, hunlink⟩ := h.unlink hlast hrows
  have hread' (inputs : List SpoolInput) : Thread.cut (readExactFile set_id name).run
      (.calm :: inputs) (w.withFiles set_id files) =
      (some (.ok bytes, inputs), w.withFiles set_id files) := by
    rw [readExactFile_cut hd, hfound]
  match n with
  | 0 => exact ⟨files, hrows, rfl⟩
  | 1 =>
    refine ⟨files, hrows, ?_⟩
    exact Thread.cut_seq _ _ (hardLink_cut hd hlink [])
  | 2 =>
    refine ⟨files, hrows, ?_⟩
    refine (Thread.cut_seq _ _ (hardLink_cut hd hlink [.calm])).trans ?_
    exact Thread.cut_seq _ _ (hread' [])
  | 3 =>
    refine ⟨done, hdone, ?_⟩
    refine (Thread.cut_seq _ _ (hardLink_cut hd hlink [.calm, .calm])).trans ?_
    refine (Thread.cut_seq _ _ (hread' [.calm])).trans ?_
    exact Thread.cut_seq _ _ (unlinkFile_cut hd hunlink [])
  | n + 4 =>
    refine ⟨done, ?_, ?_⟩
    · rw [hdone]
      unfold leftLinked
      rw [if_neg (by omega)]
    · refine (Thread.cut_seq _ _ (hardLink_cut hd hlink
        (List.replicate (n + 3) .calm))).trans ?_
      refine (Thread.cut_seq _ _ (hread' (List.replicate (n + 2) .calm))).trans ?_
      refine (Thread.cut_seq _ _ (unlinkFile_cut hd hunlink
        (List.replicate (n + 1) .calm))).trans ?_
      refine (Thread.cut_seq _ _ (syncAll_cut hd (List.replicate n .calm))).trans ?_
      rw [if_pos (by omega)]
      simp [SpoolM.require]

end

/-! ### The retry -/

/-- A directory in which a file may be published: its temporary name is free, and what is there
under its name has one link and the same bytes. -/
structure Publishable (files : Table FileEntry.name) (name : String) (bytes : Bytes) : Prop where
  temp : files.get (tempName name) = none
  target : files.get name = none ∨ readFiles files name = .ok bytes

/-- A directory that holds the published file, and everything else that `before` holds. -/
structure Published (before : Table FileEntry.name) (name : String) (bytes : Bytes)
    (files : Table FileEntry.name) : Prop where
  target : ∃ e, files.get name = some e ∧ e.bytes = bytes ∧
    files.affected (fun e' => decide (e'.inode = e.inode)) = 1
  temp : files.get (tempName name) = none
  others : ∀ other, other ≠ name → files.get other = before.get other

theorem tempName_ne (name : String) : tempName name ≠ name := by
  intro h
  have hlen := congrArg String.length h
  unfold tempName at hlen
  rw [String.length_append, String.length_append] at hlen
  have hdot : ".".length = 1 := rfl
  omega

section

variable {w : SpoolWorld} {set_id name : String} {d : SetDir} {inode : Nat}
  {beside files : Table FileEntry.name} {bytes : Bytes}

theorem readFiles_ok {files : Table FileEntry.name} {name : String} {bytes : Bytes} :
    readFiles files name = .ok bytes ↔ ∃ e, files.get name = some e ∧ e.bytes = bytes ∧
      files.affected (fun e' => decide (e'.inode = e.inode)) = 1 := by
  unfold readFiles
  cases files.get name with
  | none => simp
  | some e =>
    by_cases hone : files.affected (fun e' => decide (e'.inode = e.inode)) = 1
    · simp [hone]
    · simp [hone]

/-- The file under its own name alone. -/
theorem Published.of_rows (h : Aside beside (tempName name) inode)
    (hname : beside.get name = none)
    (hrows : files.rows = beside.rows ++ [⟨name, inode, bytes⟩]) :
    Published beside name bytes files where
  target := by
    have haside : Aside beside name inode := ⟨hname, h.inode_free⟩
    exact readFiles_ok.1 (haside.read_temp hrows)
  temp := by
    rw [get_of_rows hrows, h.name_free]
    simp [(tempName_ne name).symm]
  others := by
    intro other hother
    rw [get_of_rows hrows]
    simp [hother.symm]

theorem Published.of_same (htemp : beside.get (tempName name) = none)
    (hread : readFiles beside name = .ok bytes) (hrows : files.rows = beside.rows) :
    Published beside name bytes files := by
  rw [Table.ext_rows hrows]
  exact ⟨readFiles_ok.1 hread, htemp, fun _ _ => rfl⟩

/-- The second half, with the temporary file in place. -/
theorem linkTemp_alone (hd : w.files.get set_id = some d)
    (h : Aside beside (tempName name) inode)
    (htarget : beside.get name = none ∨ readFiles beside name = .ok bytes)
    (hrows : files.rows = beside.rows ++ [⟨tempName name, inode, bytes⟩]) :
    ∃ files', Published beside name bytes files' ∧
      Thread.alone .calm (linkTemp set_id (tempName name) name bytes).run
        (w.withFiles set_id files) = (.ok (), w.withFiles set_id files') := by
  cases htarget with
  | inl hname =>
    obtain ⟨files', hfiles', hcut⟩ := linkTemp_cut_new hd h hname (tempName_ne name) hrows 3
    exact ⟨files', .of_rows h hname hfiles', Thread.alone_of_cut hcut⟩
  | inr hread =>
    obtain ⟨files', hfiles', hcut⟩ := linkTemp_cut_taken hd h hread hrows 4
    refine ⟨files', .of_same h.name_free hread ?_, Thread.alone_of_cut hcut⟩
    rw [hfiles']
    exact List.append_nil _

/-- **A call that nobody interrupts publishes the file.** -/
theorem publishFile_alone (hd : w.files.get set_id = some d)
    (h : Publishable files name bytes) :
    ∃ files', Published files name bytes files' ∧
      Thread.alone .calm (publishFile set_id name bytes).run (w.withFiles set_id files) =
        (.ok (), w.withFiles set_id files') := by
  obtain ⟨written, hwritten, hcut⟩ :=
    writeTemp_cut hd h.temp bytes (bytes.length + 1)
  rw [if_pos (by omega)] at hcut
  rw [List.take_of_length_le (by omega)] at hwritten
  obtain ⟨files', hpublished, halone⟩ :=
    linkTemp_alone hd (Aside.fresh h.temp) h.target hwritten
  exact ⟨files', hpublished,
    (Thread.alone_seq _ _ _ _ (Thread.alone_of_cut hcut)).trans halone⟩

/-- A temporary file that is there and is read. -/
theorem writeTemp_found (hd : w.files.get set_id = some d) {temp : String} {found : Bytes}
    (hread : readFiles files temp = .ok found) (bytes : Bytes) :
    Thread.alone .calm (writeTemp set_id temp bytes).run (w.withFiles set_id files) =
      (if found = bytes then .ok () else .error .io, w.withFiles set_id files) := by
  obtain ⟨e, he, -, -⟩ := readFiles_ok.1 hread
  have hcreate : Thread.alone .calm (createNew set_id temp).run (w.withFiles set_id files) =
      (.ok none, w.withFiles set_id files) := by
    unfold createNew
    rw [inDir_alone hd, createIn_taken he]
  refine (Thread.alone_seq _ _ _ _ hcreate).trans ?_
  have hfound : Thread.alone .calm (readExactFile set_id temp).run (w.withFiles set_id files) =
      (.ok found, w.withFiles set_id files) := by
    rw [readExactFile_alone hd, hread]
  refine (Thread.alone_seq _ _ _ _ hfound).trans ?_
  by_cases heq : found = bytes
  · simp [SpoolM.require, heq]
  · simp [SpoolM.require, heq]

/-- A temporary file that is there and is not read. -/
theorem writeTemp_refused (hd : w.files.get set_id = some d) {temp : String} {e : FileEntry}
    (he : files.get temp = some e) (hread : readFiles files temp = .error .io)
    (bytes : Bytes) :
    Thread.alone .calm (writeTemp set_id temp bytes).run (w.withFiles set_id files) =
      (.error .io, w.withFiles set_id files) := by
  have hcreate : Thread.alone .calm (createNew set_id temp).run (w.withFiles set_id files) =
      (.ok none, w.withFiles set_id files) := by
    unfold createNew
    rw [inDir_alone hd, createIn_taken he]
  refine (Thread.alone_seq _ _ _ _ hcreate).trans ?_
  refine Thread.alone_stop _ _ _ _ ?_
  rw [readExactFile_alone hd, hread]

/-- The store and the files when `publishFile` is cut after some calls. -/
def crashed (w : SpoolWorld) (set_id name : String) (bytes : Bytes) (calls : Nat) : SpoolWorld :=
  (Thread.cut (publishFile set_id name bytes).run (List.replicate calls .calm) w).2

/-- `publishFile` once more. -/
def retried (w : SpoolWorld) (set_id name : String) (bytes : Bytes) (calls : Nat) :
    Except OutputSpoolError Unit × SpoolWorld :=
  Thread.alone .calm (publishFile set_id name bytes).run (crashed w set_id name bytes calls)

/-- A cut in the first half. -/
theorem crashed_writing (hd : w.files.get set_id = some d)
    (htemp : d.files.get (tempName name) = none) {bytes : Bytes} {written : Nat}
    (hle : written ≤ bytes.length) :
    ∃ files', files'.rows =
        d.files.rows ++ [⟨tempName name, freshInode d.files, bytes.take written⟩] ∧
      crashed w set_id name bytes (written + 1) = w.withFiles set_id files' := by
  obtain ⟨files', hfiles', hcut⟩ := writeTemp_cut hd htemp bytes written
  rw [if_neg (by omega), withFiles_self hd] at hcut
  refine ⟨files', hfiles', ?_⟩
  unfold crashed publishFile
  rw [Thread.cut_stop _ _ hcut]

/-- A cut in the second half is one of `linkTemp`. -/
theorem crashed_linking (hd : w.files.get set_id = some d)
    (htemp : d.files.get (tempName name) = none) (bytes : Bytes) (linking : Nat) :
    ∃ files', files'.rows =
        d.files.rows ++ [⟨tempName name, freshInode d.files, bytes⟩] ∧
      crashed w set_id name bytes (bytes.length + 2 + linking) =
        (Thread.cut (linkTemp set_id (tempName name) name bytes).run
          (List.replicate linking .calm) (w.withFiles set_id files')).2 := by
  obtain ⟨files', hfiles', hcut⟩ :=
    writeTemp_cut hd htemp bytes (bytes.length + 1 + linking)
  have hrest : bytes.length + 1 + linking - (bytes.length + 1) = linking := by omega
  have hcalls : bytes.length + 1 + linking + 1 = bytes.length + 2 + linking := by omega
  rw [if_pos (by omega), withFiles_self hd, hrest, hcalls] at hcut
  rw [List.take_of_length_le (by omega)] at hfiles'
  refine ⟨files', hfiles', ?_⟩
  unfold crashed publishFile
  rw [Thread.cut_seq _ _ hcut]

/-- The temporary file is whole: the retry goes on from there. -/
theorem retry_whole (hd : w.files.get set_id = some d) (h : Publishable d.files name bytes)
    (hinode : ∀ e ∈ d.files.rows, e.inode ≠ inode)
    (hrows : files.rows = d.files.rows ++ [⟨tempName name, inode, bytes⟩]) :
    ∃ files', Published d.files name bytes files' ∧
      Thread.alone .calm (publishFile set_id name bytes).run (w.withFiles set_id files) =
        (.ok (), w.withFiles set_id files') := by
  have haside : Aside d.files (tempName name) inode := ⟨h.temp, hinode⟩
  have hfound := writeTemp_found hd (haside.read_temp hrows) bytes
  rw [if_pos rfl] at hfound
  obtain ⟨files', hpublished, halone⟩ := linkTemp_alone hd haside h.target hrows
  exact ⟨files', hpublished, (Thread.alone_seq _ _ _ _ hfound).trans halone⟩

/-- The file is published: the retry finds it. -/
theorem retry_published (hd : w.files.get set_id = some d)
    (h : Published d.files name bytes files) :
    ∃ files', Published d.files name bytes files' ∧
      Thread.alone .calm (publishFile set_id name bytes).run (w.withFiles set_id files) =
        (.ok (), w.withFiles set_id files') := by
  have hready : Publishable files name bytes := ⟨h.temp, Or.inr (readFiles_ok.2 h.target)⟩
  obtain ⟨files', hagain, halone⟩ := publishFile_alone hd hready
  refine ⟨files', ⟨hagain.target, hagain.temp, ?_⟩, halone⟩
  intro other hother
  rw [hagain.others other hother, h.others other hother]

/-- The first half of the error: **a write that was cut is never taken up again**. -/
theorem retried_torn (hd : w.files.get set_id = some d)
    (htemp : d.files.get (tempName name) = none) {calls : Nat} (hpos : 0 < calls)
    (hle : calls ≤ bytes.length) : (retried w set_id name bytes calls).1 = .error .io := by
  obtain ⟨written, rfl⟩ : ∃ written, calls = written + 1 := ⟨calls - 1, by omega⟩
  obtain ⟨files', hfiles', hcrashed⟩ :=
    crashed_writing hd htemp (Nat.le_of_succ_le hle)
  have hfound := writeTemp_found hd ((Aside.fresh htemp).read_temp hfiles') bytes
  have hne : bytes.take written ≠ bytes := by
    intro heq
    have := congrArg List.length heq
    rw [List.length_take] at this
    omega
  rw [if_neg hne] at hfound
  unfold retried publishFile
  rw [hcrashed, Thread.alone_stop _ _ _ _ hfound]

/-- The second half: **a file that still has both names is refused**. -/
theorem retried_linked (hd : w.files.get set_id = some d)
    (htemp : d.files.get (tempName name) = none) (hname : d.files.get name = none) :
    (retried w set_id name bytes (bytes.length + 3)).1 = .error .io := by
  obtain ⟨files', hfiles', hcrashed⟩ := crashed_linking hd htemp bytes 1
  have haside := Aside.fresh htemp
  obtain ⟨linked, hlinked, hcut⟩ :=
    linkTemp_cut_new hd haside hname (tempName_ne name) hfiles' 1
  have hrefused := writeTemp_refused hd (haside.get_temp hlinked)
    (haside.read_linked rfl hlinked) bytes
  unfold retried publishFile
  rw [hcrashed, hcut, Thread.alone_stop _ _ _ _ hrefused]

/-- The cuts that a retry repairs: not one inside the write, and not the one between the link
and the removal of the temporary name. -/
def Repaired (before : Table FileEntry.name) (name : String) (bytes : Bytes) (calls : Nat) :
    Prop :=
  (calls = 0 ∨ bytes.length < calls) ∧ (before.get name = none → calls ≠ bytes.length + 3)

instance (before : Table FileEntry.name) (name : String) (bytes : Bytes) (calls : Nat) :
    Decidable (Repaired before name bytes calls) :=
  inferInstanceAs (Decidable (_ ∧ _))

/-- Everywhere else the retry ends the work. -/
theorem retried_repaired (hd : w.files.get set_id = some d)
    (h : Publishable d.files name bytes) {calls : Nat}
    (hcalls : Repaired d.files name bytes calls) :
    ∃ files', Published d.files name bytes files' ∧
      retried w set_id name bytes calls = (.ok (), w.withFiles set_id files') := by
  obtain ⟨hwrite, hlink⟩ := hcalls
  have haside := Aside.fresh h.temp
  unfold retried
  by_cases hfirst : calls ≤ bytes.length + 1
  · obtain rfl | rfl : calls = 0 ∨ calls = bytes.length + 1 := by omega
    · -- nothing was done
      have hsame : crashed w set_id name bytes 0 = w.withFiles set_id d.files := by
        rw [withFiles_self hd]
        rfl
      rw [hsame]
      exact publishFile_alone hd h
    · obtain ⟨files', hfiles', hcrashed⟩ :=
        crashed_writing hd h.temp (le_refl bytes.length)
      rw [List.take_length] at hfiles'
      rw [hcrashed]
      exact retry_whole hd h haside.inode_free hfiles'
  · obtain ⟨linking, rfl⟩ : ∃ linking, calls = bytes.length + 2 + linking :=
      ⟨calls - (bytes.length + 2), by omega⟩
    obtain ⟨written, hwritten, hcrashed⟩ := crashed_linking hd h.temp bytes linking
    rw [hcrashed]
    cases h.target with
    | inl hname =>
      have hne : linking ≠ 1 := by
        intro heq
        exact hlink hname (by omega)
      obtain ⟨files', hfiles', hcut⟩ :=
        linkTemp_cut_new hd haside hname (tempName_ne name) hwritten linking
      rw [hcut]
      match linking with
      | 0 => exact retry_whole hd h haside.inode_free hfiles'
      | 1 => exact absurd rfl hne
      | _ + 2 => exact retry_published hd (.of_rows haside hname hfiles')
    | inr hread =>
      obtain ⟨files', hfiles', hcut⟩ := linkTemp_cut_taken hd haside hread hwritten linking
      rw [hcut]
      unfold leftLinked at hfiles'
      by_cases hthree : linking < 3
      · rw [if_pos hthree] at hfiles'
        exact retry_whole hd h haside.inode_free hfiles'
      · rw [if_neg hthree, List.append_nil] at hfiles'
        exact retry_published hd (.of_same h.temp hread hfiles')

/-- **A retry after a cut publishes the file exactly when the cut was neither inside the write
nor between the link and the removal of the temporary name.** -/
theorem publishFile_retry (hd : w.files.get set_id = some d)
    (h : Publishable d.files name bytes) (calls : Nat) :
    ((retried w set_id name bytes calls).1 = .ok () ∧
      ∃ d', (retried w set_id name bytes calls).2.files.get set_id = some d' ∧
        Published d.files name bytes d'.files) ↔ Repaired d.files name bytes calls := by
  constructor
  · rintro ⟨hok, -⟩
    constructor
    · by_contra hcut
      have hpos : 0 < calls := by omega
      have hle : calls ≤ bytes.length := by omega
      have htorn := retried_torn hd h.temp hpos hle
      rw [hok] at htorn
      cases htorn
    · rintro hname rfl
      rw [retried_linked hd h.temp hname] at hok
      cases hok
  · intro hcalls
    obtain ⟨files', hpublished, hretried⟩ := retried_repaired hd h hcalls
    rw [hretried]
    exact ⟨rfl, _, withFiles_get hd, hpublished⟩

end

/-- A set without files. -/
def emptySet (set_id : String) : SpoolWorld where
  db := Db.empty
  files := ⟨[⟨set_id, 0o700, Table.empty⟩], List.nodup_singleton _⟩

theorem emptySet_get (set_id : String) :
    (emptySet set_id).files.get set_id = some ⟨set_id, 0o700, Table.empty⟩ := by
  simp [emptySet, Table.get]

/-- A segment of two bytes that is cut after its link is not published by the retry, and one
whose link is removed is. -/
theorem publishFile_retry_segment :
    ((retried (emptySet "set") "set" "segment-0.bin" [1, 2] 6).1 = .ok () ∧
      ∃ d', (retried (emptySet "set") "set" "segment-0.bin" [1, 2] 6).2.files.get "set" =
        some d' ∧ Published Table.empty "segment-0.bin" [1, 2] d'.files) ∧
    ¬ ((retried (emptySet "set") "set" "segment-0.bin" [1, 2] 5).1 = .ok () ∧
      ∃ d', (retried (emptySet "set") "set" "segment-0.bin" [1, 2] 5).2.files.get "set" =
        some d' ∧ Published Table.empty "segment-0.bin" [1, 2] d'.files) := by
  have hd := emptySet_get "set"
  have h : Publishable (Table.empty : Table FileEntry.name) "segment-0.bin" [1, 2] :=
    ⟨rfl, Or.inl rfl⟩
  exact ⟨(publishFile_retry hd h 6).mpr (by decide),
    fun hbad => absurd ((publishFile_retry hd h 5).mp hbad) (by decide)⟩

/-- Cut after the first of two bytes, and cut after the link: both retries fail. -/
theorem retry_not_published :
    (retried (emptySet "set") "set" "segment-0.bin" [1, 2] 2).1 = .error .io ∧
      (retried (emptySet "set") "set" "segment-0.bin" [1, 2] 5).1 = .error .io := by
  have hd := emptySet_get "set"
  exact ⟨retried_torn hd rfl (by decide) (by decide), retried_linked hd rfl rfl⟩

end GuiguBridge
