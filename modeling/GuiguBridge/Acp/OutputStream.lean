import GuiguBridge.Acp.OutputRoundTrip

/-!
# Output that is written while it comes

The worker of a turn takes the output chunk by chunk, holds less than a segment of it, and writes
every segment that is full (`src/src/acp/output_stream.rs`).

* `StreamingPublisher` — what it holds; `flush`, `append`, `finish`;
* `AppendEnd` — how the loop of `append` may leave off: done, at a subtraction below zero, or with
  its fuel used up;
* `SpoolM.Environmental` — a program that fails only where the store or the file system does;
* `Holding` — the invariant of the loop; `flush_holding`, `appendLoop_ends` — **a flush keeps it,
  and the loop comes to its end**;
* `Streamed`, `append_ends` — **the whole call, after any chunks**.
-/

namespace GuiguBridge

open Relational Interleave Utf8

/-! ### The publisher -/

structure StreamingPublisher where
  set_id : String
  owner : String
  now : String
  buffer : Bytes
  total : Nat
  /-- What the hash of the whole output was given. -/
  aggregate : Bytes
  manifest : Manifest
  deliveries : List DeliveryPart
  /-- What was written of each segment; the source has it on disk. -/
  flushed : List Bytes
  deriving DecidableEq

namespace StreamingPublisher

/-- A publisher that has nothing yet. -/
def start (set_id owner now : String) : StreamingPublisher :=
  { set_id := set_id, owner := owner, now := now, buffer := [], total := 0, aggregate := [],
    manifest := { format := 1, set_id := set_id, total_bytes := 0, total_hash := "",
                  segments := [] },
    deliveries := [], flushed := [] }

/-- `new`. -/
def new (set_id owner now : String) : SpoolM StreamingPublisher := do
  prepareRoot
  prepareSet set_id
  pure (start set_id owner now)

/-- Where the next segment starts. -/
def nextStart (p : StreamingPublisher) : Nat :=
  match p.manifest.segments.getLast? with
  | some segment => segment.stop
  | none => 0

/-- The publisher after a segment was written. -/
def written (p : StreamingPublisher) (digest : String) (deliveries : List DeliveryPart) :
    StreamingPublisher :=
  let segment : ManifestSegment :=
    { index := p.manifest.segments.length, start := p.nextStart,
      stop := p.nextStart + p.buffer.length, hash := digest,
      name := segmentName p.manifest.segments.length }
  { p with buffer := [], deliveries := deliveries,
           manifest := { p.manifest with segments := p.manifest.segments ++ [segment] },
           flushed := p.flushed ++ [p.buffer] }

end StreamingPublisher

/-- How the loop of `append` leaves off. -/
inductive AppendEnd where
  | done (p : StreamingPublisher)
  /-- `target - self.buffer.len()` is below zero. -/
  | underflow
  /-- The loop has not come to its end. -/
  | unfinished
  deriving DecidableEq

namespace StreamingPublisher

section

variable [HashCrates] (spool : OutputSpoolStore) (policy : DurableOutputPolicy)

/-- `flush`. -/
def flush (p : StreamingPublisher) : SpoolM StreamingPublisher :=
  if p.buffer = [] ∧ (p.manifest.segments ≠ [] ∨ 0 < p.total) then pure p
  else do
    let index := p.manifest.segments.length
    let name := segmentName index
    let digest := hash p.buffer
    SpoolM.store (reserveSegment spool p.set_id index p.nextStart p.buffer.length digest name
      p.owner p.now)
    publishFile p.set_id name p.buffer
    SpoolM.store (landSegment p.set_id index p.owner p.now)
    let deliveries ← SpoolM.ofExcept (segmentParts p.set_id policy.matrix_segment_bytes index
      p.nextStart p.buffer p.deliveries)
    pure (p.written digest deliveries)

/-- The loop of `append`. -/
def appendLoop : Nat → StreamingPublisher → Bytes → SpoolM AppendEnd
  | _, p, [] => pure (.done p)
  | 0, _, _ :: _ => pure .unfinished
  | fuel + 1, p, byte :: rest =>
    let target := policy.spool_segment_bytes
    let remaining := byte :: rest
    if target < p.buffer.length then pure .underflow
    else
      let free := target - p.buffer.length
      let take := backTo remaining 0 (min free remaining.length)
      if take = 0 then do
        let p ← flush spool policy p
        appendLoop fuel p remaining
      else
        let p := { p with buffer := p.buffer ++ remaining.take take }
        if p.buffer.length = target then do
          let p ← flush spool policy p
          appendLoop fuel p (remaining.drop take)
        else appendLoop fuel p (remaining.drop take)

/-- `append`. -/
def append (fuel : Nat) (p : StreamingPublisher) (text : String) : SpoolM AppendEnd :=
  if policy.max_output_bytes < min (p.total + (utf8 text).length) (2 ^ 64 - 1) then
    throw (.store .quota)
  else
    appendLoop spool policy fuel
      { p with aggregate := p.aggregate ++ utf8 text, total := p.total + (utf8 text).length }
      (utf8 text)

/-- `finish`. -/
def finish [Externals] (p : StreamingPublisher) : SpoolM Unit := do
  let p ← flush spool policy p
  let manifest := { p.manifest with total_bytes := p.total, total_hash := hash p.aggregate }
  publishFile p.set_id manifestName (manifestBytes manifest)
  SpoolM.store (sealSet p.set_id p.total manifest.total_hash p.deliveries.length p.deliveries
    p.now)

end

end StreamingPublisher

/-! ### What fails -/

namespace SpoolM

variable {α β : Type}

/-- What a statement of the store ends with. -/
theorem store_ends {f : Db → Except OutputStoreError α × Db}
    {log : Except OutputStoreError α → List SpoolEvent} {r : Except OutputSpoolError α}
    (h : (SpoolM.store f log).run.Ends r) :
    (∃ db, r = (f db).1.mapError .store) ∨ r = .error (.store .sql) := by
  obtain ⟨⟨answer, send⟩, w, h⟩ := h
  cases answer with
  | ok => exact Or.inl ⟨w.db, Eq.symm h⟩
  | failed => exact Or.inr (Eq.symm h)
  | lost => exact Or.inr (Eq.symm h)

/-- What a call of the file system ends with. -/
theorem file_ends {f : SpoolFiles → Except OutputSpoolError α × SpoolFiles}
    {log : Except OutputSpoolError α → List SpoolEvent} {r : Except OutputSpoolError α}
    (h : (SpoolM.file f log).run.Ends r) : (∃ fs, r = (f fs).1) ∨ r = .error .io := by
  obtain ⟨⟨answer, send⟩, w, h⟩ := h
  cases answer with
  | ok => exact Or.inl ⟨w.files, Eq.symm h⟩
  | failed => exact Or.inr (Eq.symm h)
  | lost => exact Or.inr (Eq.symm h)

/-- A program that fails only where the store or the file system does. -/
def Environmental (t : SpoolM α) : Prop := ∀ e, t.run.Ends (.error e) → e ≠ .identity

namespace Environmental

theorem pure (a : α) : Environmental (pure a : SpoolM α) := by
  intro e h
  cases h

theorem throw {e : OutputSpoolError} (he : e ≠ .identity) :
    Environmental (throw e : SpoolM α) := by
  intro e' h
  cases h
  exact he

theorem bind {t : SpoolM α} {f : α → SpoolM β} (ht : Environmental t)
    (hf : ∀ a, Environmental (f a)) : Environmental (t >>= f) := by
  intro e h
  obtain ⟨e', he', heq⟩ | ⟨a, -, hrest⟩ := Thread.ends_seq h
  · cases heq
    exact ht e he'
  · exact hf a e hrest

theorem require (c : Bool) : Environmental (SpoolM.require c .io) := by
  cases c with
  | true => exact pure ()
  | false => exact throw nofun

theorem store (f : Db → Except OutputStoreError α × Db)
    (log : Except OutputStoreError α → List SpoolEvent := fun _ => []) :
    Environmental (SpoolM.store f log) := by
  rintro e h rfl
  obtain ⟨db, hr⟩ | hr := store_ends h
  · cases hf : (f db).1 with
    | ok a =>
      rw [hf] at hr
      cases hr
    | error e =>
      rw [hf] at hr
      cases hr
  · cases hr

theorem file {f : SpoolFiles → Except OutputSpoolError α × SpoolFiles}
    {log : Except OutputSpoolError α → List SpoolEvent}
    (hf : ∀ fs, (f fs).1 ≠ .error .identity) : Environmental (SpoolM.file f log) := by
  rintro e h rfl
  obtain ⟨fs, hr⟩ | hr := file_ends h
  · exact hf fs hr.symm
  · cases hr

theorem inDir {set_id : String}
    {f : Table FileEntry.name → Except OutputSpoolError α × Table FileEntry.name}
    (hf : ∀ files, (f files).1 ≠ .error .identity) : Environmental (SpoolM.inDir set_id f) := by
  refine file fun fs => ?_
  unfold SpoolM.onDir
  cases fs.get set_id with
  | none => nofun
  | some d => exact hf d.files

/-- What is attempted never fails, and what it returns is a failure of the program. -/
theorem attempt {t : SpoolM α} (ht : Environmental t) {r : Except OutputSpoolError _}
    (h : (SpoolM.attempt t).run.Ends r) :
    ∃ result, r = .ok result ∧ ∀ e, result = .error e → e ≠ .identity := by
  have hrun : (SpoolM.attempt t).run = t.run >>= fun r => Pure.pure (Except.ok r) := rfl
  rw [hrun, Thread.ends_bind] at h
  obtain ⟨result, hresult, hr⟩ := h
  refine ⟨result, hr.symm, ?_⟩
  rintro e rfl
  exact ht e hresult

end Environmental

end SpoolM

section

variable (set_id temp name : String) (bytes : Bytes)

open SpoolM (Environmental)

theorem readExactFile_environmental : Environmental (readExactFile set_id name) := by
  refine .file fun fs => ?_
  show readExact fs set_id name ≠ _
  unfold readExact
  cases fs.get set_id with
  | none => simp
  | some d =>
    cases hget : d.files.get name with
    | none => simp [hget]
    | some e =>
      by_cases hone : d.nlink e.inode = 1
      · simp [hget, hone]
      · simp [hget, hone]

theorem createNew_environmental : Environmental (createNew set_id name) := by
  refine .inDir fun files => ?_
  unfold createIn
  cases files.insert ⟨name, freshInode files, []⟩ with
  | none => nofun
  | some files' => nofun

theorem hardLink_environmental : Environmental (hardLink set_id temp name) := by
  refine .inDir fun files => ?_
  unfold linkIn
  cases files.get temp with
  | none => nofun
  | some e =>
    simp only
    cases files.insert { e with name := name } with
    | none => nofun
    | some files' => nofun

theorem unlinkFile_environmental : Environmental (unlinkFile set_id name) := by
  refine .inDir fun files => ?_
  unfold unlinkIn
  cases files.get name with
  | none => nofun
  | some e => nofun

theorem syncAll_environmental : Environmental (syncAll set_id) := .inDir fun _ => nofun

theorem writeAll_environmental (inode : Nat) : Environmental (writeAll set_id inode bytes) := by
  induction bytes with
  | nil => exact .pure ()
  | cons byte bytes ih => exact .bind (.inDir fun _ => nofun) fun _ => ih

theorem writeTemp_environmental : Environmental (writeTemp set_id temp bytes) := by
  refine .bind (createNew_environmental set_id temp) fun created => ?_
  cases created with
  | some inode =>
    exact .bind (writeAll_environmental set_id bytes inode) fun _ => syncAll_environmental set_id
  | none => exact .bind (readExactFile_environmental set_id temp) fun _ => .require _

theorem settleTarget_environmental {linked : Except OutputSpoolError Bool}
    (h : ∀ e, linked = .error e → e ≠ .identity) :
    Environmental (settleTarget set_id temp name bytes linked) := by
  cases linked with
  | ok linked =>
    cases linked with
    | true =>
      exact .bind (unlinkFile_environmental set_id temp) fun _ => syncAll_environmental set_id
    | false =>
      refine .bind (readExactFile_environmental set_id name) fun _ => ?_
      refine .bind (unlinkFile_environmental set_id temp) fun _ => ?_
      exact .bind (syncAll_environmental set_id) fun _ => .require _
  | error e =>
    refine .bind ?_ fun _ => .throw (h e rfl)
    intro e' he'
    obtain ⟨result, hresult, -⟩ := Environmental.attempt (unlinkFile_environmental set_id temp) he'
    cases hresult

/-- **Publishing a file fails only where the file system does.** -/
theorem publishFile_environmental : Environmental (publishFile set_id name bytes) := by
  refine .bind (writeTemp_environmental set_id (tempName name) bytes) fun _ => ?_
  intro e he
  obtain ⟨e', he', -⟩ | ⟨linked, hlinked, hrest⟩ := Thread.ends_seq he
  · obtain ⟨result, hresult, -⟩ :=
      Environmental.attempt (hardLink_environmental set_id (tempName name) name) he'
    cases hresult
  · obtain ⟨result, hresult, herror⟩ :=
      Environmental.attempt (hardLink_environmental set_id (tempName name) name) hlinked
    cases hresult
    exact settleTarget_environmental set_id (tempName name) name bytes herror e hrest

end

/-! ### The invariant -/

namespace StreamingPublisher

variable [HashCrates] {spool : OutputSpoolStore} {policy : DurableOutputPolicy}

/-- What the publisher holds when `sofar` was given to it: no more than a segment, in whole
characters that fit, and the rest is written. -/
structure Holding (policy : DurableOutputPolicy) (p : StreamingPublisher) (sofar : Bytes) :
    Prop where
  room : p.buffer.length ≤ policy.spool_segment_bytes
  bytes : p.flushed.flatten ++ p.buffer = sofar
  chars : ∃ cs, p.buffer = encode cs ∧ ∀ c ∈ cs, c.utf8Size ≤ policy.matrix_segment_bytes
  /-- The manifest has the hashes of what was written. -/
  hashes : p.manifest.segments.map ManifestSegment.hash = p.flushed.map hash

theorem Holding.start (set_id owner now : String) : Holding policy (start set_id owner now) [] where
  room := Nat.zero_le _
  bytes := rfl
  chars := ⟨[], rfl, nofun⟩
  hashes := rfl

theorem Holding.written {p : StreamingPublisher} {sofar : Bytes} (h : Holding policy p sofar)
    (parts : List DeliveryPart) : Holding policy (p.written (hash p.buffer) parts) sofar where
  room := Nat.zero_le _
  bytes := by
    show (p.flushed ++ [p.buffer]).flatten ++ [] = sofar
    rw [List.append_nil, List.flatten_append, List.flatten_singleton, h.bytes]
  chars := ⟨[], rfl, nofun⟩
  hashes := by
    show (p.manifest.segments ++ [_]).map ManifestSegment.hash = (p.flushed ++ [p.buffer]).map hash
    rw [List.map_append, List.map_append, h.hashes]
    rfl

/-- Characters that go into the buffer. -/
theorem Holding.taken {p : StreamingPublisher} {sofar : Bytes} (h : Holding policy p sofar)
    (piece : List Char) (hroom : p.buffer.length + (encode piece).length ≤
      policy.spool_segment_bytes) (hfits : ∀ c ∈ piece, c.utf8Size ≤ policy.matrix_segment_bytes) :
    Holding policy { p with buffer := p.buffer ++ encode piece } (sofar ++ encode piece) where
  room := by
    rw [List.length_append]
    exact hroom
  bytes := by
    rw [← List.append_assoc, h.bytes]
  chars := by
    obtain ⟨cs, hcs, hall⟩ := h.chars
    refine ⟨cs ++ piece, by rw [encode_append, hcs], ?_⟩
    intro c hc
    exact (List.mem_append.mp hc).elim (hall c) (hfits c)
  hashes := h.hashes

/-- The parts of a segment in whole characters that fit. -/
theorem segmentParts_ok (set_id : String) {max : Nat} (index start : Nat) {cs : List Char}
    (hfits : ∀ c ∈ cs, c.utf8Size ≤ max) (parts : List DeliveryPart) :
    ∃ parts', segmentParts set_id max index start (encode cs) parts = .ok parts' := by
  obtain ⟨pieces, -, -, hranges, -⟩ := utf8Ranges_encode cs hfits
  unfold segmentParts
  rw [hranges]
  exact ⟨_, rfl⟩

/-- **Where nothing fails, a flush writes the buffer.** -/
theorem flush_new {w : SpoolWorld} {d : SetDir} {db : Db} {files : Table FileEntry.name}
    {p : StreamingPublisher} {parts : List DeliveryPart} (spool : OutputSpoolStore)
    (hd : w.files.get p.set_id = some d) (hasm : db.assembling p.set_id = true)
    (hfree : ∀ r ∈ db.acpOutputSegments.rows, r.set_id = p.set_id →
      r.segment_index ≠ p.manifest.segments.length ∧
        r.relative_name ≠ segmentName p.manifest.segments.length)
    (hres : 0 ≤ db.acpOutputQuota.reserved_bytes) (hland : 0 ≤ db.acpOutputQuota.landed_bytes)
    (hroom : db.acpOutputQuota.reserved_bytes + db.acpOutputQuota.landed_bytes + p.buffer.length ≤
      spool.quota_limit) (hend : p.nextStart + p.buffer.length < 2 ^ 63)
    (htemp : files.get (tempName (segmentName p.manifest.segments.length)) = none)
    (hname : files.get (segmentName p.manifest.segments.length) = none) (hbuffer : p.buffer ≠ [])
    (hparts : segmentParts p.set_id policy.matrix_segment_bytes p.manifest.segments.length
      p.nextStart p.buffer p.deliveries = .ok parts) :
    ∃ w', Thread.alone .calm (flush spool policy p).run (w.at p.set_id db files) =
      (.ok (p.written (hash p.buffer) parts), w') := by
  obtain ⟨reserved, t, files', -, -, hreserve, hpublish, hlanded⟩ := reserve_publish_land spool
    p.owner p.now p.manifest.segments.length p.nextStart p.buffer hd hasm hfree hres hland hroom
    hend htemp hname
  refine ⟨w.at p.set_id (db.withSegments t db.acpOutputQuota.reserved_bytes
    (db.acpOutputQuota.landed_bytes + p.buffer.length) (db.acpOutputQuota.revision + 1 + 1))
    files', ?_⟩
  unfold flush
  rw [if_neg fun hempty => hbuffer hempty.1]
  refine (Thread.alone_seq _ _ _ _ (store_alone hreserve _)).trans ?_
  refine (Thread.alone_seq _ _ _ _ hpublish).trans ?_
  refine (Thread.alone_seq _ _ _ _ (store_alone hlanded _)).trans ?_
  rw [hparts]
  rfl

/-- **A flush writes the buffer**, or the store or the file system fails. -/
theorem flush_holding {p : StreamingPublisher} {sofar : Bytes} (h : Holding policy p sofar)
    {r : Except OutputSpoolError StreamingPublisher} (hr : (flush spool policy p).run.Ends r) :
    (∃ e, r = .error e ∧ e ≠ .identity) ∨
      ∃ p', r = .ok p' ∧ Holding policy p' sofar ∧ p'.buffer = [] ∧ p'.total = p.total := by
  unfold flush at hr
  split at hr
  · rename_i hempty
    cases hr
    exact Or.inr ⟨p, rfl, h, hempty.1, rfl⟩
  · obtain ⟨cs, hcs, hfits⟩ := h.chars
    obtain ⟨parts, hparts⟩ := segmentParts_ok p.set_id p.manifest.segments.length p.nextStart
      hfits p.deliveries
    obtain ⟨e, he, rfl⟩ | ⟨_, -, hr⟩ := Thread.ends_seq hr
    · exact Or.inl ⟨e, rfl, SpoolM.Environmental.store _ _ e he⟩
    obtain ⟨e, he, rfl⟩ | ⟨_, -, hr⟩ := Thread.ends_seq hr
    · exact Or.inl ⟨e, rfl, publishFile_environmental _ _ _ e he⟩
    obtain ⟨e, he, rfl⟩ | ⟨_, -, hr⟩ := Thread.ends_seq hr
    · exact Or.inl ⟨e, rfl, SpoolM.Environmental.store _ _ e he⟩
    rw [← hcs] at hparts
    rw [hparts] at hr
    cases hr
    exact Or.inr ⟨_, rfl, h.written parts, rfl, rfl⟩

/-- How many rounds the loop may still take: each takes a character, or empties the buffer before
one that does. -/
def rounds (p : StreamingPublisher) (remaining : Bytes) : Nat :=
  2 * remaining.length + if p.buffer = [] then 0 else 1

/-- How the loop may end; `short` when it may run out of fuel. -/
inductive LoopEnds (policy : DurableOutputPolicy) (total : Nat) (sofar : Bytes) (short : Prop) :
    Except OutputSpoolError AppendEnd → Prop where
  | failed {e : OutputSpoolError} (he : e ≠ .identity) : LoopEnds policy total sofar short (.error e)
  | done {p : StreamingPublisher} (h : Holding policy p sofar) (htotal : p.total = total) :
      LoopEnds policy total sofar short (.ok (.done p))
  | unfinished (h : short) : LoopEnds policy total sofar short (.ok .unfinished)

theorem LoopEnds.mono {total : Nat} {sofar : Bytes} {short short' : Prop}
    {r : Except OutputSpoolError AppendEnd} (h : LoopEnds policy total sofar short r)
    (hshort : short → short') : LoopEnds policy total sofar short' r := by
  cases h with
  | failed he => exact .failed he
  | done h htotal => exact .done h htotal
  | unfinished h => exact .unfinished (hshort h)

/-- A flush in the loop, and the loop after it. -/
theorem flush_loop {p : StreamingPublisher} {sofar rest : Bytes} {fuel : Nat} {short : Prop}
    {r : Except OutputSpoolError AppendEnd} (h : Holding policy p sofar)
    (hloop : ∀ p', Holding policy p' sofar → p'.buffer = [] → p'.total = p.total →
      (appendLoop spool policy fuel p' rest).run.Ends r →
      LoopEnds policy p.total (sofar ++ rest) short r)
    (hr : (flush spool policy p >>= fun p =>
      appendLoop spool policy fuel p rest).run.Ends r) :
    LoopEnds policy p.total (sofar ++ rest) short r := by
  obtain ⟨e, he, rfl⟩ | ⟨p', hp', hr⟩ := Thread.ends_seq hr
  · obtain ⟨e', heq, hne⟩ | ⟨_, heq, -⟩ := flush_holding h he
    · cases heq
      exact .failed hne
    · cases heq
  · obtain ⟨_, heq, -⟩ | ⟨_, heq, hholds, hempty, htotal⟩ := flush_holding h hp'
    · cases heq
    · cases heq
      exact hloop p' hholds hempty htotal hr

/-- One round. -/
theorem appendLoop_succ (p : StreamingPublisher) {remaining : Bytes} (hne : remaining ≠ [])
    (fuel : Nat) : appendLoop spool policy (fuel + 1) p remaining =
      if policy.spool_segment_bytes < p.buffer.length then pure .underflow
      else
        let take := backTo remaining 0
          (min (policy.spool_segment_bytes - p.buffer.length) remaining.length)
        if take = 0 then
          flush spool policy p >>= fun p => appendLoop spool policy fuel p remaining
        else
          let p := { p with buffer := p.buffer ++ remaining.take take }
          if p.buffer.length = policy.spool_segment_bytes then
            flush spool policy p >>= fun p =>
              appendLoop spool policy fuel p (remaining.drop take)
          else appendLoop spool policy fuel p (remaining.drop take) := by
  cases remaining with
  | nil => exact absurd rfl hne
  | cons byte rest => rfl

/-- **The loop comes to its end**, with everything written or held, when it has the fuel. -/
theorem appendLoop_ends {p : StreamingPublisher} {sofar : Bytes} {chars : List Char} {fuel : Nat}
    (h : Holding policy p sofar) (hfits : ∀ c ∈ chars,
      c.utf8Size ≤ policy.spool_segment_bytes ∧ c.utf8Size ≤ policy.matrix_segment_bytes)
    {r : Except OutputSpoolError AppendEnd}
    (hr : (appendLoop spool policy fuel p (encode chars)).run.Ends r) :
    LoopEnds policy p.total (sofar ++ encode chars) (fuel < p.rounds (encode chars)) r := by
  induction fuel generalizing p sofar chars with
  | zero =>
    cases hbytes : encode chars with
    | nil =>
      rw [hbytes] at hr
      cases hr
      rw [List.append_nil]
      exact .done h rfl
    | cons byte rest =>
      rw [hbytes] at hr
      cases hr
      refine .unfinished ?_
      unfold rounds
      rw [List.length_cons]
      omega
  | succ fuel ih =>
    cases chars with
    | nil =>
      cases hr
      rw [encode_nil, List.append_nil]
      exact .done h rfl
    | cons c tail =>
      have hsize := c.utf8Size_pos
      obtain ⟨hspool, hmatrix⟩ := hfits c List.mem_cons_self
      have hlen : (encode (c :: tail)).length = c.utf8Size + (encode tail).length := by
        rw [encode_cons, List.length_append, String.length_utf8EncodeChar]
      have hroom := h.room
      obtain ⟨piece, rest, hsplit, hback, hle, hsome⟩ := backTo_split [] (c :: tail)
        (n := min (policy.spool_segment_bytes - p.buffer.length) (encode (c :: tail)).length)
        (Nat.zero_le _)
      simp only [List.nil_append, encode_nil, List.length_nil, Nat.zero_add] at hback hle hsome
      have hbytes : encode (c :: tail) = encode piece ++ encode rest := by
        rw [hsplit, encode_append]
      have hne : encode (c :: tail) ≠ [] := fun hnil => by
        rw [hnil, List.length_nil] at hlen
        omega
      rw [appendLoop_succ p hne, if_neg (by omega)] at hr
      simp only [hback] at hr
      by_cases hpiece : piece = []
      · -- nothing fits: the buffer is not empty, and it is written
        have hfull : p.buffer ≠ [] := by
          intro hempty
          rw [hempty, List.length_nil] at hsome
          exact hsome c tail rfl (by omega) hpiece
        rw [hpiece, encode_nil, List.length_nil, if_pos rfl] at hr
        refine flush_loop h (fun p' hp' hempty htotal hrest => ?_) hr
        rw [← htotal]
        refine (ih hp' hfits hrest).mono ?_
        unfold rounds
        rw [if_neg hfull, if_pos hempty]
        omega
      · have hpos : 0 < (encode piece).length := by
          have hnil := mt encode_eq_nil.1 hpiece
          exact List.length_pos_iff.mpr hnil
        have hpieceFits : ∀ d ∈ piece, d.utf8Size ≤ policy.matrix_segment_bytes := fun d hd =>
          (hfits d (hsplit ▸ List.mem_append_left _ hd)).2
        have hrestFits : ∀ d ∈ rest, d.utf8Size ≤ policy.spool_segment_bytes ∧
            d.utf8Size ≤ policy.matrix_segment_bytes := fun d hd =>
          hfits d (hsplit ▸ List.mem_append_right _ hd)
        have htake : (encode (c :: tail)).take (encode piece).length = encode piece := by
          rw [hbytes, List.take_left']
          rfl
        have hdrop : (encode (c :: tail)).drop (encode piece).length = encode rest := by
          rw [hbytes, List.drop_left']
          rfl
        have htaken := h.taken piece (by omega) hpieceFits
        have hmeasure : 2 * (encode rest).length + 2 ≤ p.rounds (encode (c :: tail)) := by
          unfold rounds
          rw [hbytes, List.length_append]
          omega
        rw [if_neg (by omega), htake, hdrop] at hr
        rw [hbytes] at hmeasure ⊢
        rw [← List.append_assoc]
        show LoopEnds policy ({ p with buffer := p.buffer ++ encode piece } :
          StreamingPublisher).total _ _ r
        split at hr
        · refine flush_loop htaken (fun p' hp' hempty htotal hrest => ?_) hr
          rw [← htotal]
          refine (ih hp' hrestFits hrest).mono fun hshort => ?_
          unfold rounds at hshort
          rw [if_pos hempty] at hshort
          omega
        · refine (ih htaken hrestFits hr).mono fun hshort => ?_
          unfold rounds at hshort
          split at hshort
          · omega
          · omega

/-! ### Any chunks -/

/-- A publisher after some chunks, each of which was taken. -/
inductive Streamed (spool : OutputSpoolStore) (policy : DurableOutputPolicy)
    (set_id owner now : String) : StreamingPublisher → Bytes → Prop where
  | start : Streamed spool policy set_id owner now (start set_id owner now) []
  | append {p p' : StreamingPublisher} {sofar : Bytes} (fuel : Nat) (text : String)
      (h : Streamed spool policy set_id owner now p sofar)
      (hr : (append spool policy fuel p text).run.Ends (.ok (.done p'))) :
      Streamed spool policy set_id owner now p' (sofar ++ utf8 text)

/-- One call of `append`: two rounds a byte are fuel enough. -/
theorem append_holding (hderived : policy.Derived) {p : StreamingPublisher} {sofar : Bytes}
    (h : Holding policy p sofar) (htotal : p.total = sofar.length) {text : String} {fuel : Nat}
    {r : Except OutputSpoolError AppendEnd} (hr : (append spool policy fuel p text).run.Ends r) :
    (r = .error (.store .quota) ∧ policy.max_output_bytes < sofar.length + (utf8 text).length) ∨
      LoopEnds policy (sofar ++ utf8 text).length (sofar ++ utf8 text)
        (fuel ≤ 2 * (utf8 text).length) r := by
  unfold append at hr
  split at hr
  · rename_i hover
    cases hr
    exact Or.inl ⟨rfl, by omega⟩
  · rename_i hmax
    have hquota : policy.max_output_bytes ≤ processQuota := hderived.process ▸ hderived.quota
    have hsmall : processQuota < 2 ^ 64 - 1 := by decide
    have hfits : ∀ c ∈ text.toList, c.utf8Size ≤ policy.spool_segment_bytes ∧
        c.utf8Size ≤ policy.matrix_segment_bytes := by
      intro c hc
      refine hderived.fits c.utf8Size_le_four ?_
      have hlen : c.utf8Size ≤ (utf8 text).length := size_le_encode hc
      omega
    have hp : Holding policy ({ p with aggregate := p.aggregate ++ utf8 text,
                                       total := p.total + (utf8 text).length } :
        StreamingPublisher) sofar := ⟨h.room, h.bytes, h.chars, h.hashes⟩
    refine Or.inr ?_
    rw [List.length_append, ← htotal]
    refine (appendLoop_ends hp hfits hr).mono fun hshort => ?_
    unfold rounds at hshort
    have hlen : (encode text.toList).length = (utf8 text).length := rfl
    split at hshort
    · omega
    · omega

theorem Streamed.holding (hderived : policy.Derived) {set_id owner now : String}
    {p : StreamingPublisher} {sofar : Bytes}
    (h : Streamed spool policy set_id owner now p sofar) :
    Holding policy p sofar ∧ p.total = sofar.length := by
  induction h with
  | start => exact ⟨.start set_id owner now, rfl⟩
  | append fuel text _ hr ih =>
    obtain ⟨heq, -⟩ | hends := append_holding hderived ih.1 ih.2 hr
    · cases heq
    · cases hends with
      | done h htotal => exact ⟨h, htotal⟩

/-- **After any chunks, `append` refuses what is too long, or fails where a flush does, or comes to
its end with no more than a segment in the buffer and every byte written or held.** -/
theorem append_ends {turn_max : Nat} (hpolicy : DurableOutputPolicy.derive turn_max = some policy)
    {set_id owner now : String} {p : StreamingPublisher} {sofar : Bytes}
    (hp : Streamed spool policy set_id owner now p sofar) (text : String) {fuel : Nat}
    (hfuel : 2 * (utf8 text).length < fuel) {r : Except OutputSpoolError AppendEnd}
    (hr : (append spool policy fuel p text).run.Ends r) :
    (r = .error (.store .quota) ∧ turn_max < sofar.length + (utf8 text).length) ∨
      (∃ e, r = .error e ∧ (e = .io ∨ ∃ s, e = .store s)) ∨
      ∃ p', r = .ok (.done p') ∧ p'.buffer.length ≤ policy.spool_segment_bytes ∧
        p'.flushed.flatten ++ p'.buffer = sofar ++ utf8 text ∧
        p'.manifest.segments.map ManifestSegment.hash = p'.flushed.map hash := by
  obtain ⟨hderived, rfl⟩ := DurableOutputPolicy.derived hpolicy
  obtain ⟨hholds, htotal⟩ := hp.holding hderived
  obtain hquota | hends := append_holding hderived hholds htotal hr
  · exact Or.inl hquota
  · cases hends with
    | @failed e he =>
      refine Or.inr (Or.inl ⟨e, rfl, ?_⟩)
      cases e with
      | io => exact Or.inl rfl
      | store s => exact Or.inr ⟨s, rfl⟩
      | identity => exact absurd rfl he
    | done h => exact Or.inr (Or.inr ⟨_, rfl, h.room, h.bytes, h.hashes⟩)
    | unfinished hshort => omega

end StreamingPublisher

section

open StreamingPublisher

/-- A publisher with a chunk in its buffer. -/
def filled : StreamingPublisher :=
  { start "set" "owner" "now" with buffer := [97, 98], total := 2, aggregate := [97, 98] }

/-- A chunk that fills the segment of a turn of two bytes is written. -/
theorem append_ends_flushed :
    ∃ p', (append ⟨processQuota, by decide⟩ (.ofTurn 2) 5 (start "set" "owner" "now") "ab").run.Ends
        (.ok (.done p')) ∧ p'.flushed = [[97, 98]] ∧ p'.buffer.length ≤ 2 ∧
      p'.flushed.flatten ++ p'.buffer = [97, 98] := by
  have hderive : DurableOutputPolicy.derive 2 = some (.ofTurn 2) := by decide
  have hfits : ∀ c ∈ ['a', 'b'], c.utf8Size ≤ 2 := by
    intro c hc
    rcases List.mem_pair.mp hc with rfl | rfl
    · decide
    · decide
  obtain ⟨parts, hparts⟩ := segmentParts_ok "set" 0 0 hfits []
  obtain ⟨w', hflush⟩ : ∃ w', Thread.alone .calm
      (flush ⟨processQuota, by decide⟩ (.ofTurn 2) filled).run
      ((assemblingSet "set").at "set" (assemblingSet "set").db Table.empty) =
        (.ok (filled.written (hash [97, 98]) parts), w') :=
    flush_new ⟨processQuota, by decide⟩ (emptySet_get "set")
      (assemblingSet_unpublished "set").db_assembling nofun (Int.le_refl 0) (Int.le_refl 0)
      (by decide) (by decide) rfl rfl (by simp [filled]) hparts
  have hrun : (append ⟨processQuota, by decide⟩ (.ofTurn 2) 5 (start "set" "owner" "now")
      "ab").run.Ends (.ok (.done (filled.written (hash [97, 98]) parts))) := by
    have hends := Thread.ends_alone .calm (append ⟨processQuota, by decide⟩ (.ofTurn 2) 5
      (start "set" "owner" "now") "ab").run (assemblingSet "set")
    have halone : Thread.alone .calm (append ⟨processQuota, by decide⟩ (.ofTurn 2) 5
        (start "set" "owner" "now") "ab").run (assemblingSet "set") =
        (.ok (.done (filled.written (hash [97, 98]) parts)), w') :=
      (Thread.alone_seq _ _ _ _ hflush).trans rfl
    rw [halone] at hends
    exact hends
  obtain ⟨hquota, -⟩ | ⟨e, herror, -⟩ | ⟨p', hdone, hroom, hbytes, -⟩ :=
    append_ends hderive .start "ab" (by decide) hrun
  · cases hquota
  · cases herror
  · cases hdone
    exact ⟨_, hrun, rfl, hroom, hbytes⟩

/-- A chunk that fills the segment fails with the statement that reserves it. -/
theorem append_store_failed :
    DurableOutputPolicy.derive 2 = some (.ofTurn 2) ∧
      ∃ r, (append ⟨processQuota, by decide⟩ (.ofTurn 2) 5 (start "set" "owner" "now")
        "ab").run.Ends r ∧ r ≠ .error (.store .quota) ∧ ∀ p', r ≠ .ok (.done p') :=
  ⟨by decide, .error (.store .sql), ⟨⟨.failed, .ok ()⟩, ⟨Db.empty, Table.empty⟩, rfl⟩, nofun, nofun⟩

end

end GuiguBridge
