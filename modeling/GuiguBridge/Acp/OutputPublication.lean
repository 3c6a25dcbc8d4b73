import GuiguBridge.Acp.OutputParts
import GuiguBridge.Acp.PublishFile
import GuiguBridge.Storage.OutputSeal

/-!
# Publishing a whole output

A set that was left assembling is published from the text that its task completed with
(`publish`, `publish_segment` and `delivery_parts` of `src/src/acp/output.rs`).

* `publishSegment`, `deliveryParts`, `publish` — the functions;
* `SpoolWorld.at` — a world with another store and other files in the directory of one set;
* `Stored` — the files of a directory, all of which are read;
* `publishSegment_new`, `publishSegments_new` — the segments of a set that had none;
* `Cut`, `exists_cuts` — the pieces of a segment, and that every segment has them;
* `outputParts` — the parts of all segments; `deliveryParts_cuts` — they are what `delivery_parts`
  builds; `outputParts_lie` — **each lies in its segment, with the bytes of its piece**;
* `publish_new` — **the files, the rows and the set after a publication**.
-/

namespace GuiguBridge

open Relational Interleave Utf8 Tiling

/-! ### The functions -/

/-- `segment`. -/
def Db.segmentAt (db : Db) (set_id : String) (index : Nat) : Option OutputSegment :=
  (db.acpOutputSegments.get (set_id, index)).map decodeSegment

/-- `exists`. -/
def fileExists (set_id name : String) : SpoolM Bool :=
  SpoolM.file fun fs => (.ok (fs.file set_id name).isSome, fs)

section

variable [HashCrates] (spool : OutputSpoolStore) (policy : DurableOutputPolicy)
  (set_id owner now : String)

/-- The end of `publish_segment`: what the state of the segment asks for. -/
def settleSegment (index start : Nat) (content : Bytes) (segment : OutputSegment) : SpoolM Unit := do
  let name := segmentName index
  match segment.state with
  | .reserved => do
    let there ← SpoolM.attempt (fileExists set_id name)
    if there = .ok true then do
      let bytes ← readSegment segment
      SpoolM.require (bytes = content) .identity
      SpoolM.store (landSegment set_id index owner now)
    else do
      SpoolM.store (releaseReserved set_id index owner)
      SpoolM.store (reserveSegment spool set_id index start content.length (hash content) name owner
        now)
      publishFile set_id name content
      SpoolM.store (landSegment set_id index owner now)
  | .landed => do
    let bytes ← readSegment segment
    SpoolM.require (bytes = content) .identity
  | _ => throw .identity

/-- `publish_segment`. -/
def publishSegment (index start : Nat) (content : Bytes) : SpoolM Unit := do
  let name := segmentName index
  let digest := hash content
  let known ← SpoolM.store fun db => (.ok (db.segmentAt set_id index), db)
  if known.isNone then
    SpoolM.store (reserveSegment spool set_id index start content.length digest name owner now)
  let found ← SpoolM.store fun db => (.ok (db.segmentAt set_id index), db)
  let segment ← SpoolM.some? found .identity
  SpoolM.require (segment.byte_start = start ∧ segment.byte_end = start + content.length ∧
    segment.content_hash = digest ∧ segment.relative_name = name) .identity
  if segment.state = .reserved ∧ segment.reservation_owner ≠ owner then
    SpoolM.store (adoptReserved set_id index owner)
  settleSegment spool set_id owner now index start content segment

/-- The loop of `publish` over the ranges. -/
def publishSegments (bytes : Bytes) :
    Nat → List (Nat × Nat) → List ManifestSegment → SpoolM (List ManifestSegment)
  | _, [], segments => pure segments
  | index, (start, stop) :: rest, segments => do
    let content := slice bytes start stop
    publishSegment spool set_id owner now index start content
    publishSegments bytes (index + 1) rest (segments ++
      [{ index := index, start := start, stop := stop, hash := hash content,
         name := segmentName index }])

/-- The loop of `delivery_parts` over the ranges. -/
def deliveryPartsFrom (bytes : Bytes) :
    Nat → List (Nat × Nat) → List DeliveryPart → Except OutputSpoolError (List DeliveryPart)
  | _, [], parts => .ok parts
  | spool_index, (start, stop) :: rest, parts => do
    let parts ← segmentParts set_id policy.matrix_segment_bytes spool_index start
      (slice bytes start stop) parts
    deliveryPartsFrom bytes (spool_index + 1) rest parts

/-- `delivery_parts`. -/
def deliveryParts (bytes : Bytes) (ranges : List (Nat × Nat)) :
    Except OutputSpoolError (List DeliveryPart) :=
  deliveryPartsFrom policy set_id bytes 0 ranges []

/-- `publish`. -/
def publish [Externals] (bytes : Bytes) : SpoolM Unit := do
  prepareRoot
  prepareSet set_id
  let ranges ← SpoolM.ofExcept (utf8Ranges bytes policy.spool_segment_bytes)
  let segments ← publishSegments spool set_id owner now bytes 0 ranges []
  let manifest : Manifest :=
    { format := 1, set_id := set_id, total_bytes := bytes.length, total_hash := hash bytes,
      segments := segments }
  publishFile set_id manifestName (manifestBytes manifest)
  let deliveries ← SpoolM.ofExcept (deliveryParts policy set_id bytes ranges)
  SpoolM.store (sealSet set_id bytes.length manifest.total_hash deliveries.length deliveries now)

end

/-! ### Store and files -/

/-- Another store, and other files in the directory of a set. -/
def SpoolWorld.at (w : SpoolWorld) (set_id : String) (db : Db) (files : Table FileEntry.name) :
    SpoolWorld :=
  ({ w with db := db } : SpoolWorld).withFiles set_id files

section

variable {w : SpoolWorld} {set_id : String} {d : SetDir} {db : Db} {files : Table FileEntry.name}

theorem store_alone {α : Type} {f : Db → Except OutputStoreError α × Db} {a : α} {db' : Db}
    (h : f db = (.ok a, db')) (log : Except OutputStoreError α → List SpoolEvent) :
    Thread.alone .calm (SpoolM.store f log).run (w.at set_id db files) =
      (.ok a, w.at set_id db' files) := by
  show ((f db).1.mapError OutputSpoolError.store, w.at set_id (f db).2 files) = _
  rw [h]
  rfl

/-- A segment is looked up. -/
theorem segmentAt_alone {index : Nat} {found : Option OutputSegment}
    (h : db.segmentAt set_id index = found) :
    Thread.alone .calm (SpoolM.store fun db => (.ok (db.segmentAt set_id index), db)).run
      (w.at set_id db files) = (.ok found, w.at set_id db files) := by
  subst h
  rfl

theorem require_alone {c : Bool} (hc : c = true) (e : OutputSpoolError) (s : SpoolWorld) :
    Thread.alone .calm (SpoolM.require c e).run s = (.ok (), s) := by
  subst hc
  rfl

theorem fileExists_alone (db : Db) (files : Table FileEntry.name)
    (hd : w.files.get set_id = some d) (name : String) :
    Thread.alone .calm (SpoolM.attempt (fileExists set_id name)).run (w.at set_id db files) =
      (.ok (.ok (files.get name).isSome), w.at set_id db files) := by
  have hfile : (w.at set_id db files).files.file set_id name = files.get name := by
    unfold SpoolFiles.file
    have hget : (w.at set_id db files).files.get set_id = some { d with files := files } :=
      SpoolFiles.get_modify hd _
    rw [hget]
    rfl
  show (Except.ok (Except.ok ((w.at set_id db files).files.file set_id name).isSome), _) = _
  rw [hfile]
  rfl

/-- A file that was not there is written beside the others. -/
theorem publishFile_new (db : Db) (hd : w.files.get set_id = some d) {name : String}
    (htemp : files.get (tempName name) = none) (hname : files.get name = none) (bytes : Bytes) :
    ∃ files' : Table FileEntry.name, files'.rows = files.rows ++ [⟨name, freshInode files, bytes⟩] ∧
      Thread.alone .calm (publishFile set_id name bytes).run (w.at set_id db files) =
        (.ok (), w.at set_id db files') := by
  have hd' : ({ w with db := db } : SpoolWorld).files.get set_id = some d := hd
  obtain ⟨written, hwritten, hcut⟩ := writeTemp_cut hd' htemp bytes (bytes.length + 1)
  rw [if_pos (by omega)] at hcut
  rw [List.take_of_length_le (by omega)] at hwritten
  obtain ⟨files', hfiles', hlink⟩ :=
    linkTemp_cut_new hd' (Aside.fresh htemp) hname (tempName_ne name) hwritten 3
  exact ⟨files', hfiles', (Thread.alone_seq _ _ _ _ (Thread.alone_of_cut hcut)).trans
    (Thread.alone_of_cut hlink)⟩

/-- The files of a directory, each of which is read. -/
structure Stored (files : Table FileEntry.name) (contents : List (String × Bytes)) : Prop where
  names : files.rows.map FileEntry.name = contents.map Prod.fst
  read : ∀ c ∈ contents, readFiles files c.1 = .ok c.2

theorem Stored.get_none {contents : List (String × Bytes)} (h : Stored files contents)
    {name : String} (hname : ∀ c ∈ contents, c.1 ≠ name) : files.get name = none := by
  rw [Table.get_eq_none_iff]
  intro e he heq
  have hmem : e.name ∈ contents.map Prod.fst := h.names ▸ List.mem_map_of_mem he
  obtain ⟨c, hc, hcname⟩ := List.mem_map.mp hmem
  exact hname c hc (hcname.trans heq)

/-- One file more. -/
theorem Stored.snoc {contents : List (String × Bytes)} (h : Stored files contents) {name : String}
    (hname : ∀ c ∈ contents, c.1 ≠ name) {bytes : Bytes} {files' : Table FileEntry.name}
    (hrows : files'.rows = files.rows ++ [⟨name, freshInode files, bytes⟩]) :
    Stored files' (contents ++ [(name, bytes)]) where
  names := by
    rw [hrows, List.map_append, List.map_append, h.names]
    rfl
  read := by
    have haside : Aside files name (freshInode files) := Aside.fresh (h.get_none hname)
    intro c hc
    cases List.mem_append.mp hc with
    | inl hold =>
      obtain ⟨e, he, -⟩ := readFiles_ok.1 (h.read c hold)
      rw [haside.read_beside he hrows]
      exact h.read c hold
    | inr hnew =>
      rw [List.mem_singleton.mp hnew]
      exact haside.read_temp hrows

/-- The segment that was just reserved. -/
theorem segmentAt_last {before : List SegmentRow} {row : SegmentRow}
    (hrows : db.acpOutputSegments.rows = before ++ [row]) :
    db.segmentAt row.set_id row.segment_index = some (decodeSegment row) := by
  have hmem : row ∈ db.acpOutputSegments.rows := by
    rw [hrows]
    exact List.mem_append_right _ (List.mem_singleton_self row)
  unfold Db.segmentAt
  rw [show (row.set_id, row.segment_index) = row.key from rfl, Table.get_of_mem hmem]
  rfl

section

variable [HashCrates]

/-- The row of a published segment. -/
def landedRow (set_id owner now : String) (index start : Nat) (content : Bytes) : SegmentRow :=
  (reservedRow set_id index start content.length (hash content) (segmentName index) owner now).land
    now

/-- A segment of which there is nothing is reserved, written and landed. -/
theorem reserve_publish_land (spool : OutputSpoolStore) (owner now : String) (index start : Nat)
    (content : Bytes) (hd : w.files.get set_id = some d) (hasm : db.assembling set_id = true)
    (hfree : ∀ r ∈ db.acpOutputSegments.rows, r.set_id = set_id →
      r.segment_index ≠ index ∧ r.relative_name ≠ segmentName index)
    (hres : 0 ≤ db.acpOutputQuota.reserved_bytes) (hland : 0 ≤ db.acpOutputQuota.landed_bytes)
    (hroom : db.acpOutputQuota.reserved_bytes + db.acpOutputQuota.landed_bytes + content.length ≤
      spool.quota_limit) (hend : start + content.length < 2 ^ 63)
    (htemp : files.get (tempName (segmentName index)) = none)
    (hname : files.get (segmentName index) = none) :
    ∃ (reserved : Db) (t : Table SegmentRow.key) (files' : Table FileEntry.name),
      t.rows = db.acpOutputSegments.rows ++ [landedRow set_id owner now index start content] ∧
      files'.rows = files.rows ++ [⟨segmentName index, freshInode files, content⟩] ∧
      reserveSegment spool set_id index start content.length (hash content) (segmentName index)
        owner now db = (.ok (), reserved) ∧
      Thread.alone .calm (publishFile set_id (segmentName index) content).run
        (w.at set_id reserved files) = (.ok (), w.at set_id reserved files') ∧
      landSegment set_id index owner now reserved =
        (.ok (), db.withSegments t db.acpOutputQuota.reserved_bytes
          (db.acpOutputQuota.landed_bytes + content.length)
          (db.acpOutputQuota.revision + 1 + 1)) := by
  have hlimit := spool.quota_limit_lt
  obtain ⟨t, ht, hreserve⟩ := reserveSegment_new spool db set_id index start content.length
    (hash content) (segmentName index) owner now hasm hfree hres hland hroom hend
  let reserved := db.withSegments t (db.acpOutputQuota.reserved_bytes + content.length)
    db.acpOutputQuota.landed_bytes (db.acpOutputQuota.revision + 1)
  obtain ⟨files', hfiles', hpublish⟩ := publishFile_new reserved hd htemp hname content
  have hrows : reserved.acpOutputSegments.rows = db.acpOutputSegments.rows ++
    [reservedRow set_id index start content.length (hash content) (segmentName index) owner now] := ht
  obtain ⟨t', ht', hlanded⟩ := landSegment_last now (fun r hr hset => (hfree r hr hset).1) hrows
    (by show (content.length : Int) ≤ db.acpOutputQuota.reserved_bytes + content.length; omega)
    hland
    (by
      show db.acpOutputQuota.reserved_bytes + content.length + db.acpOutputQuota.landed_bytes <
        2 ^ 63
      omega)
  have hback : db.acpOutputQuota.reserved_bytes + content.length - content.length =
      db.acpOutputQuota.reserved_bytes := by omega
  refine ⟨reserved, t', files', ht', hfiles', hreserve, hpublish, ?_⟩
  rw [hlanded]
  show (_, db.withSegments t' (db.acpOutputQuota.reserved_bytes + content.length -
    content.length) _ _) = _
  rw [hback]
  rfl

/-- **A segment of which there was nothing is published**: its row is landed and its file is there. -/
theorem publishSegment_new (spool : OutputSpoolStore) (owner now : String) (index start : Nat)
    (content : Bytes) (hd : w.files.get set_id = some d) (hasm : db.assembling set_id = true)
    (hfree : ∀ r ∈ db.acpOutputSegments.rows, r.set_id = set_id →
      r.segment_index ≠ index ∧ r.relative_name ≠ segmentName index)
    (hres : 0 ≤ db.acpOutputQuota.reserved_bytes) (hland : 0 ≤ db.acpOutputQuota.landed_bytes)
    (hroom : db.acpOutputQuota.reserved_bytes + db.acpOutputQuota.landed_bytes + content.length ≤
      spool.quota_limit) (hend : start + content.length < 2 ^ 63)
    (htemp : files.get (tempName (segmentName index)) = none)
    (hname : files.get (segmentName index) = none) :
    ∃ (t : Table SegmentRow.key) (files' : Table FileEntry.name) (revision : Nat),
      t.rows = db.acpOutputSegments.rows ++ [landedRow set_id owner now index start content] ∧
      files'.rows = files.rows ++ [⟨segmentName index, freshInode files, content⟩] ∧
      Thread.alone .calm (publishSegment spool set_id owner now index start content).run
          (w.at set_id db files) =
        (.ok (), w.at set_id (db.withSegments t db.acpOutputQuota.reserved_bytes
          (db.acpOutputQuota.landed_bytes + content.length) revision) files') := by
  have hlimit := spool.quota_limit_lt
  let row := reservedRow set_id index start content.length (hash content) (segmentName index) owner now
  have hindex : ∀ r ∈ db.acpOutputSegments.rows, r.set_id = set_id → r.segment_index ≠ index :=
    fun r hr hset => (hfree r hr hset).1
  -- the segment is reserved, given back, and reserved again
  obtain ⟨t₁, ht₁, hreserve₁⟩ := reserveSegment_new spool db set_id index start
    content.length (hash content) (segmentName index) owner now hasm hfree hres hland hroom hend
  let db₁ := db.withSegments t₁ (db.acpOutputQuota.reserved_bytes + content.length)
    db.acpOutputQuota.landed_bytes (db.acpOutputQuota.revision + 1)
  have hrows₁ : db₁.acpOutputSegments.rows = db.acpOutputSegments.rows ++ [row] := ht₁
  obtain ⟨t₂, ht₂, hrelease⟩ := releaseReserved_last hindex hrows₁
    (by show (content.length : Int) ≤ db.acpOutputQuota.reserved_bytes + content.length; omega)
    hland
    (by show db.acpOutputQuota.reserved_bytes + content.length < 2 ^ 63; omega)
    (by show db.acpOutputQuota.landed_bytes < 2 ^ 63; omega)
  have hback : db.acpOutputQuota.reserved_bytes + content.length - content.length =
      db.acpOutputQuota.reserved_bytes := by omega
  let db₂ := db.withSegments t₂ db.acpOutputQuota.reserved_bytes db.acpOutputQuota.landed_bytes
    (db.acpOutputQuota.revision + 1 + 1)
  have hrelease' : releaseReserved set_id index owner db₁ = (.ok (), db₂) := by
    rw [hrelease]
    show (_, db.withSegments t₂ (db.acpOutputQuota.reserved_bytes + content.length -
      content.length) _ _) = _
    rw [hback]
    rfl
  obtain ⟨db₃, t₃, files', ht₃, hfiles', hreserve₃, hpublish, hland'⟩ :=
    reserve_publish_land spool owner now index start content hd
      (show db₂.assembling set_id = true from hasm)
      (by
        show ∀ r ∈ t₂.rows, _
        rw [ht₂]
        exact hfree)
      hres hland hroom hend htemp hname
  have hrows : t₃.rows =
      db.acpOutputSegments.rows ++ [landedRow set_id owner now index start content] := by
    rw [← ht₂]
    exact ht₃
  refine ⟨t₃, files', db.acpOutputQuota.revision + 1 + 1 + 1 + 1, hrows, hfiles', ?_⟩
  have hunknown : db.segmentAt set_id index = none := by
    unfold Db.segmentAt
    rw [Option.map_eq_none_iff, Table.get_eq_none_iff]
    intro r hr hkey
    have hkey' : (r.set_id, r.segment_index) = (set_id, index) := hkey
    rw [Prod.mk.injEq] at hkey'
    exact hindex r hr hkey'.1 hkey'.2
  have hknown : db₁.segmentAt set_id index = some (decodeSegment row) :=
    segmentAt_last hrows₁
  have hexists := fileExists_alone db₁ files hd (segmentName index)
  rw [hname] at hexists
  refine (Thread.alone_seq _ _ _ _ (segmentAt_alone hunknown)).trans ?_
  refine (Thread.alone_seq _ _ _ _ (store_alone hreserve₁ _)).trans ?_
  refine (Thread.alone_seq _ _ _ _ (segmentAt_alone hknown)).trans ?_
  refine (Thread.alone_seq _ _ _ _ (a := decodeSegment row) rfl).trans ?_
  refine (Thread.alone_seq _ _ _ _ (require_alone (decide_eq_true ⟨rfl, rfl, rfl, rfl⟩) _ _)).trans ?_
  have howner : ¬ ((decodeSegment row).state = .reserved ∧
      (decodeSegment row).reservation_owner ≠ owner) := fun h => h.2 rfl
  rw [if_neg howner]
  refine (Thread.alone_seq _ _ _ _ hexists).trans ?_
  refine (Thread.alone_seq _ _ _ _ (store_alone hrelease' _)).trans ?_
  refine (Thread.alone_seq _ _ _ _ (store_alone hreserve₃ _)).trans ?_
  refine (Thread.alone_seq _ _ _ _ hpublish).trans ?_
  exact store_alone hland' _

end

end

/-! ### Names -/

theorem segmentName_inj {i j : Nat} (h : segmentName i = segmentName j) : i = j := by
  have hchars := congrArg String.toList h
  unfold segmentName at hchars
  rw [String.toList_append, String.toList_append, String.toList_append, String.toList_append] at hchars
  have hdigits := List.append_cancel_left (List.append_cancel_right hchars)
  have hlist (n : Nat) : (toString n).toList = Nat.toDigits 10 n := by
    show (Nat.repr n).toList = _
    unfold Nat.repr
    exact String.toList_ofList
  rw [hlist, hlist] at hdigits
  have hread (n : Nat) : Json.readNat (Nat.toDigits 10 n ++ []) = some (n, []) :=
    Json.readNat_toDigits n nofun
  have hsame := hread i
  rw [hdigits, hread j] at hsame
  exact (congrArg Prod.fst (Option.some.inj hsame)).symm

theorem segmentName_head (i : Nat) : (segmentName i).toList.head? = some 's' := by
  unfold segmentName
  rw [String.toList_append, String.toList_append]
  rfl

theorem tempName_head (name : String) : (tempName name).toList.head? = some '.' := by
  unfold tempName
  rw [String.toList_append, String.toList_append]
  rfl

theorem tempName_ne_segmentName (name : String) (i : Nat) : segmentName i ≠ tempName name := by
  intro h
  have := segmentName_head i
  rw [h, tempName_head] at this
  cases this

theorem segmentName_ne_manifestName (i : Nat) : segmentName i ≠ manifestName := by
  intro h
  have := segmentName_head i
  rw [h] at this
  cases this

/-! ### All segments -/

/-- The bytes that a piece takes. -/
def width (piece : List Char) : Nat := (encode piece).length

theorem sum_width (pieces : List (List Char)) :
    (pieces.map width).sum = (encode pieces.flatten).length := by
  rw [encode_flatten, List.length_flatten, List.map_map]
  rfl

/-- A segment before or while its set is published: where its rows and files are, and the room that
is left for those to come. -/
structure Publishing (spool : OutputSpoolStore) (set_id : String) (index room : Nat) (db : Db)
    (files : Table FileEntry.name) (contents : List (String × Bytes)) : Prop where
  assembling : db.assembling set_id = true
  rows : ∀ r ∈ db.acpOutputSegments.rows, r.set_id = set_id →
    r.segment_index < index ∧ r.relative_name = segmentName r.segment_index
  reserved : 0 ≤ db.acpOutputQuota.reserved_bytes
  landed : 0 ≤ db.acpOutputQuota.landed_bytes
  quota : db.acpOutputQuota.reserved_bytes + db.acpOutputQuota.landed_bytes + room ≤
    spool.quota_limit
  stored : Stored files contents
  names : ∀ c ∈ contents, ∃ i < index, c.1 = segmentName i

theorem Publishing.get_none {spool : OutputSpoolStore} {set_id : String} {index room : Nat} {db : Db}
    {files : Table FileEntry.name} {contents : List (String × Bytes)}
    (h : Publishing spool set_id index room db files contents) :
    files.get (tempName (segmentName index)) = none ∧ files.get (segmentName index) = none := by
  constructor
  · refine h.stored.get_none fun c hc => ?_
    obtain ⟨i, -, hname⟩ := h.names c hc
    rw [hname]
    exact tempName_ne_segmentName _ i
  · refine h.stored.get_none fun c hc => ?_
    obtain ⟨i, hlt, hname⟩ := h.names c hc
    rw [hname]
    intro heq
    have := segmentName_inj heq
    omega

section

variable [HashCrates] {w : SpoolWorld} {set_id owner now : String} {d : SetDir}
  {spool : OutputSpoolStore}

/-- What a published segment leaves behind. -/
def pieceRow (set_id owner now : String) (x : Placed (List Char)) : SegmentRow :=
  landedRow set_id owner now x.index x.start (encode x.item)

/-- The segment in the manifest. -/
def pieceSegment (x : Placed (List Char)) : ManifestSegment :=
  { index := x.index, start := x.start, stop := x.start + width x.item,
    hash := hash (encode x.item), name := segmentName x.index }

/-- The file of a segment. -/
def pieceFile (x : Placed (List Char)) : String × Bytes := (segmentName x.index, encode x.item)

/-- **The loop publishes every piece.** -/
theorem publishSegments_new (owner now : String) (hd : w.files.get set_id = some d) {bytes pre : Bytes}
    {pieces : List (List Char)} (hbytes : bytes = pre ++ encode pieces.flatten)
    (hend : bytes.length < 2 ^ 63) {index : Nat} {db : Db} {files : Table FileEntry.name}
    {contents : List (String × Bytes)}
    (h : Publishing spool set_id index (encode pieces.flatten).length db files contents)
    (segments : List ManifestSegment) :
    ∃ (t : Table SegmentRow.key) (files' : Table FileEntry.name) (landed : Int) (revision : Nat),
      t.rows = db.acpOutputSegments.rows ++
        (place width index pre.length pieces).map (pieceRow set_id owner now) ∧
      Stored files' (contents ++ (place width index pre.length pieces).map pieceFile) ∧
      Thread.alone .calm (publishSegments spool set_id owner now bytes index
          (offsets pre.length pieces) segments).run (w.at set_id db files) =
        (.ok (segments ++ (place width index pre.length pieces).map pieceSegment),
          w.at set_id (db.withSegments t db.acpOutputQuota.reserved_bytes landed revision) files') := by
  induction pieces generalizing index pre db files contents segments with
  | nil =>
    refine ⟨db.acpOutputSegments, files, db.acpOutputQuota.landed_bytes, db.acpOutputQuota.revision,
      (List.append_nil _).symm, ?_, ?_⟩
    · rw [place_nil, List.map_nil, List.append_nil]
      exact h.stored
    · rw [place_nil, List.map_nil, List.append_nil]
      rfl
  | cons piece rest ih =>
    have hlen : (encode (piece :: rest).flatten).length =
        (encode piece).length + (encode rest.flatten).length := by
      rw [List.flatten_cons, encode_append, List.length_append]
    have hslice : slice bytes pre.length (pre.length + (encode piece).length) = encode piece := by
      rw [hbytes, List.flatten_cons, encode_append, ← List.append_assoc]
      exact slice_append pre (encode piece) _
    have hbytes' : bytes = (pre ++ encode piece) ++ encode rest.flatten := by
      rw [hbytes, List.flatten_cons, encode_append, List.append_assoc]
    have htotal : bytes.length = pre.length + (encode piece).length + (encode rest.flatten).length := by
      rw [hbytes', List.length_append, List.length_append]
    obtain ⟨htemp, hname⟩ := h.get_none
    have hquota := h.quota
    have hlanded := h.landed
    obtain ⟨t, files', revision, ht, hfiles', halone⟩ := publishSegment_new spool owner now
      index pre.length (encode piece) hd h.assembling
      (by
        intro r hr hset
        obtain ⟨hlt, hrel⟩ := h.rows r hr hset
        refine ⟨by omega, ?_⟩
        rw [hrel]
        intro heq
        have := segmentName_inj heq
        omega)
      h.reserved h.landed (by omega) (by omega) htemp hname
    have hnext : Publishing spool set_id (index + 1) (encode rest.flatten).length
        (db.withSegments t db.acpOutputQuota.reserved_bytes
          (db.acpOutputQuota.landed_bytes + (encode piece).length) revision) files'
        (contents ++ [(segmentName index, encode piece)]) := by
      refine ⟨h.assembling, ?_, h.reserved, ?_, ?_, ?_, ?_⟩
      · intro r hr hset
        have hr' : r ∈ t.rows := hr
        rw [ht] at hr'
        cases List.mem_append.mp hr' with
        | inl hold =>
          obtain ⟨hlt, hrel⟩ := h.rows r hold hset
          exact ⟨by omega, hrel⟩
        | inr hnew =>
          rw [List.mem_singleton.mp hnew]
          exact ⟨Nat.lt_succ_self index, rfl⟩
      · show 0 ≤ db.acpOutputQuota.landed_bytes + (encode piece).length
        omega
      · show db.acpOutputQuota.reserved_bytes +
          (db.acpOutputQuota.landed_bytes + (encode piece).length) + (encode rest.flatten).length ≤ _
        omega
      · refine h.stored.snoc ?_ hfiles'
        intro c hc heq
        have hnone := h.get_none.2
        obtain ⟨i, hlt, hname⟩ := h.names c hc
        have := segmentName_inj (hname.symm.trans heq)
        omega
      · intro c hc
        cases List.mem_append.mp hc with
        | inl hold =>
          obtain ⟨i, hlt, hname⟩ := h.names c hold
          exact ⟨i, by omega, hname⟩
        | inr hnew =>
          rw [List.mem_singleton.mp hnew]
          exact ⟨index, Nat.lt_succ_self index, rfl⟩
    obtain ⟨u, files'', landed, revision', hu, hstored, hrest⟩ := ih hbytes' hnext (segments ++
      [{ index := index, start := pre.length, stop := pre.length + (encode piece).length,
         hash := hash (encode piece), name := segmentName index }])
    rw [List.length_append] at hu hstored hrest
    refine ⟨u, files'', landed, revision', ?_, ?_, ?_⟩
    · rw [hu]
      show t.rows ++ _ = _
      rw [ht, List.append_assoc]
      rfl
    · rw [List.append_assoc] at hstored
      exact hstored
    · show Thread.alone .calm (publishSegments spool set_id owner now bytes index
        ((pre.length, pre.length + (encode piece).length) :: offsets _ rest) segments).run _ = _
      unfold publishSegments
      simp only [hslice]
      refine (Thread.alone_seq _ _ _ _ halone).trans ?_
      rw [hrest, List.append_assoc]
      rfl

end

/-! ### All parts -/

/-- The pieces of a segment. -/
structure Cut (max : Nat) (pieces : List (List Char)) : Prop where
  ranges : utf8Ranges (encode pieces.flatten) max = .ok (offsets 0 pieces)
  fits : ∀ piece ∈ pieces, (encode piece).length ≤ max
  some : pieces.flatten ≠ [] → ∀ piece ∈ pieces, piece ≠ []

/-- Every segment of characters that fit has its pieces. -/
theorem exists_cuts (max : Nat) (segments : List (List Char))
    (hfits : ∀ segment ∈ segments, ∀ c ∈ segment, c.utf8Size ≤ max) :
    ∃ cuts : List (List (List Char)), cuts.map List.flatten = segments ∧
      ∀ pieces ∈ cuts, Cut max pieces := by
  induction segments with
  | nil => exact ⟨[], rfl, nofun⟩
  | cons segment rest ih =>
    rw [List.forall_mem_cons] at hfits
    obtain ⟨cuts, hcuts, hall⟩ := ih hfits.2
    obtain ⟨pieces, hflat, -, hranges, hpieces⟩ := utf8Ranges_encode segment hfits.1
    refine ⟨pieces :: cuts, by rw [List.map_cons, hflat, hcuts], ?_⟩
    rw [List.forall_mem_cons]
    refine ⟨⟨hflat ▸ hranges, fun piece hp => (hpieces piece hp).2, ?_⟩, hall⟩
    intro hne piece hp
    exact (hpieces piece hp).1 (hflat ▸ hne)

section

variable [HashCrates] (set_id : String)

/-- The part that a piece of a segment becomes. -/
def piecePart (spool_index : Nat) (x : Placed (List Char)) : DeliveryPart :=
  { index := x.index, spool_index := spool_index, byte_start := x.start,
    byte_end := (x.start + width x.item : Nat), content_hash := hash (encode x.item),
    stable_txn_id := stableTxn set_id x.index (hash (encode x.item)) }

theorem foldl_partAt (spool_index start : Nat) {content : Bytes} (pre post : Bytes)
    {pieces : List (List Char)} (hcontent : content = pre ++ encode pieces.flatten ++ post)
    (parts : List DeliveryPart) :
    (offsets pre.length pieces).foldl (fun parts range =>
        parts ++ [partAt set_id spool_index start content parts.length range]) parts =
      parts ++ (place width parts.length (start + pre.length) pieces).map
        (piecePart set_id spool_index) := by
  induction pieces generalizing pre parts with
  | nil => exact (List.append_nil parts).symm
  | cons piece rest ih =>
    have hcontent' : content = (pre ++ encode piece) ++ encode rest.flatten ++ post := by
      rw [hcontent, List.flatten_cons, encode_append, ← List.append_assoc]
    have hslice : slice content pre.length (pre.length + (encode piece).length) = encode piece := by
      rw [hcontent', List.append_assoc (pre ++ encode piece)]
      exact slice_append pre (encode piece) _
    have hrest := ih (pre ++ encode piece) hcontent' (parts ++ [partAt set_id spool_index start content parts.length
      (pre.length, pre.length + (encode piece).length)])
    rw [List.length_append, List.length_append, List.length_singleton, ← Nat.add_assoc] at hrest
    have hpart : partAt set_id spool_index start content parts.length
        (pre.length, pre.length + (encode piece).length) =
          piecePart set_id spool_index ⟨parts.length, start + pre.length, piece⟩ := by
      unfold partAt piecePart width
      simp only [hslice, Nat.add_assoc]
    rw [hpart] at hrest
    unfold offsets
    rw [List.foldl_cons, hpart, hrest, List.append_assoc]
    rfl

/-- The parts of one segment. -/
theorem segmentParts_cut {max : Nat} {pieces : List (List Char)} (h : Cut max pieces)
    (spool_index start : Nat) (parts : List DeliveryPart) :
    segmentParts set_id max spool_index start (encode pieces.flatten) parts =
      .ok (parts ++ (place width parts.length start pieces).map (piecePart set_id spool_index)) := by
  unfold segmentParts
  rw [h.ranges]
  have hfold := foldl_partAt set_id spool_index start [] []
    (List.append_nil (encode pieces.flatten)).symm parts
  exact congrArg Except.ok hfold

/-- The parts of all segments. -/
def outputParts : Nat → Nat → Nat → List (List (List Char)) → List DeliveryPart
  | _, _, _, [] => []
  | spool_index, index, start, pieces :: rest =>
    (place width index start pieces).map (piecePart set_id spool_index) ++
      outputParts (spool_index + 1) (index + pieces.length) (start + (encode pieces.flatten).length)
        rest

theorem deliveryPartsFrom_cuts {policy : DurableOutputPolicy} {bytes : Bytes} (pre : Bytes)
    {cuts : List (List (List Char))} (hcuts : ∀ pieces ∈ cuts, Cut policy.matrix_segment_bytes pieces)
    (hbytes : bytes = pre ++ encode (cuts.map List.flatten).flatten) (spool_index : Nat)
    (parts : List DeliveryPart) :
    deliveryPartsFrom policy set_id bytes spool_index (offsets pre.length (cuts.map List.flatten))
        parts = .ok (parts ++ outputParts set_id spool_index parts.length pre.length cuts) := by
  induction cuts generalizing pre spool_index parts with
  | nil => exact congrArg Except.ok (List.append_nil parts).symm
  | cons pieces rest ih =>
    rw [List.forall_mem_cons] at hcuts
    have hbytes' : bytes = (pre ++ encode pieces.flatten) ++
        encode (rest.map List.flatten).flatten := by
      rw [hbytes, List.map_cons, List.flatten_cons, encode_append, List.append_assoc]
    have hslice : slice bytes pre.length (pre.length + (encode pieces.flatten).length) =
        encode pieces.flatten := by
      rw [hbytes']
      exact slice_append pre (encode pieces.flatten) _
    have hrest := ih (pre ++ encode pieces.flatten) hcuts.2 hbytes' (spool_index + 1) (parts ++
      (place width parts.length pre.length pieces).map (piecePart set_id spool_index))
    rw [List.length_append, List.length_append, List.length_map, length_place] at hrest
    rw [List.map_cons]
    unfold offsets deliveryPartsFrom
    rw [hslice, segmentParts_cut set_id hcuts.1]
    refine hrest.trans ?_
    rw [List.append_assoc]
    rfl

/-- **`delivery_parts` builds the parts of all segments.** -/
theorem deliveryParts_cuts {policy : DurableOutputPolicy} {cuts : List (List (List Char))}
    (hcuts : ∀ pieces ∈ cuts, Cut policy.matrix_segment_bytes pieces) :
    deliveryParts policy set_id (encode (cuts.map List.flatten).flatten)
      (offsets 0 (cuts.map List.flatten)) = .ok (outputParts set_id 0 0 0 cuts) :=
  deliveryPartsFrom_cuts set_id [] hcuts rfl 0 []

/-- The parts tile what their segments hold. -/
theorem outputParts_tiles (spool_index index start : Nat) (cuts : List (List (List Char))) :
    Tiles index start (start + (encode (cuts.map List.flatten).flatten).length : Nat)
      ((outputParts set_id spool_index index start cuts).map DeliveryPart.span) := by
  induction cuts generalizing spool_index index start with
  | nil => rfl
  | cons pieces rest ih =>
    unfold outputParts
    rw [List.map_append, List.map_map, List.map_cons, List.flatten_cons, encode_append,
      List.length_append]
    have hplace := place_tiles width index start pieces
    rw [sum_width] at hplace
    refine tiles_append hplace ?_
    rw [List.length_map, length_place]
    have hrest := ih (spool_index + 1) (index + pieces.length)
      (start + (encode pieces.flatten).length)
    rw [Nat.add_assoc] at hrest
    exact_mod_cast hrest

/-- A part that lies in a segment, with the bytes of a piece. -/
def Lies (segments : List (Placed (List Char))) (p : DeliveryPart) (piece : List Char) : Prop :=
  ∃ x ∈ segments, ∃ pre post, x.item = pre ++ piece ++ post ∧ p.spool_index = x.index ∧
    p.byte_start = (x.start + width pre : Nat) ∧
    p.byte_end = (x.start + width pre + width piece : Nat) ∧
    p.content_hash = hash (encode piece)

theorem pieces_lie {segments : List (Placed (List Char))} (x : Placed (List Char))
    (hx : x ∈ segments) (pre : List Char) {pieces : List (List Char)}
    (hitem : x.item = pre ++ pieces.flatten) (index : Nat) :
    List.Forall₂ (Lies segments)
      ((place width index (x.start + width pre) pieces).map (piecePart set_id x.index)) pieces := by
  induction pieces generalizing pre index with
  | nil => exact .nil
  | cons piece rest ih =>
    have hitem' : x.item = (pre ++ piece) ++ rest.flatten := by
      rw [hitem, List.flatten_cons, List.append_assoc]
    have hrest := ih (pre ++ piece) hitem' (index + 1)
    have hwidth : x.start + width (pre ++ piece) = x.start + width pre + width piece := by
      unfold width
      rw [encode_append, List.length_append, Nat.add_assoc]
    rw [hwidth] at hrest
    exact .cons ⟨x, hx, pre, rest.flatten, hitem', rfl, rfl, rfl, rfl⟩ hrest

/-- **Every part lies in its segment, with the bytes of its piece.** -/
theorem outputParts_lie (spool_index index start : Nat) (cuts : List (List (List Char))) :
    List.Forall₂ (Lies (place width spool_index start (cuts.map List.flatten)))
      (outputParts set_id spool_index index start cuts) cuts.flatten := by
  induction cuts generalizing spool_index index start with
  | nil => exact .nil
  | cons pieces rest ih =>
    unfold outputParts
    rw [List.map_cons, List.flatten_cons, place_cons]
    refine List.rel_append ?_ ?_
    · exact pieces_lie set_id ⟨spool_index, start, pieces.flatten⟩ List.mem_cons_self [] rfl index
    · refine (ih _ _ _).imp ?_
      rintro p piece ⟨x, hx, hrest⟩
      exact ⟨x, List.mem_cons_of_mem _ hx, hrest⟩

/-- The part that a piece became. -/
theorem outputParts_getElem (cuts : List (List (List Char))) {n : Nat} {p : DeliveryPart}
    (h : (outputParts set_id 0 0 0 cuts)[n]? = some p) :
    ∃ piece, cuts.flatten[n]? = some piece ∧
      Lies (place width 0 0 (cuts.map List.flatten)) p piece := by
  obtain ⟨hlen, hget⟩ := List.forall₂_iff_get.mp (outputParts_lie set_id 0 0 0 cuts)
  obtain ⟨hlt, hp⟩ := List.getElem?_eq_some_iff.mp h
  have hlt' : n < cuts.flatten.length := hlen ▸ hlt
  refine ⟨cuts.flatten.get ⟨n, hlt'⟩, List.getElem?_eq_getElem hlt', ?_⟩
  rw [← hp]
  exact hget n hlt hlt'

theorem outputParts_index {cuts : List (List (List Char))} {n : Nat} {p : DeliveryPart}
    (h : (outputParts set_id 0 0 0 cuts)[n]? = some p) : p.index = n := by
  have hspan : ((outputParts set_id 0 0 0 cuts).map DeliveryPart.span)[n]? = some p.span := by
    rw [List.getElem?_map, h]
    rfl
  have hindex := tiles_getElem (outputParts_tiles set_id 0 0 0 cuts) hspan
  rw [Int.natCast_zero, Int.zero_add] at hindex
  exact hindex

theorem length_outputParts (cuts : List (List (List Char))) :
    (outputParts set_id 0 0 0 cuts).length = cuts.flatten.length :=
  (outputParts_lie set_id 0 0 0 cuts).length_eq

end

/-! ### The whole set -/

/-- A set of which there is nothing but its row, and perhaps its directory. -/
structure Unpublished (w : SpoolWorld) (set_id : String) (row : OutputSetRow) : Prop where
  get : w.db.acpOutputSets.get set_id = some row
  assembling : row.state = .assembling
  segments : ∀ r ∈ w.db.acpOutputSegments.rows, r.set_id ≠ set_id
  parts : ∀ d ∈ w.db.acpOutputDeliverySegments.rows, d.set_id ≠ set_id
  dir : w.files.get set_id = none ∨ w.files.get set_id = some ⟨set_id, 0o700, Table.empty⟩
  reserved : 0 ≤ w.db.acpOutputQuota.reserved_bytes
  landed : 0 ≤ w.db.acpOutputQuota.landed_bytes

/-- No transaction id of the parts is taken, by another row or by another part. -/
structure FreshIds (db : Db) (parts : List DeliveryPart) : Prop where
  distinct : (parts.map DeliveryPart.stable_txn_id).Nodup
  free : ∀ d ∈ db.acpOutputDeliverySegments.rows, ∀ p ∈ parts, d.stable_txn_id ≠ p.stable_txn_id

section

variable {w : SpoolWorld} {set_id : String}

theorem Unpublished.db_assembling {row : OutputSetRow} (h : Unpublished w set_id row) :
    w.db.assembling set_id = true := by
  unfold Db.assembling
  rw [List.any_eq_true]
  exact ⟨row, Table.mem_of_get h.get, decide_eq_true ⟨Table.key_of_get h.get, h.assembling⟩⟩

/-- The directory of a set is made, or is there. -/
theorem prepareSet_alone (h : w.files.get set_id = none ∨
    w.files.get set_id = some ⟨set_id, 0o700, Table.empty⟩) :
    ∃ fs : SpoolFiles, fs.get set_id = some ⟨set_id, 0o700, Table.empty⟩ ∧
      Thread.alone .calm (prepareSet set_id).run w = (.ok (), { w with files := fs }) := by
  cases h with
  | inl hnone =>
    obtain ⟨made, hinsert⟩ := Table.exists_insert (r := (⟨set_id, 0o777, Table.empty⟩ : SetDir))
      ((Table.get_eq_none_iff _ _).mp hnone)
    let restrict : SetDir → SetDir := fun d => { d with mode := 0o700 }
    let fs : SpoolFiles := made.updateWhere (fun d => decide (d.set_id = set_id)) restrict
      fun _ => rfl
    have hget : fs.get set_id = some ⟨set_id, 0o700, Table.empty⟩ := by
      show Table.get (made.updateWhere _ restrict _) set_id = _
      rw [Table.get_updateWhere, Table.get_insert hinsert]
      simp [restrict]
    refine ⟨fs, hget, ?_⟩
    have hcreate : Thread.alone .calm (createDir set_id).run w =
        (.ok true, { w with files := made }) := by
      unfold createDir
      rw [file_alone, hinsert]
    exact (Thread.alone_seq _ _ _ _ hcreate).trans rfl
  | inr hsome =>
    refine ⟨w.files, hsome, ?_⟩
    have htaken : w.files.insert ⟨set_id, 0o777, Table.empty⟩ = none := Table.insert_eq_none hsome
    have hcreate : Thread.alone .calm (createDir set_id).run w = (.ok false, w) := by
      unfold createDir
      rw [file_alone, htaken]
    refine (Thread.alone_seq _ _ _ _ hcreate).trans ?_
    show Thread.alone .calm (validateDir set_id).run w = _
    unfold validateDir
    rw [file_alone, hsome]
    rfl

end

section

variable [HashCrates] {set_id owner now : String} {db : Db} {before : List SegmentRow}

/-- The segments of the set, in order. -/
theorem segmentsOf_new {segments : List (Placed (List Char))}
    (hbefore : ∀ r ∈ before, r.set_id ≠ set_id)
    (hrows : db.acpOutputSegments.rows = before ++ segments.map (pieceRow set_id owner now))
    (hsorted : segments.Pairwise fun x y => x.index < y.index) :
    db.segmentsOf set_id [.reserved, .landed, .cleaned, .quarantined] =
      segments.map (pieceRow set_id owner now) := by
  unfold Db.segmentsOf
  have hnone : before.filter (fun r => decide (r.set_id = set_id ∧
      r.state ∈ [SegmentState.reserved, .landed, .cleaned, .quarantined])) = [] := by
    rw [List.filter_eq_nil_iff]
    intro r hr
    rw [decide_eq_true_eq]
    rintro ⟨hset, -⟩
    exact hbefore r hr hset
  have hall : (segments.map (pieceRow set_id owner now)).filter (fun r => decide (r.set_id = set_id ∧
      r.state ∈ [SegmentState.reserved, .landed, .cleaned, .quarantined])) =
      segments.map (pieceRow set_id owner now) := by
    rw [List.filter_eq_self]
    intro r hr
    obtain ⟨x, -, rfl⟩ := List.mem_map.mp hr
    have hlanded : SegmentState.landed ∈ [SegmentState.reserved, .landed, .cleaned, .quarantined] := by
      decide
    exact decide_eq_true ⟨rfl, hlanded⟩
  rw [hrows, List.filter_append, hnone, hall, List.nil_append]
  apply List.Pairwise.insertionSort_eq
  rw [List.pairwise_map]
  refine hsorted.imp ?_
  intro x y hlt
  exact Nat.le_of_lt hlt

/-- **What was published is `Sealable`.** -/
theorem published_sealable {cuts : List (List (List Char))}
    (hbefore : ∀ r ∈ before, r.set_id ≠ set_id)
    (hrows : db.acpOutputSegments.rows = before ++
      (place width 0 0 (cuts.map List.flatten)).map (pieceRow set_id owner now)) :
    Sealable db set_id (encode (cuts.map List.flatten).flatten).length
      (outputParts set_id 0 0 0 cuts) := by
  have hsegments := segmentsOf_new hbefore hrows (place_numbers 0 0 _)
  refine ⟨?_, ?_, ?_, ?_⟩
  · rw [hsegments]
    intro r hr
    obtain ⟨x, -, rfl⟩ := List.mem_map.mp hr
    rfl
  · rw [hsegments, List.map_map]
    have hplace := place_tiles width 0 0 (cuts.map List.flatten)
    rw [sum_width, Nat.zero_add] at hplace
    exact hplace
  · have hparts := outputParts_tiles set_id 0 0 0 cuts
    rw [Nat.zero_add] at hparts
    exact hparts
  · rw [hsegments]
    intro p hp
    obtain ⟨n, hn⟩ := List.mem_iff_getElem?.mp hp
    obtain ⟨piece, -, x, hx, pre, post, hitem, hindex, hstart, hstop, -⟩ :=
      outputParts_getElem set_id cuts hn
    have hwidth : width x.item = width pre + width piece + width post := by
      unfold width
      rw [hitem, encode_append, encode_append, List.length_append, List.length_append]
    refine ⟨_, List.mem_map_of_mem hx, hindex.symm, ?_, ?_⟩
    · rw [hstart]
      show (x.start : Int) ≤ (x.start + width pre : Nat)
      push_cast
      omega
    · rw [hstop]
      show ((x.start + width pre + width piece : Nat) : Int) ≤ (x.start + width x.item : Nat)
      rw [hwidth]
      push_cast
      omega

/-- The manifest of a published output. -/
def outputManifest (set_id : String) (cuts : List (List (List Char))) : Manifest :=
  { format := 1, set_id := set_id,
    total_bytes := (encode (cuts.map List.flatten).flatten).length,
    total_hash := hash (encode (cuts.map List.flatten).flatten),
    segments := (place width 0 0 (cuts.map List.flatten)).map pieceSegment }

/-- A published output: its rows, its files and the row of its set. -/
structure PublishedOutput [Externals] (w : SpoolWorld) (set_id : String) (row : OutputSetRow)
    (owner now : String) (cuts : List (List (List Char))) (w' : SpoolWorld) : Prop where
  segments : w'.db.acpOutputSegments.rows = w.db.acpOutputSegments.rows ++
    (place width 0 0 (cuts.map List.flatten)).map (pieceRow set_id owner now)
  parts : w'.db.acpOutputDeliverySegments.rows = w.db.acpOutputDeliverySegments.rows ++
    (outputParts set_id 0 0 0 cuts).map (DeliveryPart.row set_id)
  set : w'.db.acpOutputSets.get set_id = some (row.sealed
    (encode (cuts.map List.flatten).flatten).length
    (hash (encode (cuts.map List.flatten).flatten)) cuts.flatten.length now)
  files : ∃ d, w'.files.get set_id = some d ∧ Stored d.files
    ((place width 0 0 (cuts.map List.flatten)).map pieceFile ++
      [(manifestName, manifestBytes (outputManifest set_id cuts))])

/-- **An output whose characters fit is published.** -/
theorem publish_new [Externals] {w : SpoolWorld} {row : OutputSetRow} {spool : OutputSpoolStore}
    {policy : DurableOutputPolicy} (h : Unpublished w set_id row) (owner now : String) (cs : List Char)
    (hspool : ∀ c ∈ cs, c.utf8Size ≤ policy.spool_segment_bytes)
    (hmatrix : ∀ c ∈ cs, c.utf8Size ≤ policy.matrix_segment_bytes)
    (hroom : w.db.acpOutputQuota.reserved_bytes + w.db.acpOutputQuota.landed_bytes +
      (encode cs).length ≤ spool.quota_limit)
    (hids : ∀ ranges parts, utf8Ranges (encode cs) policy.spool_segment_bytes = .ok ranges →
      deliveryParts policy set_id (encode cs) ranges = .ok parts → FreshIds w.db parts) :
    ∃ (cuts : List (List (List Char))) (w' : SpoolWorld), cuts.flatten.flatten = cs ∧
      (∀ pieces ∈ cuts, Cut policy.matrix_segment_bytes pieces ∧ (cs ≠ [] → pieces.flatten ≠ [])) ∧
      cuts.length ≤ (encode cs).length + 1 ∧ PublishedOutput w set_id row owner now cuts w' ∧
      Thread.alone .calm (publish spool policy set_id owner now (encode cs)).run w = (.ok (), w') := by
  obtain ⟨segments, hflat, -, hranges, hsegments⟩ := utf8Ranges_encode cs hspool
  obtain ⟨cuts, hcuts, hall⟩ := exists_cuts policy.matrix_segment_bytes segments (by
    intro segment hs c hc
    refine hmatrix c ?_
    rw [← hflat]
    exact List.mem_flatten.mpr ⟨segment, hs, hc⟩)
  have hcs : (cuts.map List.flatten).flatten = cs := by rw [hcuts, hflat]
  have hparts := deliveryParts_cuts set_id hall
  rw [hcs, hcuts] at hparts
  have hfresh := hids _ _ hranges hparts
  have hlimit := spool.quota_limit_lt
  have hres := h.reserved
  have hland := h.landed
  -- the directory
  obtain ⟨fs, hd, hprepare⟩ := prepareSet_alone h.dir
  let w₁ : SpoolWorld := { w with files := fs }
  have hstart : w₁.at set_id w.db Table.empty = w₁ := withFiles_self (w := w₁) hd
  -- the segments
  have hpublishing : Publishing spool set_id 0 (encode segments.flatten).length w.db Table.empty [] := by
    refine ⟨h.db_assembling, ?_, h.reserved, h.landed, ?_, ⟨rfl, nofun⟩, nofun⟩
    · intro r hr hset
      exact absurd hset (h.segments r hr)
    · rw [hflat]
      exact hroom
  have hbytes : encode cs = [] ++ encode segments.flatten := by
    rw [hflat]
    rfl
  obtain ⟨t, files, landed, revision, ht, hstored, hloop⟩ := publishSegments_new (w := w₁) owner now
    hd hbytes (by omega) hpublishing []
  rw [List.nil_append] at hstored hloop
  let db₂ := w.db.withSegments t w.db.acpOutputQuota.reserved_bytes landed revision
  -- the manifest
  have hmanifestNew : ∀ c ∈ (place width 0 0 segments).map pieceFile, c.1 ≠ manifestName := by
    intro c hc
    obtain ⟨x, -, rfl⟩ := List.mem_map.mp hc
    exact segmentName_ne_manifestName x.index
  have htempNew : ∀ c ∈ (place width 0 0 segments).map pieceFile, c.1 ≠ tempName manifestName := by
    intro c hc
    obtain ⟨x, -, rfl⟩ := List.mem_map.mp hc
    exact tempName_ne_segmentName manifestName x.index
  obtain ⟨files', hfiles', hmanifest⟩ := publishFile_new (w := w₁) db₂ hd
    (hstored.get_none htempNew) (hstored.get_none hmanifestNew)
    (manifestBytes (outputManifest set_id cuts))
  -- the set
  have hsealable : Sealable db₂ set_id (encode (cuts.map List.flatten).flatten).length
      (outputParts set_id 0 0 0 cuts) := by
    have hrows : db₂.acpOutputSegments.rows = w.db.acpOutputSegments.rows ++
        (place width 0 0 (cuts.map List.flatten)).map (pieceRow set_id owner now) := by
      rw [hcuts]
      exact ht
    exact published_sealable h.segments hrows
  obtain ⟨u, sets, hu, hset, hseal⟩ := sealSet_accepts
    (hash (encode (cuts.map List.flatten).flatten)) now hsealable h.get h.assembling
    hfresh.distinct hfresh.free h.parts
  rw [length_outputParts] at hset
  refine ⟨cuts, w₁.at set_id { db₂ with acpOutputDeliverySegments := u, acpOutputSets := sets } files',
    ?_, ?_, ?_, ⟨?_, hu, hset, ⟨_, withFiles_get (w := { w₁ with db := _ }) hd, ?_⟩⟩, ?_⟩
  · rw [← hcs, List.flatten_flatten]
  · intro pieces hp
    refine ⟨hall pieces hp, fun hne => ?_⟩
    have hmem : pieces.flatten ∈ segments := hcuts ▸ List.mem_map_of_mem hp
    exact (hsegments _ hmem).1 hne
  · have hlen : cuts.length = segments.length := by rw [← hcuts, List.length_map]
    rw [hlen]
    by_cases hempty : cs = []
    · subst hempty
      have hone := congrArg List.length (Except.ok.inj hranges)
      rw [length_offsets] at hone
      rw [← hone]
      exact Nat.le_add_left 1 _
    · have := length_le_encode fun segment hs => (hsegments segment hs).1 hempty
      rw [hflat] at this
      omega
  · rw [hcuts]
    exact ht
  · rw [hcuts]
    exact hstored.snoc hmanifestNew hfiles'
  · refine (Thread.alone_seq _ _ _ _ rfl).trans ?_
    refine (Thread.alone_seq _ _ _ _ hprepare).trans ?_
    rw [hranges]
    refine (Thread.alone_seq _ _ _ _ (a := offsets 0 segments) rfl).trans ?_
    refine (Thread.alone_seq _ _ _ _ (hstart ▸ hloop)).trans ?_
    have hdocument : (⟨1, set_id, (encode cs).length, hash (encode cs),
        (place width 0 0 segments).map pieceSegment⟩ : Manifest) = outputManifest set_id cuts := by
      unfold outputManifest
      rw [hcs, hcuts]
    have hfile : Thread.alone .calm (publishFile set_id manifestName (manifestBytes
        ⟨1, set_id, (encode cs).length, hash (encode cs),
          (place width 0 0 segments).map pieceSegment⟩)).run (w₁.at set_id db₂ files) =
        (.ok (), w₁.at set_id db₂ files') := by
      rw [hdocument]
      exact hmanifest
    refine (Thread.alone_seq _ _ _ _ hfile).trans ?_
    rw [hparts]
    refine (Thread.alone_seq _ _ _ _ (a := outputParts set_id 0 0 0 cuts) rfl).trans ?_
    rw [hcs] at hseal
    exact store_alone hseal _

end

end GuiguBridge
