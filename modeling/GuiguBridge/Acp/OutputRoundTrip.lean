import GuiguBridge.Acp.OutputPublication
import GuiguBridge.Lib.ByteCodec

/-!
# What was published is read

The parts of a published output, read back one by one in the order of the delivery.

* `Manifest.ofJson_toJson`, `parseManifest_manifestBytes` — the manifest is read as it was written;
* `validateSegmentFiles_alone`, `validateManifest_alone` — its checks, against the files of a
  published output;
* `readDelivery_alone` — **a part that lies in its segment is read**;
* `nextSegment_published` — the part that a drain asks for next;
* `publish_round_trip` — **an output whose characters fit is sealed, and its parts are the output**.
-/

namespace GuiguBridge

open Relational Interleave Utf8 Tiling

/-! ### The manifest -/

/-- The integers of a manifest are read as they were written. -/
structure Manifest.Bounded (m : Manifest) : Prop where
  format : m.format < 2 ^ 32
  total_bytes : m.total_bytes < 2 ^ 64
  segments : ∀ s ∈ m.segments, s.index < 2 ^ 64 ∧ s.start < 2 ^ 64 ∧ s.stop < 2 ^ 64

theorem natField_num {bound n : Nat} {names : List String} (name : String) {content : Json}
    (h : structField names name content = some (.num n)) (hlt : n < bound) :
    natField bound names name content = some n := by
  unfold natField
  rw [h]
  show (if 0 ≤ (n : Int) ∧ (n : Int) < bound then some (n : Int).toNat else none) = some n
  rw [if_pos ⟨Int.natCast_nonneg n, Int.ofNat_lt.mpr hlt⟩, Int.toNat_natCast]

theorem stringField_str {names : List String} (name : String) {value : String} {content : Json}
    (h : structField names name content = some (.str value)) :
    stringField names name content = some value := by
  unfold stringField
  rw [h]

theorem ManifestSegment.ofJson_toJson {s : ManifestSegment}
    (h : s.index < 2 ^ 64 ∧ s.start < 2 ^ 64 ∧ s.stop < 2 ^ 64) :
    ManifestSegment.ofJson s.toJson = some s := by
  obtain ⟨hindex, hstart, hstop⟩ := h
  have hknown : knownFields manifestSegmentFields s.toJson = true := rfl
  unfold ManifestSegment.ofJson
  rw [if_pos hknown, natField_num "index" rfl hindex, natField_num "start" rfl hstart,
    natField_num "end" rfl hstop, stringField_str "hash" rfl,
    stringField_str "name" rfl]
  rfl

theorem mapM_ofJson {segments : List ManifestSegment}
    (h : ∀ s ∈ segments, s.index < 2 ^ 64 ∧ s.start < 2 ^ 64 ∧ s.stop < 2 ^ 64) :
    (segments.map ManifestSegment.toJson).mapM ManifestSegment.ofJson = some segments := by
  induction segments with
  | nil => rfl
  | cons s rest ih =>
    rw [List.forall_mem_cons] at h
    rw [List.map_cons, List.mapM_cons, ManifestSegment.ofJson_toJson h.1, ih h.2]
    rfl

theorem Manifest.ofJson_toJson {m : Manifest} (h : m.Bounded) : Manifest.ofJson m.toJson = some m := by
  have hknown : knownFields manifestFields m.toJson = true := rfl
  have hsegments : structField manifestFields "segments" m.toJson =
      some (.arr (m.segments.map ManifestSegment.toJson)) := rfl
  unfold Manifest.ofJson
  rw [if_pos hknown, natField_num "format" rfl h.format, stringField_str "set_id" rfl,
    natField_num "total_bytes" rfl h.total_bytes, stringField_str "total_hash" rfl,
    hsegments]
  show (List.mapM ManifestSegment.ofJson (m.segments.map ManifestSegment.toJson)).bind _ = _
  rw [mapM_ofJson h.segments]
  rfl

/-- The manifest is read as it was written, when its text is. -/
theorem parseManifest_manifestBytes [Externals] {m : Manifest} (h : m.Bounded)
    (hjson : Externals.parseJson (Externals.jsonText m.toJson) = some m.toJson) :
    parseManifest (manifestBytes m) = some m := by
  have htext : fromUtf8 (manifestBytes m) = some (Externals.jsonText m.toJson) := by
    have hbytes := fromUTF8_encode (Externals.jsonText m.toJson).toList
    rw [String.ofList_toList] at hbytes
    exact hbytes
  unfold parseManifest
  rw [htext]
  show (Externals.parseJson (Externals.jsonText m.toJson)).bind Manifest.ofJson = some m
  rw [hjson, Option.bind_some, Manifest.ofJson_toJson h]

/-- The manifest of an output is bounded. -/
theorem outputManifest_bounded [HashCrates] (set_id : String) {cuts : List (List (List Char))}
    {cs : List Char} (hflat : cuts.flatten.flatten = cs)
    (hcount : cuts.length ≤ (encode cs).length + 1) (hlt : (encode cs).length < 2 ^ 63) :
    (outputManifest set_id cuts).Bounded := by
  have hcs : (cuts.map List.flatten).flatten = cs := by rw [← List.flatten_flatten, hflat]
  refine ⟨?_, ?_, ?_⟩
  · show 1 < 2 ^ 32
    decide
  · show (encode (cuts.map List.flatten).flatten).length < 2 ^ 64
    rw [hcs]
    omega
  · intro s hs
    obtain ⟨x, hx, rfl⟩ := List.mem_map.mp hs
    obtain ⟨pre, post, hsplit, hindex, hstart⟩ := mem_place hx
    have hlen : (cuts.map List.flatten).length = pre.length + (post.length + 1) := by
      rw [hsplit, List.length_append, List.length_cons]
    rw [List.length_map] at hlen
    have htotal := sum_width (cuts.map List.flatten)
    rw [hcs, hsplit, List.map_append, List.map_cons, List.sum_append, List.sum_cons] at htotal
    refine ⟨?_, ?_, ?_⟩
    · show x.index < 2 ^ 64
      omega
    · show x.start < 2 ^ 64
      omega
    · show x.start + width x.item < 2 ^ 64
      omega

/-! ### Reading a part -/

section

variable {w : SpoolWorld} {set_id : String} {d : SetDir}

/-- A file that is there is read. -/
theorem readExactFile_here (hd : w.files.get set_id = some d) {name : String} {bytes : Bytes}
    (hread : readFiles d.files name = .ok bytes) :
    Thread.alone .calm (readExactFile set_id name).run w = (.ok bytes, w) := by
  have halone : Thread.alone .calm (readExactFile set_id name).run (w.withFiles set_id d.files) =
      (readFiles d.files name, w.withFiles set_id d.files) := readExactFile_alone hd name
  rw [withFiles_self hd, hread] at halone
  exact halone

variable [HashCrates]

/-- The loop of `validate_tree` over the segments of a published output. -/
theorem validateSegmentFiles_alone (hd : w.files.get set_id = some d) {pieces : List (List Char)}
    {index start : Nat} (hread : ∀ x ∈ place width index start pieces,
      readFiles d.files (segmentName x.index) = .ok (encode x.item)) (aggregate : Bytes) :
    Thread.alone .calm (validateSegmentFiles set_id index start aggregate
        ((place width index start pieces).map pieceSegment)).run w =
      (.ok (start + (encode pieces.flatten).length, aggregate ++ encode pieces.flatten), w) := by
  induction pieces generalizing index start aggregate with
  | nil =>
    rw [List.flatten_nil, encode_nil, List.append_nil]
    rfl
  | cons piece rest ih =>
    rw [place_cons, List.forall_mem_cons] at hread
    have hwidth : (encode piece).length = start + width piece - start := by
      unfold width
      omega
    rw [place_cons, List.map_cons]
    unfold validateSegmentFiles
    refine (Thread.alone_seq _ _ _ _ (require_alone (decide_eq_true
      ⟨rfl, rfl, Nat.le_add_right start (width piece), rfl⟩) _ _)).trans ?_
    refine (Thread.alone_seq _ _ _ _ (readExactFile_here hd hread.1)).trans ?_
    refine (Thread.alone_seq _ _ _ _ (require_alone (decide_eq_true ⟨hwidth, rfl⟩) _ _)).trans ?_
    refine (ih hread.2 (aggregate ++ encode piece)).trans ?_
    rw [List.flatten_cons, encode_append, List.length_append, List.append_assoc]
    unfold width
    rw [Nat.add_assoc]

variable {cuts : List (List (List Char))}

/-- **`validate_tree` accepts the files of a published output.** -/
theorem validateTree_alone [Externals] (hd : w.files.get set_id = some d)
    (hstored : Stored d.files ((place width 0 0 (cuts.map List.flatten)).map pieceFile ++
      [(manifestName, manifestBytes (outputManifest set_id cuts))])) :
    Thread.alone .calm (validateTree set_id (outputManifest set_id cuts)).run w = (.ok (), w) := by
  have hnames : d.files.rows.map FileEntry.name =
      (outputManifest set_id cuts).segments.map ManifestSegment.name ++ [manifestName] := by
    rw [hstored.names, List.map_append, List.map_map]
    unfold outputManifest
    rw [List.map_map]
    rfl
  have hdir : Thread.alone .calm (readDir set_id).run w =
      (.ok (d.files.rows.map FileEntry.name), w) := by
    unfold readDir
    rw [file_alone, hd]
  have hread : ∀ x ∈ place width 0 0 (cuts.map List.flatten),
      readFiles d.files (segmentName x.index) = .ok (encode x.item) := by
    intro x hx
    exact hstored.read (pieceFile x) (List.mem_append_left _ (List.mem_map_of_mem hx))
  unfold validateTree
  refine (Thread.alone_seq _ _ _ _ hdir).trans ?_
  refine (Thread.alone_seq _ _ _ _ (require_alone ?_ _ _)).trans ?_
  · rw [hnames, Bool.and_eq_true, List.all_eq_true, List.all_eq_true]
    constructor
    · intro name hname
      rw [decide_eq_true_eq, List.mem_cons, or_comm]
      exact (List.mem_append.mp hname).imp id List.mem_singleton.mp
    · intro name hname
      rw [decide_eq_true_eq, List.mem_append, List.mem_singleton, or_comm]
      exact List.mem_cons.mp hname
  refine (Thread.alone_seq _ _ _ _ (validateSegmentFiles_alone hd hread [])).trans ?_
  refine require_alone (decide_eq_true ⟨Nat.zero_add _, rfl⟩) _ _

/-- What a drain is given for a part of a published output. -/
def pendingPart (set_id owner now : String) (cuts : List (List (List Char)))
    (x : Placed (List Char)) (p : DeliveryPart) : PendingDelivery :=
  { part := p, spool := decodeSegment (pieceRow set_id owner now x),
    total_bytes := (encode (cuts.map List.flatten).flatten).length,
    total_hash := hash (encode (cuts.map List.flatten).flatten) }

/-- **`validate_manifest` accepts every segment of a published output.** -/
theorem validateManifest_alone [Externals] {owner now : String} (hd : w.files.get set_id = some d)
    (hstored : Stored d.files ((place width 0 0 (cuts.map List.flatten)).map pieceFile ++
      [(manifestName, manifestBytes (outputManifest set_id cuts))]))
    (hparse : parseManifest (manifestBytes (outputManifest set_id cuts)) =
      some (outputManifest set_id cuts)) {x : Placed (List Char)}
    (hx : x ∈ place width 0 0 (cuts.map List.flatten)) (p : DeliveryPart) :
    Thread.alone .calm (validateManifest (pendingPart set_id owner now cuts x p)).run w =
      (.ok (), w) := by
  have hmanifest := readExactFile_here hd (hstored.read (manifestName, _)
    (List.mem_append_right _ (List.mem_singleton_self _)))
  have hitem : (outputManifest set_id cuts).segments[x.index]? = some (pieceSegment x) := by
    unfold outputManifest
    obtain ⟨n, hn⟩ := List.mem_iff_getElem?.mp hx
    rw [List.getElem?_map, getElem?_place hn, Nat.zero_add, hn]
    rfl
  unfold validateManifest
  refine (Thread.alone_seq _ _ _ _ hmanifest).trans ?_
  rw [hparse]
  refine (Thread.alone_seq _ _ _ _ (a := outputManifest set_id cuts) rfl).trans ?_
  refine (Thread.alone_seq _ _ _ _ (require_alone (decide_eq_true
    ⟨rfl, rfl, rfl, rfl, rfl⟩) _ _)).trans ?_
  refine (Thread.alone_seq _ _ _ _ (validateTree_alone hd hstored)).trans ?_
  show Thread.alone .calm (SpoolM.some? (outputManifest set_id cuts).segments[x.index]? _ >>= _).run
    w = _
  rw [hitem]
  refine (Thread.alone_seq _ _ _ _ (a := pieceSegment x) rfl).trans ?_
  exact require_alone (decide_eq_true ⟨rfl, rfl, rfl, rfl, rfl⟩) _ _

/-- **A part that lies in its segment is read.** -/
theorem readDelivery_alone [Externals] {owner now : String} (hd : w.files.get set_id = some d)
    (hstored : Stored d.files ((place width 0 0 (cuts.map List.flatten)).map pieceFile ++
      [(manifestName, manifestBytes (outputManifest set_id cuts))]))
    (hparse : parseManifest (manifestBytes (outputManifest set_id cuts)) =
      some (outputManifest set_id cuts)) {x : Placed (List Char)}
    (hx : x ∈ place width 0 0 (cuts.map List.flatten)) {p : DeliveryPart} {pre piece post : List Char}
    (hitem : x.item = pre ++ piece ++ post) (hstart : p.byte_start = (x.start + width pre : Nat))
    (hstop : p.byte_end = (x.start + width pre + width piece : Nat))
    (hhash : p.content_hash = hash (encode piece)) :
    Thread.alone .calm (readDelivery (pendingPart set_id owner now cuts x p)).run w =
      (.ok (encode piece), w) := by
  have hfile := readExactFile_here hd (hstored.read (pieceFile x)
    (List.mem_append_left _ (List.mem_map_of_mem hx)))
  have hslice : partSlice p (decodeSegment (pieceRow set_id owner now x)) (encode x.item) =
      some (encode piece) := by
    have hlocal : p.byte_start - (x.start : Int) = width pre := by
      rw [hstart]
      push_cast
      omega
    have hlocalStop : p.byte_end - (x.start : Int) = (width pre + width piece : Nat) := by
      rw [hstop]
      push_cast
      omega
    have hle : width pre + width piece ≤ (encode x.item).length := by
      rw [hitem, encode_append, encode_append, List.length_append, List.length_append]
      exact Nat.le_add_right _ _
    unfold partSlice
    show (if 0 ≤ p.byte_start - (x.start : Int) ∧ p.byte_start - (x.start : Int) ≤
      p.byte_end - (x.start : Int) ∧ p.byte_end - (x.start : Int) ≤ (encode x.item).length then
        some (((encode x.item).take (p.byte_end - (x.start : Int)).toNat).drop
          (p.byte_start - (x.start : Int)).toNat) else none) = _
    rw [hlocal, hlocalStop, if_pos (by omega), Int.toNat_natCast, Int.toNat_natCast, hitem,
      encode_append, encode_append]
    exact congrArg some (slice_append (encode pre) (encode piece) (encode post))
  have hsegment : Thread.alone .calm (readSegment (decodeSegment (pieceRow set_id owner now x))).run w =
      (.ok (encode x.item), w) := by
    unfold readSegment
    refine (Thread.alone_seq _ _ _ _ hfile).trans ?_
    have hlen : ((encode x.item).length : Int) =
        ((x.start + (encode x.item).length : Nat) : Int) - x.start := by
      push_cast
      omega
    exact (Thread.alone_seq _ _ _ _ (require_alone (decide_eq_true ⟨rfl, hlen⟩) _ _)).trans rfl
  unfold readDelivery
  refine (Thread.alone_seq _ _ _ _ (validateManifest_alone hd hstored hparse hx p)).trans ?_
  refine (Thread.alone_seq _ _ _ _ hsegment).trans ?_
  show Thread.alone .calm (SpoolM.some? (partSlice p (decodeSegment (pieceRow set_id owner now x))
    (encode x.item)) _ >>= _).run w = _
  rw [hslice]
  refine (Thread.alone_seq _ _ _ _ (a := encode piece) rfl).trans ?_
  exact (Thread.alone_seq _ _ _ _ (require_alone (decide_eq_true hhash.symm) _ _)).trans rfl

end

/-! ### The next part -/

section

variable [HashCrates] [Externals] {w w' : SpoolWorld} {set_id owner now : String} {row : OutputSetRow}
  {cuts : List (List (List Char))}

/-- The segment that a part lies in is found. -/
theorem landedSegment_published (h : PublishedOutput w set_id row owner now cuts w')
    {x : Placed (List Char)} (hx : x ∈ place width 0 0 (cuts.map List.flatten)) :
    w'.db.landedSegment set_id x.index = some (pieceRow set_id owner now x) := by
  have hmem : pieceRow set_id owner now x ∈ w'.db.acpOutputSegments.rows := by
    rw [h.segments]
    exact List.mem_append_right _ (List.mem_map_of_mem hx)
  unfold Db.landedSegment
  cases hfind : w'.db.acpOutputSegments.rows.find? (fun r =>
      decide (r.set_id = set_id ∧ (r.segment_index : Int) = x.index ∧ r.state = .landed)) with
  | none =>
    have hnot := List.find?_eq_none.mp hfind _ hmem
    exact absurd (decide_eq_true ⟨rfl, rfl, rfl⟩) hnot
  | some r =>
    have hfound := List.find?_some hfind
    obtain ⟨hset, hindex, -⟩ := of_decide_eq_true hfound
    have hkey : r.key = (pieceRow set_id owner now x).key := by
      unfold SegmentRow.key
      rw [hset, Int.ofNat_inj.mp hindex]
      rfl
    rw [w'.db.acpOutputSegments.eq_of_key_eq (List.mem_of_find?_eq_some hfind) hmem hkey]

/-- **What a drain is given next.** -/
theorem nextSegment_published (hparts : ∀ d ∈ w.db.acpOutputDeliverySegments.rows, d.set_id ≠ set_id)
    (h : PublishedOutput w set_id row owner now cuts w') {set : ClaimedOutputSet}
    (hset : set.set_id = set_id) {n : Nat} (hcursor : set.acknowledged_cursor = (n : Int) - 1) :
    match (outputParts set_id 0 0 0 cuts)[n]? with
    | none => nextSegment set w'.db = .ok none
    | some p => ∀ x ∈ place width 0 0 (cuts.map List.flatten), p.spool_index = x.index →
        nextSegment set w'.db = .ok (some (pendingPart set_id owner now cuts x p)) := by
  have hkey : (set.set_id, set.acknowledged_cursor + 1) = (set_id, (n : Int)) := by
    rw [hset, hcursor, Int.sub_add_cancel]
  cases hn : (outputParts set_id 0 0 0 cuts)[n]? with
  | none =>
    have hnone : w'.db.acpOutputDeliverySegments.get (set_id, (n : Int)) = none := by
      rw [Table.get_eq_none_iff]
      intro d hd hdkey
      have hdkey' : (d.set_id, d.delivery_index) = (set_id, (n : Int)) := hdkey
      rw [Prod.mk.injEq] at hdkey'
      rw [h.parts] at hd
      cases List.mem_append.mp hd with
      | inl hold => exact hparts d hold hdkey'.1
      | inr hnew =>
        obtain ⟨p, hp, rfl⟩ := List.mem_map.mp hnew
        obtain ⟨m, hm⟩ := List.mem_iff_getElem?.mp hp
        have hindex : p.index = (n : Int) := hdkey'.2
        rw [outputParts_index set_id hm] at hindex
        rw [Int.ofNat_inj.mp hindex, hn] at hm
        cases hm
    show nextSegment set w'.db = .ok none
    unfold nextSegment
    rw [hkey, hnone]
  | some p =>
    intro x hx hspool
    have hmem : p.row set_id ∈ w'.db.acpOutputDeliverySegments.rows := by
      rw [h.parts]
      exact List.mem_append_right _ (List.mem_map_of_mem (List.mem_of_getElem? hn))
    have hget := Table.get_of_mem hmem
    rw [show (p.row set_id).key = (set_id, p.index) from rfl, outputParts_index set_id hn] at hget
    have hfound : w'.db.landedSegment set_id (p.row set_id).spool_index =
        some (pieceRow set_id owner now x) := by
      show w'.db.landedSegment set_id p.spool_index = _
      rw [hspool]
      exact landedSegment_published h hx
    unfold nextSegment
    rw [hkey, hget]
    simp only
    rw [hset, hfound, h.set]
    rfl

end

/-! ### The round trip -/

section

variable [HashCrates] [Externals]

/-- **An output whose characters fit is sealed, and its parts, read in the order of the delivery, are
the output.**  And nothing is sealed but segments and parts that tile. -/
theorem publish_round_trip {turn_max : Nat} {policy : DurableOutputPolicy}
    (hpolicy : DurableOutputPolicy.derive turn_max = some policy) (spool : OutputSpoolStore)
    {w : SpoolWorld} {set_id : String} {row : OutputSetRow} (h : Unpublished w set_id row)
    (owner now output : String) (hfits : ∀ c ∈ output.toList, c.utf8Size ≤ turn_max)
    (hroom : w.db.acpOutputQuota.reserved_bytes + w.db.acpOutputQuota.landed_bytes +
      (utf8 output).length ≤ spool.quota_limit)
    (hids : ∀ ranges parts, utf8Ranges (utf8 output) policy.spool_segment_bytes = .ok ranges →
      deliveryParts policy set_id (utf8 output) ranges = .ok parts → FreshIds w.db parts)
    (hjson : ∀ m : Manifest,
      Externals.parseJson (Externals.jsonText m.toJson) = some m.toJson) :
    (∃ (pieces : List (List Char)) (w' : SpoolWorld),
      Thread.alone .calm (publish spool policy set_id owner now (utf8 output)).run w = (.ok (), w') ∧
      (∃ s, w'.db.acpOutputSets.get set_id = some s ∧ s.state = .prepared ∧
        s.total_bytes = some (utf8 output).length ∧ s.segment_count = some pieces.length) ∧
      pieces.flatten = output.toList ∧ (pieces.map encode).flatten = utf8 output ∧
      (∀ piece ∈ pieces, (output ≠ "" → piece ≠ []) ∧
        (encode piece).length ≤ policy.matrix_segment_bytes) ∧
      ∀ (set : ClaimedOutputSet) (n : Nat), set.set_id = set_id →
        set.acknowledged_cursor = (n : Int) - 1 →
        match pieces[n]? with
        | none => nextSegment set w'.db = .ok none
        | some piece => ∃ pending, nextSegment set w'.db = .ok (some pending) ∧
            pending.part.index = n ∧
            Thread.alone .calm (readDelivery pending).run w' = (.ok (encode piece), w')) ∧
    ∀ (set_id : String) (total count : Int) (total_hash now : String) (parts : List DeliveryPart)
      (db db' : Db), sealSet set_id total total_hash count parts now db = (.ok (), db') →
        Sealable db set_id total parts := by
  refine ⟨?_, fun set_id total count total_hash now parts db db' hseal =>
    (sealSet_sealable hseal).1⟩
  obtain ⟨hderived, rfl⟩ := DurableOutputPolicy.derived hpolicy
  obtain ⟨cuts, w', hflat, hcuts, hcount, hpublished, halone⟩ := publish_new h owner now
    output.toList
    (fun c hc => (hderived.fits c.utf8Size_le_four (hfits c hc)).1)
    (fun c hc => (hderived.fits c.utf8Size_le_four (hfits c hc)).2) hroom hids
  have hlimit := spool.quota_limit_lt
  have hres := h.reserved
  have hland := h.landed
  have hlt : (encode output.toList).length < 2 ^ 63 := by
    have hroom' : w.db.acpOutputQuota.reserved_bytes + w.db.acpOutputQuota.landed_bytes +
      (encode output.toList).length ≤ spool.quota_limit := hroom
    omega
  have hparse := parseManifest_manifestBytes (outputManifest_bounded set_id hflat hcount hlt)
    (hjson _)
  obtain ⟨d, hd, hstored⟩ := hpublished.files
  refine ⟨cuts.flatten, w', halone, ⟨_, hpublished.set, rfl, ?_, ?_⟩, hflat, ?_, ?_, ?_⟩
  · show some (((encode (cuts.map List.flatten).flatten).length : Int).toNat) = _
    rw [← List.flatten_flatten, hflat, Int.toNat_natCast]
    rfl
  · show some ((cuts.flatten.length : Int).toNat) = _
    rw [Int.toNat_natCast]
  · rw [← encode_flatten, hflat]
    rfl
  · intro piece hpiece
    obtain ⟨pieces, hp, hmem⟩ := List.mem_flatten.mp hpiece
    obtain ⟨hcut, hsome⟩ := hcuts pieces hp
    refine ⟨fun hne => hcut.some (hsome ?_) piece hmem, hcut.fits piece hmem⟩
    intro hnil
    exact hne (String.toList_eq_nil_iff.mp hnil)
  · intro set n hset hcursor
    have hnext := nextSegment_published h.parts hpublished hset hcursor
    cases hn : (outputParts set_id 0 0 0 cuts)[n]? with
    | none =>
      rw [hn] at hnext
      have hend : cuts.flatten[n]? = none := by
        rw [List.getElem?_eq_none_iff, length_outputParts] at hn
        exact List.getElem?_eq_none hn
      rw [hend]
      exact hnext
    | some p =>
      rw [hn] at hnext
      obtain ⟨piece, hpiece, x, hx, pre, post, hitem, hspool, hstart, hstop, hhash⟩ :=
        outputParts_getElem set_id cuts hn
      rw [hpiece]
      refine ⟨_, hnext x hx (by rw [hspool]), outputParts_index set_id hn, ?_⟩
      exact readDelivery_alone hd hstored hparse hx hitem hstart hstop hhash

end

/-- A set that is assembling. -/
def assemblingRow (set_id : String) : OutputSetRow :=
  { set_id := set_id, task_id := ⟨0⟩, attempt := 1, turn := 1, runtime_fence := "fence",
    room_id := "room", thread_root := none, reply_event_id := none, render_version := "v1",
    total_bytes := none, total_hash := none, segment_count := none, acknowledged_cursor := -1,
    state := .assembling, claim_owner := none, claim_revision := 0, attempt_count := 0,
    failure_class := none, created_at := "", updated_at := "" }

/-- A store with such a set, and its directory. -/
def assemblingSet (set_id : String) : SpoolWorld :=
  { emptySet set_id with
    db := { Db.empty with acpOutputSets := ⟨[assemblingRow set_id], List.nodup_singleton _⟩ } }

theorem assemblingSet_unpublished (set_id : String) :
    Unpublished (assemblingSet set_id) set_id (assemblingRow set_id) where
  get := by simp [assemblingSet, Table.get, assemblingRow]
  assembling := rfl
  segments := nofun
  parts := nofun
  dir := Or.inr (emptySet_get set_id)
  reserved := Int.le_refl 0
  landed := Int.le_refl 0

/-- A character is one piece. -/
theorem pieces_single {c : Char} {pieces : List (List Char)} (hflat : pieces.flatten = [c])
    (hne : ∀ piece ∈ pieces, piece ≠ []) : pieces = [[c]] := by
  cases pieces with
  | nil => cases hflat
  | cons piece rest =>
    cases piece with
    | nil => exact absurd rfl (hne [] List.mem_cons_self)
    | cons d tail =>
      rw [List.flatten_cons, List.cons_append, List.cons.injEq, List.append_eq_nil_iff] at hflat
      obtain ⟨rfl, rfl, hrest⟩ := hflat
      cases rest with
      | nil => rfl
      | cons next rest =>
        have hnext : next = [] := (List.append_eq_nil_iff.mp hrest).1
        exact absurd hnext (hne next (by simp))

/-- Two characters that do not fit together are two pieces. -/
theorem pieces_pair {c d : Char} {max : Nat} {pieces : List (List Char)}
    (hflat : pieces.flatten = [c, d])
    (hpieces : ∀ piece ∈ pieces, piece ≠ [] ∧ (encode piece).length ≤ max)
    (hmax : max < c.utf8Size + d.utf8Size) : pieces = [[c], [d]] := by
  cases pieces with
  | nil => cases hflat
  | cons piece rest =>
    obtain ⟨hne, hlen⟩ := hpieces piece List.mem_cons_self
    cases piece with
    | nil => exact absurd rfl hne
    | cons e tail =>
      rw [List.flatten_cons, List.cons_append, List.cons.injEq] at hflat
      obtain ⟨rfl, htail⟩ := hflat
      cases tail with
      | nil =>
        have hrest : rest = [[d]] := pieces_single htail fun piece hpiece =>
          (hpieces piece (List.mem_cons_of_mem _ hpiece)).1
        rw [hrest]
      | cons e' tail =>
        -- both in one piece would be too long
        rw [List.cons_append, List.cons.injEq] at htail
        obtain ⟨rfl, -⟩ := htail
        rw [encode_cons, encode_cons, List.length_append, List.length_append,
          String.length_utf8EncodeChar, String.length_utf8EncodeChar] at hlen
        omega

/-- The range of one character. -/
theorem utf8Ranges_single {c : Char} {max : Nat} (h : c.utf8Size ≤ max) :
    utf8Ranges (encode [c]) max = .ok [(0, c.utf8Size)] := by
  have hfits : ∀ d ∈ [c], d.utf8Size ≤ max := by simpa using h
  obtain ⟨pieces, hflat, -, hranges, hpieces⟩ := utf8Ranges_encode [c] hfits
  have hsplit := pieces_single hflat fun piece hpiece => (hpieces piece hpiece).1 (by simp)
  rw [hranges, hsplit]
  simp [offsets, encode_cons]

/-- The ranges of two characters that do not fit together. -/
theorem utf8Ranges_pair {c d : Char} {max : Nat} (hc : c.utf8Size ≤ max) (hd : d.utf8Size ≤ max)
    (hmax : max < c.utf8Size + d.utf8Size) :
    utf8Ranges (encode [c, d]) max =
      .ok [(0, c.utf8Size), (c.utf8Size, c.utf8Size + d.utf8Size)] := by
  have hfits : ∀ e ∈ [c, d], e.utf8Size ≤ max := by simpa using ⟨hc, hd⟩
  obtain ⟨pieces, hflat, -, hranges, hpieces⟩ := utf8Ranges_encode [c, d] hfits
  have hsplit := pieces_pair hflat
    (fun piece hpiece => ⟨(hpieces piece hpiece).1 (by simp), (hpieces piece hpiece).2⟩) hmax
  rw [hranges, hsplit]
  simp [offsets, encode_cons]

/-- A text of one byte and a character of two, in a turn of two bytes, is read back from two
parts. -/
theorem publish_round_trip_two :
    ∃ (w' : SpoolWorld) (first second : PendingDelivery),
      Thread.alone .calm (publish ⟨processQuota, by decide⟩ (.ofTurn 2) "set" "owner" "now"
        (utf8 "aé")).run (assemblingSet "set") = (.ok (), w') ∧
      nextSegment ⟨"set", "room", none, none, -1, 2, "drain", 1, 0⟩ w'.db = .ok (some first) ∧
      Thread.alone .calm (readDelivery first).run w' = (.ok [97], w') ∧
      nextSegment ⟨"set", "room", none, none, 0, 2, "drain", 1, 0⟩ w'.db = .ok (some second) ∧
      Thread.alone .calm (readDelivery second).run w' = (.ok [195, 169], w') := by
  have hderive : DurableOutputPolicy.derive 2 = some (.ofTurn 2) := by decide
  have hspool : (DurableOutputPolicy.ofTurn 2).spool_segment_bytes = 2 := by decide
  have hmatrix : (DurableOutputPolicy.ofTurn 2).matrix_segment_bytes = 2 := by decide
  have hchars : "aé".toList = ['a', 'é'] := by decide
  have hranges : utf8Ranges (utf8 "aé") 2 = .ok [(0, 1), (1, 3)] :=
    utf8Ranges_pair (c := 'a') (d := 'é') (by decide) (by decide) (by decide)
  have hids : ∀ ranges parts,
      utf8Ranges (utf8 "aé") (DurableOutputPolicy.ofTurn 2).spool_segment_bytes = .ok ranges →
      deliveryParts (.ofTurn 2) "set" (utf8 "aé") ranges = .ok parts →
      FreshIds (assemblingSet "set").db parts := by
    intro ranges parts hcut hparts
    rw [hspool, hranges] at hcut
    cases hcut
    have hfirst : utf8Ranges (slice (utf8 "aé") 0 1) 2 = .ok [(0, 1)] :=
      utf8Ranges_single (c := 'a') (by decide)
    have hsecond : utf8Ranges (slice (utf8 "aé") 1 3) 2 = .ok [(0, 2)] :=
      utf8Ranges_single (c := 'é') (by decide)
    have hboth : deliveryParts (.ofTurn 2) "set" (utf8 "aé") [(0, 1), (1, 3)] =
        .ok [partAt "set" 0 0 [97] 0 (0, 1), partAt "set" 1 1 [195, 169] 1 (0, 2)] := by
      unfold deliveryParts deliveryPartsFrom deliveryPartsFrom deliveryPartsFrom segmentParts
      rw [hmatrix, hfirst, hsecond]
      rfl
    rw [hboth] at hparts
    cases hparts
    exact ⟨by decide +kernel, by rintro _ ⟨⟩⟩
  have hjson : ∀ m : Manifest,
      Externals.parseJson (Externals.jsonText m.toJson) = some m.toJson := by
    intro m
    show Json.parse (String.ofList m.toJson.render).toList = _
    rw [String.toList_ofList]
    exact Json.parse_render _
  have hfits : ∀ c ∈ "aé".toList, c.utf8Size ≤ 2 := by
    intro c hc
    rw [hchars] at hc
    rcases List.mem_pair.mp hc with rfl | rfl
    · decide
    · decide
  have hroom : (0 : Int) + 0 + (utf8 "aé").length ≤ processQuota := by decide
  obtain ⟨⟨pieces, w', hpublish, -, hflat, -, hpieces, hread⟩, -⟩ := publish_round_trip hderive
    ⟨processQuota, by decide⟩ (assemblingSet_unpublished "set") "owner" "now" "aé"
    hfits hroom hids hjson
  rw [hchars] at hflat
  rw [hmatrix] at hpieces
  obtain rfl : pieces = [['a'], ['é']] := pieces_pair hflat
    (fun piece hpiece => ⟨(hpieces piece hpiece).1 (by decide), (hpieces piece hpiece).2⟩)
    (by decide)
  obtain ⟨first, hfirst, -, hone⟩ :=
    hread ⟨"set", "room", none, none, -1, 2, "drain", 1, 0⟩ 0 rfl rfl
  obtain ⟨second, hsecond, -, htwo⟩ :=
    hread ⟨"set", "room", none, none, 0, 2, "drain", 1, 0⟩ 1 rfl rfl
  exact ⟨w', first, second, hpublish, hfirst, hone, hsecond, htwo⟩

/-- A character that is wider than the limit of its turn has no cut, and the set stays as it is. -/
theorem publish_wide :
    DurableOutputPolicy.derive 1 = some (.ofTurn 1) ∧
      Unpublished (assemblingSet "set") "set" (assemblingRow "set") ∧
      (Thread.alone .calm (publish ⟨processQuota, by decide⟩ (.ofTurn 1) "set" "owner" "now"
        (utf8 "é")).run (assemblingSet "set")).1 = .error .identity := by
  refine ⟨by decide, assemblingSet_unpublished "set", ?_⟩
  have htext : fromUtf8 (utf8 "é") = some "é" := fromUTF8_encode ['é']
  have hback : backTo (utf8 "é") 0 (min (0 + 1) (utf8 "é").length) = 0 := rfl
  have hranges : utf8Ranges (utf8 "é") (DurableOutputPolicy.ofTurn 1).spool_segment_bytes =
      .error .identity := by
    have hmax : (DurableOutputPolicy.ofTurn 1).spool_segment_bytes = 1 := by decide
    unfold utf8Ranges
    rw [hmax, htext]
    show (if utf8 "é" = [] then _ else utf8RangesFrom (utf8 "é") 1 0) = _
    rw [if_neg (by decide), utf8RangesFrom, dif_pos (by decide)]
    simp only [hback]
    rw [dif_pos trivial]
  obtain ⟨fs, -, hprepare⟩ := prepareSet_alone (assemblingSet_unpublished "set").dir
  have hroot : Thread.alone .calm prepareRoot.run (assemblingSet "set") =
      (.ok (), assemblingSet "set") := rfl
  unfold publish
  rw [Thread.alone_seq _ _ _ _ hroot, Thread.alone_seq _ _ _ _ hprepare, hranges]
  rfl

end GuiguBridge
