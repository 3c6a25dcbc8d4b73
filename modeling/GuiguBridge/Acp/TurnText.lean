import GuiguBridge.Acp.Framing
import GuiguBridge.Acp.Transport

/-!
# The text of a turn

While a prompt is pending its chunks go to three places: the display lane, the durable lane and
the text that its response carries (`accumulate` in `src/src/acp/transport.rs`).

* `addChunk`, `turnText` — the text of the response, chunk by chunk, as far as there is room;
* `MarkedPrefix` — all the chunks, or the first of them and one marker;
* `Settled` — after the first chunk that does not fit, no chunk with a text fits again, the
  marker counted.  The first test of `accumulate` looks at the length only and not at
  `output_truncated`, so that a small chunk is put behind the marker;
* `History`, `historyAt` — the chunks of every prompt and what its lanes received, along a run;
* `turn_text_iff` — **the text is a marked prefix exactly when its chunks settle, and a durable
  lane receives every chunk once and in order**.
-/

namespace GuiguBridge

namespace Acp

open Correlation

/-! ### One turn -/

/-- More chunks are no fewer bytes. -/
theorem join_take_le (chunks : List String) {k n : Nat} (h : k ≤ n) :
    (String.join (chunks.take k)).utf8ByteSize ≤ (String.join (chunks.take n)).utf8ByteSize := by
  have hsplit : chunks.take n = chunks.take k ++ (chunks.take n).drop k := by
    conv => lhs; rw [← List.take_append_drop k (chunks.take n)]
    rw [List.take_take, Nat.min_eq_left h]
  rw [hsplit, String.join_append, String.utf8ByteSize_append]
  omega

/-- A chunk, the text so far, and whether the marker is in it. -/
def addChunk (max_output_bytes : Nat) (turn : String × Bool) (text : String) : String × Bool :=
  if turn.1.utf8ByteSize + text.utf8ByteSize ≤ max_output_bytes then (turn.1 ++ text, turn.2)
  else if turn.2 then turn
  else (turn.1 ++ TRUNCATION_MARKER, true)

/-- The text of a turn with these chunks. -/
def turnText (max_output_bytes : Nat) (chunks : List String) : String × Bool :=
  chunks.foldl (addChunk max_output_bytes) ("", false)

theorem turnText_concat (max_output_bytes : Nat) (chunks : List String) (text : String) :
    turnText max_output_bytes (chunks ++ [text]) =
      addChunk max_output_bytes (turnText max_output_bytes chunks) text := by
  rw [turnText, List.foldl_append]
  rfl

/-- All the chunks when they fit, and else the first of them and the marker. -/
def MarkedPrefix (max_output_bytes : Nat) (chunks : List String) (text : String) : Prop :=
  ((String.join chunks).utf8ByteSize ≤ max_output_bytes → text = String.join chunks) ∧
    (max_output_bytes < (String.join chunks).utf8ByteSize →
      ∃ k ≤ chunks.length, text = String.join (chunks.take k) ++ TRUNCATION_MARKER)

/-- After the first chunk that does not fit, every chunk is empty or does not fit behind the
marker either. -/
def Settled (max_output_bytes used : Nat) : List String → Prop
  | [] => True
  | c :: chunks =>
    if used + c.utf8ByteSize ≤ max_output_bytes then
      Settled max_output_bytes (used + c.utf8ByteSize) chunks
    else ∀ d ∈ chunks, d = "" ∨
      max_output_bytes < used + TRUNCATION_MARKER.utf8ByteSize + d.utf8ByteSize

/-- What is put behind the marker. -/
theorem addChunk_marked (max : Nat) (text : String) (chunks : List String) :
    ∃ extra, chunks.foldl (addChunk max) (text, true) = (text ++ extra, true) ∧
      (extra = "" ∨ (text ++ extra).utf8ByteSize ≤ max) ∧
      (extra = "" ↔ ∀ d ∈ chunks, d = "" ∨ max < text.utf8ByteSize + d.utf8ByteSize) := by
  induction chunks generalizing text with
  | nil => exact ⟨"", by rw [String.append_empty]; rfl, .inl rfl, by simp⟩
  | cons c chunks ih =>
    by_cases hfits : text.utf8ByteSize + c.utf8ByteSize ≤ max
    · have hstep : addChunk max (text, true) c = (text ++ c, true) := if_pos hfits
      obtain ⟨extra, hfold, hsize, hiff⟩ := ih (text ++ c)
      refine ⟨c ++ extra, ?_, ?_, ?_⟩
      · rw [List.foldl_cons, hstep, hfold, String.append_assoc]
      · rw [← String.append_assoc]
        obtain rfl | hsize := hsize
        · right
          rw [String.append_empty, String.utf8ByteSize_append]
          exact hfits
        · exact .inr hsize
      · by_cases hc : c = ""
        · subst hc
          rw [String.empty_append, hiff, String.append_empty]
          simp
        · have hne : c ++ extra ≠ "" := by
            intro h
            exact hc (String.append_eq_empty_iff.mp h).1
          refine ⟨fun h => absurd h hne, fun h => ?_⟩
          obtain h | h := h c List.mem_cons_self
          · exact absurd h hc
          · omega
    · have hstep : addChunk max (text, true) c = (text, true) := by
        rw [addChunk, if_neg hfits]
        rfl
      obtain ⟨extra, hfold, hsize, hiff⟩ := ih text
      refine ⟨extra, ?_, hsize, ?_⟩
      · rw [List.foldl_cons, hstep, hfold]
      · rw [hiff]
        refine ⟨fun h d hd => ?_, fun h d hd => h d (List.mem_cons_of_mem c hd)⟩
        obtain rfl | hd := List.mem_cons.mp hd
        · exact .inr (by omega)
        · exact h d hd

/-- A turn by whether its chunks fit: the first that does not leaves the marker. -/
theorem addChunk_cases {max : Nat} (text : String) (htext : text.utf8ByteSize ≤ max)
    (chunks : List String) :
    ((text ++ String.join chunks).utf8ByteSize ≤ max ∧
      chunks.foldl (addChunk max) (text, false) = (text ++ String.join chunks, false) ∧
      Settled max text.utf8ByteSize chunks) ∨
    ∃ before big after extra, chunks = before ++ big :: after ∧
      max < (text ++ String.join (before ++ [big])).utf8ByteSize ∧
      chunks.foldl (addChunk max) (text, false) =
        (text ++ String.join before ++ TRUNCATION_MARKER ++ extra, true) ∧
      (extra = "" ∨ (text ++ String.join before ++ TRUNCATION_MARKER ++ extra).utf8ByteSize ≤ max) ∧
      (extra = "" ↔ Settled max text.utf8ByteSize chunks) := by
  induction chunks generalizing text with
  | nil =>
    refine .inl ⟨?_, ?_, trivial⟩
    · rw [String.join_nil, String.append_empty]
      exact htext
    · rw [String.join_nil, String.append_empty]
      rfl
  | cons c chunks ih =>
    by_cases hfits : text.utf8ByteSize + c.utf8ByteSize ≤ max
    · have hstep : addChunk max (text, false) c = (text ++ c, false) := if_pos hfits
      have hsettled : Settled max text.utf8ByteSize (c :: chunks) =
          Settled max (text ++ c).utf8ByteSize chunks := by
        rw [Settled, if_pos hfits, String.utf8ByteSize_append]
      rw [List.foldl_cons, hstep, hsettled, String.join_cons, ← String.append_assoc]
      obtain h | ⟨before, big, after, extra, rfl, hlong, hfold, hsize, hiff⟩ :=
        ih (text ++ c) (by rw [String.utf8ByteSize_append]; exact hfits)
      · exact .inl h
      · refine .inr ⟨c :: before, big, after, extra, rfl, ?_, ?_, ?_, hiff⟩
        · rw [List.cons_append, String.join_cons, ← String.append_assoc]
          exact hlong
        · rw [String.join_cons, ← String.append_assoc]
          exact hfold
        · rw [String.join_cons, ← String.append_assoc]
          exact hsize
    · have hstep : addChunk max (text, false) c = (text ++ TRUNCATION_MARKER, true) := by
        rw [addChunk, if_neg hfits]
        rfl
      obtain ⟨extra, hfold, hsize, hiff⟩ := addChunk_marked max (text ++ TRUNCATION_MARKER) chunks
      refine .inr ⟨[], c, chunks, extra, rfl, ?_, ?_, ?_, ?_⟩
      · rw [List.nil_append, String.join_cons, String.join_nil, String.append_empty,
          String.utf8ByteSize_append]
        omega
      · rw [List.foldl_cons, hstep, hfold, String.join_nil, String.append_empty]
      · rw [String.join_nil, String.append_empty]
        exact hsize
      · rw [hiff, Settled, if_neg hfits, String.utf8ByteSize_append]

/-- **The text of a turn is a marked prefix exactly when its chunks settle.** -/
theorem turnText_marked_iff (max : Nat) (chunks : List String) :
    MarkedPrefix max chunks (turnText max chunks).1 ↔ Settled max 0 chunks := by
  have hzero : ("" : String).utf8ByteSize = 0 := rfl
  obtain ⟨hfits, hfold, hsettled⟩ |
      ⟨before, big, after, extra, hchunks, hlong, hfold, hsize, hiff⟩ :=
    addChunk_cases "" (Nat.zero_le max) chunks
  · rw [String.empty_append] at hfits hfold
    rw [turnText, hfold]
    exact ⟨fun _ => hsettled, fun _ => ⟨fun _ => rfl, fun hover => absurd hfits (by omega)⟩⟩
  · simp only [String.empty_append] at hlong hfold hsize
    rw [hzero] at hiff
    have htake : ∀ n, (String.join (chunks.take n)).utf8ByteSize ≤
        (String.join chunks).utf8ByteSize := by
      intro n
      have := join_take_le chunks (Nat.le_max_left n chunks.length)
      rwa [List.take_of_length_le (Nat.le_max_right n chunks.length)] at this
    have hbefore : chunks.take before.length = before := by
      rw [hchunks, List.take_left]
    have hbig : chunks.take (before.length + 1) = before ++ [big] := by
      have : chunks = (before ++ [big]) ++ after := by rw [hchunks, List.append_assoc]; rfl
      rw [this]
      exact List.take_left' (by rw [List.length_append]; rfl)
    have hover : max < (String.join chunks).utf8ByteSize := by
      have := htake (before.length + 1)
      rw [hbig] at this
      omega
    rw [turnText, hfold, ← hiff]
    constructor
    · rintro ⟨-, hmarked⟩
      obtain ⟨k, -, htext⟩ := hmarked hover
      obtain hextra | hsize := hsize
      · exact hextra
      · -- by the sizes, the prefix would have to reach beyond the chunk that does not fit
        have hbytes := congrArg String.utf8ByteSize htext
        simp only [String.utf8ByteSize_append] at hbytes hsize hlong
        by_cases hk : k ≤ before.length
        · have hle := join_take_le chunks hk
          rw [hbefore] at hle
          have hempty : extra.utf8ByteSize = 0 := by omega
          exact String.utf8ByteSize_eq_zero_iff.mp hempty
        · have hle := join_take_le chunks (Nat.succ_le_of_lt (Nat.lt_of_not_le hk))
          rw [hbig] at hle
          omega
    · rintro rfl
      refine ⟨fun hfits => absurd hfits (Nat.not_le.mpr hover), fun _ => ⟨before.length, ?_, ?_⟩⟩
      · rw [hchunks, List.length_append]
        omega
      · rw [hbefore, String.append_empty]

/-! ### The prompts of a run -/

/-- What the receivers of a prompt's lanes were sent, for the lanes that it has. -/
structure Lane where
  display : Option (List String)
  durable : Option (List String)

/-- The chunks that arrived for every prompt, and what its lanes received. -/
structure History where
  chunks : Int → List String
  lanes : Int → Lane

/-- The lanes of a request that is written. -/
def Request.lane (r : Request) : Lane where
  display := if r.updates then some [] else none
  durable := if r.durable_updates then some [] else none

/-- `try_send` to the display lane. -/
def Pending.display (answers : RouteAnswers) (text : String) (entry : Pending) (lane : Lane) :
    Lane :=
  if entry.updates && answers.displayed entry.id then
    { lane with display := lane.display.map fun sent => sent ++ [text] }
  else lane

/-- What the body of the loop of `accumulate` sends for one entry. -/
def Pending.deliver (answers : RouteAnswers) (text : String) (entry : Pending) (lane : Lane) :
    Lane :=
  let shown := entry.display answers text lane
  if entry.updates && !answers.displayed entry.id && !entry.durable_updates then shown
  else if entry.durable_updates && answers.durable entry.id then
    { shown with durable := shown.durable.map fun sent => sent ++ [text] }
  else shown

/-- The session and the text of a frame that is a chunk. -/
def chunkOf [WireCrates] (value : Value) : Option (String × String) :=
  match parse value with
  | .ok (.notification method params) =>
    if method = METHOD_SESSION_UPDATE then
      match WireCrates.sessionNotification params with
      | some ⟨session_id, .agentMessageChunk content⟩ =>
        content.asText.map fun text => (session_id, text)
      | _ => none
    else none
  | _ => none

/-- The chunk that a step routes. -/
def Transport.arrival [WireCrates] (t : Transport) : TransportInput →
    Option (RouteAnswers × String × String)
  | .frame answers =>
    match t.phase, t.frames.nextFrame with
    | .routing, (.ok (some value), _) => (chunkOf value).map fun chunk => (answers, chunk)
    | .exiting _, (.ok (some value), _) => (chunkOf value).map fun chunk => (answers, chunk)
    | _, _ => none
  | _ => none

/-- The request that a step writes. -/
def Transport.writing (t : Transport) : TransportInput → Option Request
  | .receive true =>
    match t.phase, t.outgoing with
    | .selecting, .request r :: _ => some r
    | _, _ => none
  | _ => none

namespace History

def empty : History := ⟨fun _ => [], fun _ => ⟨none, none⟩⟩

/-- A chunk of `session_id` reaches the prompts of that session. -/
def chunk (answers : RouteAnswers) (session_id text : String) (pending : List Pending)
    (h : History) : History where
  chunks id :=
    if pending.any fun entry => decide (entry.id = id ∧ entry.session = some session_id) then
      h.chunks id ++ [text]
    else h.chunks id
  lanes id :=
    match pending.find? fun entry => decide (entry.id = id) with
    | some entry =>
      if entry.session = some session_id then entry.deliver answers text (h.lanes id)
      else h.lanes id
    | none => h.lanes id

/-- A prompt is written, and its lanes are empty. -/
def write (r : Request) (h : History) : History :=
  { h with lanes := Function.update h.lanes r.id r.lane }

/-- What a step adds. -/
def step [WireCrates] (t : Transport) (input : TransportInput) (h : History) : History :=
  match t.arrival input, t.writing input with
  | some (answers, session_id, text), _ => h.chunk answers session_id text t.pending
  | none, some r => h.write r
  | none, none => h

end History

/-- The transport and the history after some events. -/
def historyAt [WireCrates] (limits : TransportLimits) (inputs : List TransportInput) :
    Transport × History :=
  inputs.foldl (fun s input => (s.1.step limits input, s.2.step s.1 input))
    (Transport.spawned limits, .empty)

/-- The text of a prompt: the one its response returned, or what is kept for it so far. -/
def Transport.Shows (t : Transport) (id : Int) (text : String) : Prop :=
  (∃ entry ∈ t.pending, entry.id = id ∧ entry.output = text) ∨
    ∃ result, .completed id (.ok ⟨result, text⟩) ∈ t.log

/-! ### The invariant -/

/-- What the history says of the transport. -/
structure Told (limits : TransportLimits) (t : Transport) (h : History) : Prop where
  text : ∀ entry ∈ t.pending, (entry.output, entry.output_truncated) =
    turnText limits.max_output_bytes (h.chunks entry.id)
  durable : ∀ entry ∈ t.pending, (h.lanes entry.id).durable =
    if entry.durable_updates then some (h.chunks entry.id) else none
  returned : ∀ id result text, .completed id (.ok ⟨result, text⟩) ∈ t.log →
    text = (turnText limits.max_output_bytes (h.chunks id)).1 ∧
      ∀ received, (h.lanes id).durable = some received → received = h.chunks id
  unwritten : ∀ id, .wrote id ∉ t.log → h.chunks id = []

/-- A step that adds no prompt, no text and no response. -/
structure Drops (t t' : Transport) : Prop where
  pending : ∀ entry ∈ t'.pending, entry ∈ t.pending
  log : ∃ events, t'.log = t.log ++ events ∧
    ∀ id result, .completed id (.ok result) ∉ events

section

variable {limits : TransportLimits} {t t' : Transport} {h : History}

theorem Told.drops (hold : Told limits t h) (hdrops : Drops t t') : Told limits t' h := by
  obtain ⟨events, hlog, hevents⟩ := hdrops.log
  refine ⟨fun entry he => hold.text entry (hdrops.pending entry he),
    fun entry he => hold.durable entry (hdrops.pending entry he), fun id result text hc => ?_,
    fun id hid => hold.unwritten id fun hw => hid ?_⟩
  · rw [hlog] at hc
    obtain hc | hc := List.mem_append.mp hc
    · exact hold.returned id result text hc
    · exact absurd hc (hevents id _)
  · rw [hlog]
    exact List.mem_append_left _ hw

theorem Drops.refl (t : Transport) : Drops t t :=
  ⟨fun _ he => he, [], (List.append_nil _).symm, fun _ _ => List.not_mem_nil⟩

theorem Drops.trans {t'' : Transport} (h₁ : Drops t t') (h₂ : Drops t' t'') : Drops t t'' := by
  obtain ⟨events, hlog, hevents⟩ := h₁.log
  obtain ⟨events', hlog', hevents'⟩ := h₂.log
  refine ⟨fun entry he => h₁.pending entry (h₂.pending entry he), events ++ events', ?_, ?_⟩
  · rw [hlog', hlog, List.append_assoc]
  · intro id result hc
    obtain hc | hc := List.mem_append.mp hc
    · exact hevents id result hc
    · exact hevents' id result hc

/-- A step that only moves other fields. -/
theorem Drops.of_eq (hpending : t'.pending = t.pending) (hlog : t'.log = t.log) : Drops t t' :=
  ⟨fun _ he => hpending ▸ he, [], by rw [hlog, List.append_nil], fun _ _ => List.not_mem_nil⟩

/-- A step that logs something that is no response. -/
theorem Drops.of_note (hpending : t'.pending = t.pending) (event : TransportEvent)
    (hlog : t'.log = t.log ++ [event]) (hevent : ∀ id result, event ≠ .completed id (.ok result)) :
    Drops t t' :=
  ⟨fun _ he => hpending ▸ he, [event], hlog, fun id result hc =>
    hevent id result (List.mem_singleton.mp hc).symm⟩

theorem Drops.completeAll (results : List (Int × Completion))
    (hresults : ∀ r ∈ results, ∀ result, r.2 ≠ .ok result) :
    Drops t (Transport.completeAll results t) := by
  rw [Transport.completeAll_eq]
  refine ⟨fun _ he => he, _, rfl, fun id result hc => ?_⟩
  obtain ⟨r, hr, heq⟩ := List.mem_map.mp hc
  injection heq with hid hresult
  exact hresults r (List.mem_filter.mp hr).1 result hresult

theorem Drops.stopped (failure : Phase → TransportError) (t : Transport) :
    Drops t (t.stopped failure) := by
  have hempty : Drops t { t with pending := [] } :=
    ⟨fun _ he => absurd he List.not_mem_nil, [], (List.append_nil _).symm,
      fun _ _ => List.not_mem_nil⟩
  refine hempty.trans ((Drops.completeAll (t := { t with pending := [] })
    (t.pending.map fun entry => (entry.id, .error (failure entry.phase))) ?_).trans
      (.of_eq rfl rfl))
  intro r hr result
  obtain ⟨entry, -, rfl⟩ := List.mem_map.mp hr
  nofun

theorem Drops.filter (keep : Pending → Bool) (t : Transport) :
    Drops t { t with pending := t.pending.filter keep } :=
  ⟨fun _ he => (List.mem_filter.mp he).1, [], (List.append_nil _).symm,
    fun _ _ => List.not_mem_nil⟩

theorem Drops.atSelect {next : Transport} (h : Drops t next) : Drops t (t.atSelect next) := by
  unfold Transport.atSelect
  split
  · exact h
  · exact .refl t

theorem Drops.enqueue (message : Outgoing) (t : Transport) : Drops t (t.enqueue message) := by
  unfold Transport.enqueue
  split
  · exact .of_eq rfl rfl
  · exact .refl t

theorem Drops.closed (code : Option Int) (t : Transport) : Drops t (t.closed code) := by
  unfold Transport.closed
  split
  · exact .stopped _ t
  · exact .stopped _ t

theorem Drops.exited (code : Option (Option Int)) (remainder : Option Bytes) (t : Transport) :
    Drops t (t.exited code remainder) := by
  unfold Transport.exited
  split
  · exact .stopped _ t
  · exact .of_eq rfl rfl

theorem Drops.reaped (t : Transport) : Drops t t.reaped := by
  have hset : Drops t { t with alive := false, outgoing := [], phase := .ended } :=
    .of_eq rfl rfl
  refine hset.trans (Drops.completeAll t.unread ?_)
  intro r hr result
  obtain ⟨message, -, hmessage⟩ := List.mem_filterMap.mp hr
  cases message with
  | request request =>
    cases hmessage
    nofun
  | notification method params => cases hmessage
  | cancel id => cases hmessage
  | shutdown => cases hmessage

theorem Drops.send (id : Int) (t : Transport) : Drops t (t.send id) := by
  unfold Transport.send
  split
  · exact .refl t
  · split
    · exact .of_eq rfl rfl
    · split
      · exact .of_note rfl (.accepted id) rfl nofun
      · exact .refl t

theorem Drops.abandon (id : Int) (t : Transport) : Drops t (t.abandon id) := by
  unfold Transport.abandon
  split
  · exact .of_note rfl (.abandoned id) rfl nofun
  · exact .refl t

/-- A message of the channel that writes no request. -/
theorem Drops.receive {written : Bool} (hnot : t.phase = .selecting → written = true →
    ∀ r rest, t.outgoing ≠ .request r :: rest) : Drops t (t.atSelect (t.receive written)) := by
  unfold Transport.atSelect
  split
  · next hphase =>
    unfold Transport.receive
    split
    · exact .refl t
    · next message rest houtgoing =>
      have htaken : Drops t { t with outgoing := rest, phase := .sweeping } := .of_eq rfl rfl
      refine htaken.trans ?_
      cases message with
      | request r =>
        cases written with
        | true => exact absurd houtgoing (hnot hphase rfl r rest)
        | false =>
          refine Drops.trans (Drops.completeAll [(r.id, .error (.frame .io))] ?_) (.stopped _ _)
          intro x hx result
          rw [List.mem_singleton.mp hx]
          nofun
      | notification method params =>
        cases written with
        | true => exact .of_eq rfl rfl
        | false => exact .refl _
      | cancel id => exact .filter _ _
      | shutdown => exact .stopped _ _
  · exact .refl t

/-! ### The steps that add something -/

theorem pending_of_mem {entry : Pending} (he : entry ∈ t.pending) : entry.id ∈ t.ledger.pending :=
  List.mem_map_of_mem he

/-- A prompt is written. -/
theorem Told.write (hold : Told limits t h) (hinv : TransportInv t) {r : Request}
    {rest : List Outgoing} (houtgoing : t.outgoing = .request r :: rest) {t' : Transport}
    (hpending : t'.pending =
      (t.pending.filter fun entry => decide (entry.id ≠ r.id)) ++ [r.pending])
    (hlog : t'.log = t.log ++ [.wrote r.id]) : Told limits t' (h.write r) := by
  have hqueued : r.id ∈ t.ledger.queued := by
    show r.id ∈ t.outgoing.filterMap Outgoing.requestId
    rw [houtgoing]
    exact List.mem_cons_self
  have hchunks : h.chunks r.id = [] :=
    hold.unwritten r.id (hinv.ledger.unwritten r.id (List.mem_append_right _ hqueued))
  refine ⟨?_, ?_, ?_, ?_⟩
  · intro entry he
    rw [hpending] at he
    obtain he | he := List.mem_append.mp he
    · exact hold.text entry (List.mem_filter.mp he).1
    · rw [List.mem_singleton.mp he]
      show _ = turnText _ (h.chunks r.id)
      rw [hchunks]
      rfl
  · intro entry he
    rw [hpending] at he
    obtain he | he := List.mem_append.mp he
    · obtain ⟨he, hne⟩ := List.mem_filter.mp he
      show (Function.update h.lanes r.id r.lane entry.id).durable = _
      rw [Function.update_of_ne (of_decide_eq_true hne)]
      exact hold.durable entry he
    · rw [List.mem_singleton.mp he]
      show (Function.update h.lanes r.id r.lane r.id).durable = _
      rw [Function.update_self]
      show (if r.durable_updates then some [] else none) =
        if r.durable_updates then some (h.chunks r.id) else none
      rw [hchunks]
  · intro id result text hc
    rw [hlog] at hc
    obtain hc | hc := List.mem_append.mp hc
    · have hne : id ≠ r.id := by
        rintro rfl
        exact hinv.ledger.uncompleted r.id
          (List.mem_append_right _ (List.mem_append_left _ hqueued))
          (List.mem_filterMap.mpr ⟨_, hc, rfl⟩)
      show text = _ ∧ ∀ received, (Function.update h.lanes r.id r.lane id).durable = _ → _
      rw [Function.update_of_ne hne]
      exact hold.returned id result text hc
    · cases List.mem_singleton.mp hc
  · intro id hid
    refine hold.unwritten id fun hw => hid ?_
    rw [hlog]
    exact List.mem_append_left _ hw

/-- A response takes the text of its prompt. -/
theorem Told.respond (hold : Told limits t h) (numeric : Int)
    (outcome : Except JsonRpcErrorObject Value) :
    Told limits (routeResponse numeric outcome t) h := by
  unfold routeResponse
  cases hfound : t.pending.find? fun entry => decide (entry.id = numeric) with
  | none => exact hold.drops (.of_note rfl (.responded numeric outcome) rfl nofun)
  | some entry =>
    have hentry := List.mem_of_find?_eq_some hfound
    have hid : entry.id = numeric := by
      have hmatch := List.find?_some hfound
      exact of_decide_eq_true hmatch
    have hnoted : Drops t (t.note (.responded numeric outcome)) :=
      .of_note rfl (.responded numeric outcome) rfl nofun
    have hremoved : Drops t ((t.note (.responded numeric outcome)).remove numeric) :=
      hnoted.trans (.filter _ _)
    have hold' := hold.drops hremoved
    show Told limits (Transport.complete numeric (answer outcome entry.output)
      ((t.note (.responded numeric outcome)).remove numeric)) h
    unfold Transport.complete
    split
    · exact hold'
    · refine ⟨hold'.text, hold'.durable, fun id result text hc => ?_,
        fun id hw => hold'.unwritten id fun h => hw (List.mem_append_left _ h)⟩
      obtain hc | hc := List.mem_append.mp hc
      · exact hold'.returned id result text hc
      · -- the completion that this response makes
        have heq := List.mem_singleton.mp hc
        cases outcome with
        | error source => cases heq
        | ok value =>
          cases heq
          have htext := congrArg Prod.fst (hold.text entry hentry)
          have hdurable := hold.durable entry hentry
          rw [hid] at htext hdurable
          refine ⟨htext, fun received hreceived => ?_⟩
          rw [hdurable] at hreceived
          split at hreceived
          · exact (Option.some.inj hreceived).symm
          · cases hreceived

/-- A chunk changes nothing of a prompt that is not pending. -/
theorem History.chunk_absent (answers : RouteAnswers) (session_id text : String) {id : Int}
    (hid : id ∉ t.ledger.pending) :
    (h.chunk answers session_id text t.pending).chunks id = h.chunks id ∧
      (h.chunk answers session_id text t.pending).lanes id = h.lanes id := by
  have hany : (t.pending.any fun entry =>
      decide (entry.id = id ∧ entry.session = some session_id)) = false := by
    rw [List.any_eq_false]
    intro entry he hmatch
    exact hid ((of_decide_eq_true hmatch).1 ▸ pending_of_mem he)
  have hfind : (t.pending.find? fun entry => decide (entry.id = id)) = none := by
    rw [List.find?_eq_none]
    intro entry he hmatch
    exact hid (of_decide_eq_true hmatch ▸ pending_of_mem he)
  constructor
  · show (if _ then _ else _) = _
    rw [hany]
    rfl
  · show (match t.pending.find? fun entry => decide (entry.id = id) with
      | some entry => _
      | none => _) = _
    rw [hfind]

/-- A chunk for a pending prompt. -/
theorem History.chunk_pending (hinv : TransportInv t) (answers : RouteAnswers)
    (session_id text : String) {entry : Pending} (he : entry ∈ t.pending) :
    (h.chunk answers session_id text t.pending).chunks entry.id =
        (if entry.session = some session_id then h.chunks entry.id ++ [text]
          else h.chunks entry.id) ∧
      (h.chunk answers session_id text t.pending).lanes entry.id =
        if entry.session = some session_id then entry.deliver answers text (h.lanes entry.id)
        else h.lanes entry.id := by
  have hsame : ∀ other ∈ t.pending, other.id = entry.id → other = entry := fun other hother hid =>
    hinv.entry_unique hother he hid
  constructor
  · show (if _ then _ else _) = _
    by_cases hsession : entry.session = some session_id
    · rw [if_pos hsession, if_pos]
      exact List.any_eq_true.mpr ⟨entry, he, decide_eq_true ⟨rfl, hsession⟩⟩
    · rw [if_neg hsession, if_neg]
      intro hany
      obtain ⟨other, hother, hmatch⟩ := List.any_eq_true.mp hany
      obtain ⟨hid, hother'⟩ := of_decide_eq_true hmatch
      exact hsession (hsame other hother hid ▸ hother')
  · have hfind : (t.pending.find? fun other => decide (other.id = entry.id)) = some entry := by
      cases hfound : t.pending.find? fun other => decide (other.id = entry.id) with
      | none => exact absurd (decide_eq_true rfl) (List.find?_eq_none.mp hfound entry he)
      | some other =>
        have hmatch := List.find?_some hfound
        rw [hsame other (List.mem_of_find?_eq_some hfound) (of_decide_eq_true hmatch)]
    show (match t.pending.find? fun other => decide (other.id = entry.id) with
      | some other => _
      | none => _) = _
    rw [hfind]

/-- The text of an entry grows as a turn does. -/
theorem extend_addChunk (max_output_bytes : Nat) {session_id : String} (text : String)
    {entry : Pending} (hsession : entry.session = some session_id) :
    ((entry.extend max_output_bytes session_id text).output,
        (entry.extend max_output_bytes session_id text).output_truncated) =
      addChunk max_output_bytes (entry.output, entry.output_truncated) text := by
  unfold Pending.extend addChunk
  rw [if_neg (not_not.mpr hsession)]
  split
  · rfl
  · split
    · rfl
    · rfl

theorem extend_durable_updates (max_output_bytes : Nat) (session_id text : String)
    (entry : Pending) :
    (entry.extend max_output_bytes session_id text).durable_updates = entry.durable_updates := by
  unfold Pending.extend
  split
  · rfl
  · split
    · rfl
    · split
      · rfl
      · rfl

theorem display_durable (answers : RouteAnswers) (text : String) (entry : Pending) (lane : Lane) :
    (entry.display answers text lane).durable = lane.durable := by
  unfold Pending.display
  split
  · rfl
  · rfl

/-- **A durable lane takes the chunk whatever the display lane does.** -/
theorem deliver_durable {answers : RouteAnswers} {session_id : String} (text : String)
    {entry : Pending} (hsession : entry.session = some session_id)
    (hbreak : entry.breaks answers session_id = false) (lane : Lane) :
    (entry.deliver answers text lane).durable =
      if entry.durable_updates then lane.durable.map fun sent => sent ++ [text]
      else lane.durable := by
  have hshown := display_durable answers text entry lane
  unfold Pending.deliver
  cases hdurable : entry.durable_updates with
  | true =>
    simp only [Pending.breaks, hsession, hdurable, decide_true, Bool.true_and,
      Bool.not_eq_false'] at hbreak
    simp only [hbreak, Bool.not_true, Bool.and_false, Bool.false_eq_true, if_false, Bool.and_self,
      if_true, hshown]
  | false =>
    simp only [Bool.false_and, Bool.false_eq_true, if_false, ite_self]
    exact hshown

/-- A chunk reaches the entries that stay. -/
theorem Told.chunk (hold : Told limits t h) (hinv : TransportInv t) {answers : RouteAnswers}
    {session_id text : String} {t' : Transport}
    (hpending : ∀ entry ∈ t'.pending, ∃ old ∈ t.pending,
      entry = old.extend limits.max_output_bytes session_id text ∧
      old.breaks answers session_id = false)
    {events : List TransportEvent} (hlog : t'.log = t.log ++ events)
    (hevents : ∀ id result, .completed id (.ok result) ∉ events) :
    Told limits t' (h.chunk answers session_id text t.pending) := by
  refine ⟨?_, ?_, ?_, ?_⟩
  · intro entry he
    obtain ⟨old, hmem, rfl, -⟩ := hpending entry he
    have htext := hold.text old hmem
    rw [extend_id, (History.chunk_pending hinv answers session_id text hmem).1]
    by_cases hsession : old.session = some session_id
    · rw [if_pos hsession, turnText_concat, ← htext]
      exact extend_addChunk limits.max_output_bytes text hsession
    · rw [if_neg hsession, ← htext]
      unfold Pending.extend
      rw [if_pos hsession]
  · intro entry he
    obtain ⟨old, hmem, rfl, hbreak⟩ := hpending entry he
    have hdurable := hold.durable old hmem
    obtain ⟨hchunks, hlanes⟩ := History.chunk_pending (h := h) hinv answers session_id text hmem
    rw [extend_id, extend_durable_updates, hchunks, hlanes]
    by_cases hsession : old.session = some session_id
    · rw [if_pos hsession, if_pos hsession, deliver_durable text hsession hbreak, hdurable]
      split <;> rfl
    · rw [if_neg hsession, if_neg hsession]
      exact hdurable
  · intro id result text' hc
    rw [hlog] at hc
    obtain hc | hc := List.mem_append.mp hc
    · have hid : id ∉ t.ledger.pending := fun hid =>
        hinv.ledger.uncompleted id (List.mem_append_right _ (List.mem_append_right _ hid))
          (List.mem_filterMap.mpr ⟨_, hc, rfl⟩)
      obtain ⟨hchunks, hlanes⟩ := History.chunk_absent (h := h) answers session_id text hid
      rw [hchunks, hlanes]
      exact hold.returned id result text' hc
    · exact absurd hc (hevents id _)
  · intro id hid
    have hlogged : .wrote id ∉ t.log := by
      intro hw
      apply hid
      rw [hlog]
      exact List.mem_append_left _ hw
    have habsent : id ∉ t.ledger.pending := by
      intro hp
      obtain ⟨before, after, hsplit, -⟩ := hinv.ledger.waiting id hp
      apply hlogged
      show _ ∈ t.ledger.log
      rw [hsplit]
      exact List.mem_append_right _ List.mem_cons_self
    rw [(History.chunk_absent (h := h) answers session_id text habsent).1]
    exact hold.unwritten id hlogged

/-! ### Frames -/

variable [WireCrates]

theorem route_chunk {value : Value} {session_id text : String}
    (hchunk : chunkOf value = some (session_id, text)) (answers : RouteAnswers) (t : Transport) :
    route limits answers value t = accumulateText limits answers session_id text t := by
  unfold chunkOf at hchunk
  split at hchunk
  · next method params hparse =>
    split at hchunk
    · next hmethod =>
      split at hchunk
      · next sid content hnotification =>
        obtain ⟨found, hfound, heq⟩ := Option.map_eq_some_iff.mp hchunk
        cases heq
        rw [route, hparse]
        simp only [hmethod, if_true, accumulate, hnotification, hfound]
      · cases hchunk
    · cases hchunk
  · cases hchunk

/-- A frame that is no chunk is a response, or adds nothing. -/
theorem route_other {value : Value} (hchunk : chunkOf value = none) {answers : RouteAnswers}
    (hroute : route limits answers value t = .ok t') :
    (∃ numeric outcome, t' = routeResponse numeric outcome t) ∨ Drops t t' := by
  unfold route at hroute
  split at hroute
  · cases hroute
  · next id outcome hparse =>
    split at hroute
    · cases hroute
      exact .inr (.refl t)
    · next numeric hnumeric =>
      cases hroute
      exact .inl ⟨numeric, outcome, rfl⟩
  · next method params hparse =>
    split at hroute
    · next hmethod =>
      unfold chunkOf at hchunk
      rw [hparse] at hchunk
      simp only [hmethod, if_true] at hchunk
      unfold accumulate at hroute
      split at hroute
      · cases hroute
        exact .inr (.refl t)
      · next notification hnotification =>
        rw [hnotification] at hchunk
        obtain ⟨sid, update⟩ := notification
        cases update with
        | other =>
          cases hroute
          exact .inr (.refl t)
        | agentMessageChunk content =>
          have htext : content.asText = none := Option.map_eq_none_iff.mp hchunk
          simp only [htext] at hroute
          cases hroute
          exact .inr (.refl t)
    · cases hroute
      exact .inr (.refl t)
  · split at hroute
    · cases hroute
      exact .inr (.of_eq rfl rfl)
    · cases hroute

/-- What a frame adds to the history. -/
def History.frame (answers : RouteAnswers) (t : Transport) (h : History) : History :=
  match t.frames.nextFrame with
  | (.ok (some value), _) =>
    match chunkOf value with
    | some (session_id, text) => h.chunk answers session_id text t.pending
    | none => h
  | _ => h

theorem Told.frame (hold : Told limits t h) (hinv : TransportInv t) (answers : RouteAnswers) :
    Told limits (t.routeNext limits answers) (h.frame answers t) := by
  obtain ⟨x, frames, hnext⟩ : ∃ x frames, t.frames.nextFrame = (x, frames) := ⟨_, _, rfl⟩
  have hmoved : Drops t { t with frames := frames } := .of_eq rfl rfl
  have hinv' : TransportInv { t with frames := frames } :=
    ⟨hinv.ledger, hinv.next_id, hinv.cancels, hinv.emptied, hinv.ended⟩
  have hend : ∀ failure, Drops t (({ t with frames := frames } : Transport).stopped failure) :=
    fun failure => hmoved.trans (.stopped failure _)
  unfold Transport.routeNext History.frame
  rw [hnext]
  cases x with
  | error source => exact hold.drops (hend _)
  | ok frame =>
    cases frame with
    | none =>
      dsimp only
      split
      · split
        · exact hold.drops (hend _)
        · exact hold.drops (hend _)
      · exact hold.drops (.of_eq rfl rfl)
    | some value =>
      dsimp only
      cases hchunk : chunkOf value with
      | none =>
        dsimp only
        cases hroute : route limits answers value { t with frames := frames } with
        | error error => exact hold.drops (hend _)
        | ok t' =>
          obtain ⟨numeric, outcome, rfl⟩ | hdrops := route_other hchunk hroute
          · exact (hold.drops hmoved).respond numeric outcome
          · exact hold.drops (hmoved.trans hdrops)
      | some chunk =>
        obtain ⟨session_id, text⟩ := chunk
        rw [route_chunk hchunk]
        unfold accumulateText
        by_cases hbreaks : t.pending.any (Pending.breaks answers session_id) = true
        · -- an owner has stopped: every prompt is failed
          rw [if_pos hbreaks]
          obtain ⟨events, hlog, hevents⟩ := (hend fun _ => .transportClosed).log
          refine (hold.drops hmoved).chunk hinv' (fun entry he => ?_) hlog hevents
          rw [Transport.stopped_eq] at he
          exact absurd he List.not_mem_nil
        · rw [if_neg hbreaks]
          have hover : ∀ r ∈ overflowed answers session_id t.pending, ∀ result,
              r.2 ≠ .ok result := by
            intro r hr result
            obtain ⟨entry, -, rfl⟩ := List.mem_map.mp hr
            nofun
          obtain ⟨events, hlog, hevents⟩ := (Drops.completeAll (t := { t with
            frames := frames
            pending := extendAll limits answers session_id text t.pending }) _ hover).log
          refine (hold.drops hmoved).chunk hinv' (fun entry he => ?_) hlog hevents
          rw [Transport.completeAll_eq] at he
          obtain ⟨old, hmem, rfl⟩ := List.mem_map.mp he
          rw [Bool.not_eq_true, List.any_eq_false] at hbreaks
          obtain ⟨hmem, -⟩ := List.mem_filter.mp hmem
          exact ⟨old, hmem, rfl, Bool.eq_false_iff.mpr (hbreaks old hmem)⟩

/-! ### Steps and runs -/

/-- Where frames are read, the history takes the chunk of the frame. -/
theorem History.step_framed {answers : RouteAnswers}
    (hphase : t.phase = .routing ∨ ∃ detail, t.phase = .exiting detail) :
    h.step t (.frame answers) = h.frame answers t := by
  unfold History.step Transport.arrival Transport.writing History.frame
  obtain ⟨x, frames, hnext⟩ : ∃ x frames, t.frames.nextFrame = (x, frames) := ⟨_, _, rfl⟩
  rw [hnext]
  cases x with
  | error source => rcases hphase with hphase | ⟨detail, hphase⟩ <;> rw [hphase]
  | ok frame =>
    cases frame with
    | none => rcases hphase with hphase | ⟨detail, hphase⟩ <;> rw [hphase]
    | some value =>
      rcases hphase with hphase | ⟨detail, hphase⟩
      · rw [hphase]
        dsimp only
        cases chunkOf value <;> rfl
      · rw [hphase]
        dsimp only
        cases chunkOf value <;> rfl

/-- A frame that is not read leaves the history as it is. -/
theorem History.step_unread {answers : RouteAnswers}
    (harrival : t.arrival (.frame answers) = none) : h.step t (.frame answers) = h := by
  unfold History.step
  rw [harrival]
  rfl

/-- **The step lemma.** -/
theorem Told.step (hold : Told limits t h) (hinv : TransportInv t) (input : TransportInput) :
    Told limits (t.step limits input) (h.step t input) := by
  cases input with
  | call phase method params updates durable_updates =>
    refine hold.drops ?_
    show Drops t (t.call phase method params updates durable_updates)
    unfold Transport.call
    split
    · exact .of_eq rfl rfl
    · exact .refl t
  | send id => exact hold.drops (.send id t)
  | abandon id => exact hold.drops (.abandon id t)
  | cancel id =>
    refine hold.drops ?_
    show Drops t (t.cancel id)
    unfold Transport.cancel
    split
    · exact .enqueue _ t
    · exact .refl t
  | notify method params => exact hold.drops (.enqueue _ t)
  | shutdown => exact hold.drops (.enqueue _ t)
  | sweep =>
    refine hold.drops ?_
    show Drops t (if t.phase = .sweeping then { t.sweepAbandoned with phase := .selecting } else t)
    split
    · exact Drops.trans (.filter _ t) (.of_eq rfl rfl)
    · exact .refl t
  | closed code => exact hold.drops (Drops.closed code t).atSelect
  | bytes chunk =>
    have hpushed : Drops t { t with frames := t.frames.push chunk, phase := .routing } :=
      .of_eq rfl rfl
    exact hold.drops hpushed.atSelect
  | readFailed => exact hold.drops (Drops.stopped _ t).atSelect
  | hungUp =>
    refine hold.drops (Drops.atSelect ?_)
    split
    · exact .stopped _ t
    · exact .refl t
  | stderr =>
    have hswept : Drops t { t with phase := .sweeping } := .of_eq rfl rfl
    exact hold.drops hswept.atSelect
  | exited code remainder => exact hold.drops (Drops.exited code remainder t).atSelect
  | reaped =>
    refine hold.drops ?_
    show Drops t (if t.phase = .terminating then t.reaped else t)
    split
    · exact .reaped t
    · exact .refl t
  | receive written =>
    show Told limits (t.atSelect (t.receive written)) _
    by_cases hwrites : ∃ r rest, t.phase = .selecting ∧ written = true ∧
        t.outgoing = .request r :: rest
    · obtain ⟨r, rest, hphase, rfl, houtgoing⟩ := hwrites
      have hhistory : h.step t (.receive true) = h.write r := by
        unfold History.step Transport.arrival Transport.writing
        rw [hphase, houtgoing]
      have hstate : t.atSelect (t.receive true) =
          ((({ t with outgoing := rest, phase := .sweeping } : Transport).writeFrame
            (requestEnvelope r.id r.method r.params)).note (.wrote r.id)).insert r.pending := by
        unfold Transport.atSelect Transport.receive
        rw [if_pos hphase, houtgoing]
        rfl
      rw [hhistory, hstate]
      exact hold.write hinv houtgoing rfl rfl
    · have hwriting : t.writing (.receive written) = none := by
        cases written with
        | false => rfl
        | true =>
          dsimp only [Transport.writing]
          split
          · next r rest hphase houtgoing =>
            exact absurd ⟨r, rest, hphase, rfl, houtgoing⟩ hwrites
          · rfl
      have hhistory : h.step t (.receive written) = h := by
        unfold History.step
        rw [hwriting]
        rfl
      rw [hhistory]
      exact hold.drops (.receive fun hphase hwritten r rest houtgoing =>
        hwrites ⟨r, rest, hphase, hwritten, houtgoing⟩)
  | frame answers =>
    show Told limits (t.atFrame (t.routeNext limits answers)) _
    unfold Transport.atFrame
    cases hphase : t.phase with
    | routing =>
      rw [History.step_framed (.inl hphase)]
      exact hold.frame hinv answers
    | exiting detail =>
      rw [History.step_framed (.inr ⟨detail, hphase⟩)]
      exact hold.frame hinv answers
    | sweeping =>
      rw [History.step_unread (by rw [Transport.arrival, hphase])]
      exact hold
    | selecting =>
      rw [History.step_unread (by rw [Transport.arrival, hphase])]
      exact hold
    | terminating =>
      rw [History.step_unread (by rw [Transport.arrival, hphase])]
      exact hold
    | ended =>
      rw [History.step_unread (by rw [Transport.arrival, hphase])]
      exact hold

end

/-- **The run lemma.** -/
theorem told_historyAt [WireCrates] (limits : TransportLimits) (inputs : List TransportInput) :
    (historyAt limits inputs).1 = transportAt limits inputs ∧
      Told limits (transportAt limits inputs) (historyAt limits inputs).2 := by
  induction inputs using List.reverseRecOn with
  | nil =>
    exact ⟨rfl, fun _ he => absurd he List.not_mem_nil, fun _ he => absurd he List.not_mem_nil,
      fun _ _ _ hc => absurd hc List.not_mem_nil, fun _ _ => rfl⟩
  | append_singleton inputs input ih =>
    obtain ⟨hstate, htold⟩ := ih
    have hhistory : historyAt limits (inputs ++ [input]) =
        ((historyAt limits inputs).1.step limits input,
          (historyAt limits inputs).2.step (historyAt limits inputs).1 input) := by
      rw [historyAt, List.foldl_append]
      rfl
    have htransport : transportAt limits (inputs ++ [input]) =
        (transportAt limits inputs).step limits input := by
      rw [transportAt, List.foldl_append]
      rfl
    rw [hhistory, htransport, hstate]
    exact ⟨rfl, htold.step (transport_inv limits inputs) input⟩

/-- **The text of a turn, in every run.**  What a prompt shows, and what its response returns,
is a marked prefix of its chunks exactly when these settle; and a durable lane of a prompt that
is pending or answered was sent every chunk once and in order, whatever the display lane did. -/
theorem turn_text_iff [WireCrates] (limits : TransportLimits) (inputs : List TransportInput) :
    let t := transportAt limits inputs
    let h := (historyAt limits inputs).2
    ∀ id text, t.Shows id text →
      (MarkedPrefix limits.max_output_bytes (h.chunks id) text ↔
        Settled limits.max_output_bytes 0 (h.chunks id)) ∧
      ∀ received, (h.lanes id).durable = some received → received = h.chunks id := by
  intro t h id text hshows
  have htold : Told limits t h := (told_historyAt limits inputs).2
  obtain ⟨entry, he, rfl, rfl⟩ | ⟨result, hc⟩ := hshows
  · have htext : entry.output = (turnText limits.max_output_bytes (h.chunks entry.id)).1 :=
      congrArg Prod.fst (htold.text entry he)
    have hdurable := htold.durable entry he
    refine ⟨?_, fun received hreceived => ?_⟩
    · rw [htext]
      exact turnText_marked_iff _ _
    · rw [hdurable] at hreceived
      split at hreceived
      · exact (Option.some.inj hreceived).symm
      · cases hreceived
  · obtain ⟨rfl, hreceived⟩ := htold.returned id result text hc
    exact ⟨turnText_marked_iff _ _, hreceived⟩

/-! ### A small chunk behind the marker -/

/-- The step that routes a written value. -/
theorem step_written [WireCrates] {limits : TransportLimits} {t : Transport} {h : History}
    (value : Value) {limit : Nat} (rest : Bytes) (hphase : t.phase = .routing)
    (hframes : t.frames = ⟨writeFrame value ++ rest, limit⟩) (hvalid : value.valid = true)
    (hlimit : (Utf8.encode value.text).length ≤ limit)
    (hparse : WireCrates.fromStr (String.ofList value.text) = .ok value)
    (answers : RouteAnswers) :
    (t.step limits (.frame answers), h.step t (.frame answers)) =
      (match route limits answers value { t with frames := ⟨rest, limit⟩ } with
        | .ok t => t
        | .error _ => ({ t with frames := ⟨rest, limit⟩ } : Transport).stopped
            fun _ => .transportClosed,
      match chunkOf value with
        | some (session_id, text) => h.chunk answers session_id text t.pending
        | none => h) := by
  have hnext := FrameReader.nextFrame_written hvalid hlimit hparse rest
  cases t with
  | mk next_id alive calling outgoing pending gone frames stdin phase log =>
    cases hphase
    cases hframes
    unfold History.step Transport.arrival
    simp only [Transport.step, Transport.atFrame, Transport.routeNext, hnext]
    cases chunkOf value <;> rfl

/-- A chunk of the session `s`. -/
def chunkFrame (text : String) : Value :=
  notificationEnvelope METHOD_SESSION_UPDATE (.object [("sessionId", .string "s"),
    ("update", .object [("sessionUpdate", .string "agent_message_chunk"),
      ("content", .object [("type", .string "text"), ("text", .string text)])])])

theorem chunkFrame_read (text : String) :
    WireCrates.fromStr (String.ofList (chunkFrame text).text) = .ok (chunkFrame text) :=
  Reference.fromStr_render (.obj [("jsonrpc", .str "2.0"), ("method", .str METHOD_SESSION_UPDATE),
    ("params", .obj [("sessionId", .str "s"),
      ("update", .obj [("sessionUpdate", .str "agent_message_chunk"),
        ("content", .obj [("type", .str "text"), ("text", .str text)])])])]) rfl rfl

theorem nullAnswer_read : WireCrates.fromStr (String.ofList
    (successEnvelope (.number 1) .null).text) = .ok (successEnvelope (.number 1) .null) :=
  Reference.fromStr_render (.obj [("jsonrpc", .str "2.0"), ("id", .num 1), ("result", .null)])
    rfl rfl

/-- Twenty bytes of room: a chunk of twenty-one bytes, a chunk of one byte, and the response. -/
def smallChunkRun : List TransportInput :=
  [.call .prompt METHOD_SESSION_PROMPT (.object [("sessionId", .string "s")]) false false,
    .send 1, .sweep, .receive true, .sweep,
    .bytes (writeFrame (chunkFrame "abcdefghijklmnopqrstu") ++ (writeFrame (chunkFrame "v") ++
      (writeFrame (successEnvelope (.number 1) .null) ++ []))),
    .frame ⟨fun _ => true, fun _ => true, true⟩, .frame ⟨fun _ => true, fun _ => true, true⟩,
    .frame ⟨fun _ => true, fun _ => true, true⟩]

theorem smallChunkRun_at :
    (historyAt ⟨4096, 20⟩ smallChunkRun).1.log =
        [.accepted 1, .wrote 1, .responded 1 (.ok .null),
          .completed 1 (.ok ⟨.null, "…[truncated]v"⟩)] ∧
      (historyAt ⟨4096, 20⟩ smallChunkRun).2.chunks 1 = ["abcdefghijklmnopqrstu", "v"] := by
  rw [historyAt, smallChunkRun, List.foldl, List.foldl, List.foldl, List.foldl, List.foldl,
    List.foldl, List.foldl,
    step_written (chunkFrame "abcdefghijklmnopqrstu") _ rfl rfl (by decide) (by decide +kernel)
      (chunkFrame_read _), List.foldl,
    step_written (chunkFrame "v") _ rfl rfl (by decide) (by decide +kernel) (chunkFrame_read _),
    List.foldl,
    step_written (successEnvelope (.number 1) .null) _ rfl rfl (by decide) (by decide)
      nullAnswer_read]
  exact ⟨rfl, rfl⟩

/-- The response of this run returns the marker with the last chunk behind it. -/
theorem turn_text_not_prefix : ¬ ∀ (limits : TransportLimits) (inputs : List TransportInput)
    (id : Int) (text : String), (transportAt limits inputs).Shows id text →
    MarkedPrefix limits.max_output_bytes ((historyAt limits inputs).2.chunks id) text := by
  intro hall
  obtain ⟨hlog, hchunks⟩ := smallChunkRun_at
  rw [(told_historyAt _ _).1] at hlog
  have hreturned : .completed 1 (.ok ⟨.null, "…[truncated]v"⟩) ∈
      (transportAt ⟨4096, 20⟩ smallChunkRun).log := by
    rw [hlog]
    simp
  have hmarked := hall ⟨4096, 20⟩ smallChunkRun 1 "…[truncated]v" (.inr ⟨.null, hreturned⟩)
  rw [hchunks] at hmarked
  obtain ⟨k, hk, htext⟩ := hmarked.2 (by decide)
  have hk' : k = 0 ∨ k = 1 ∨ k = 2 := by
    have : k ≤ 2 := hk
    omega
  obtain rfl | rfl | rfl := hk'
  · exact absurd htext (by decide)
  · exact absurd htext (by decide)
  · exact absurd htext (by decide)

end Acp

end GuiguBridge
