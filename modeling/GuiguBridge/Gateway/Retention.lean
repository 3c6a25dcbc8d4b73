import GuiguBridge.Gateway.System
import GuiguBridge.ReferenceLaws

/-!
# Retained bytes

What the gateway keeps is bounded by `RETAINED_BYTES_HIGH`: an admission asks for room before
it stores its envelope, and a start refuses a store that is over the bound
(`validate_retained_bytes` of `src/src/gateway.rs`).  **A reservation stores its envelope
without asking.**

* `Retained` — every row states its size, and the sum is below the bound;
* `GatewayCall.WithinBudget` — the reservation that finds room;
* `retained_iff` — a run keeps the bound exactly when each of its reservations found room;
* `flood` — reservations of small envelopes that fill the store.
-/

namespace GuiguBridge

open Relational

/-- What `validate_retained_bytes` asks of a store. -/
structure Retained (db : Db) : Prop where
  sized : ∀ r ∈ db.gatewayEnvelopes.rows, r.retained_bytes = db.retainedBy r
  below : db.retainedBytes < retainedBytesHigh

theorem retained_iff_validate (db : Db) : Retained db ↔ validateRetainedBytes db = true := by
  rw [validateRetainedBytes, Bool.and_eq_true, List.all_eq_true, decide_eq_true_eq]
  constructor
  · intro h
    exact ⟨fun r hr => decide_eq_true (h.sized r hr), h.below⟩
  · intro h
    exact ⟨fun r hr => of_decide_eq_true (h.1 r hr), h.2⟩

/-- Without artifacts the size of a row is that of its text. -/
theorem GatewayInv.retainedBy {db : Db} (h : GatewayInv db) (r : GatewayEnvelopeRow) :
    db.retainedBy r = r.canonical_json.utf8ByteSize := by
  simp [Db.retainedBy, h.artifacts]

theorem GatewayInv.retained {db : Db} (h : GatewayInv db)
    (hbelow : db.retainedBytes < retainedBytesHigh) : Retained db where
  sized := by
    intro r hr
    rw [h.retainedBy]
    exact h.sized r hr
  below := hbelow

section

variable [Externals]

/-- A reservation that will store its envelope has room for it.  Every other call asks, or adds
nothing. -/
def GatewayCall.WithinBudget (db : Db) : GatewayCall → Prop
  | .reserveOutbound envelope _ _ _ generation owner =>
    db.envelopeFree (envelope.outboundRow generation owner) = true →
      (envelope.outboundRow generation owner).check = true →
        db.retainedBytes + envelope.encodedLen < retainedBytesHigh
  | _ => True

omit [Externals] in
theorem retainedBytes_congr {db db' : Db} (h : db'.gatewayEnvelopes = db.gatewayEnvelopes) :
    db'.retainedBytes = db.retainedBytes := by
  rw [Db.retainedBytes, h]
  rfl

omit [Externals] in
theorem updateDelivery_envelopes {p : GatewayDeliveryRow → Bool}
    {f : GatewayDeliveryRow → GatewayDeliveryRow} {check : GatewayDeliveryRow → Bool}
    {hf : ∀ d, (f d).key = d.key} {db : Db} :
    (updateDelivery p f check hf db).2.gatewayEnvelopes = db.gatewayEnvelopes := by
  rcases updateDelivery_cases (Prod.mk.eta (p := updateDelivery p f check hf db)).symm with
    ⟨-, hdb, -⟩ | ⟨-, hdb, -⟩
  · rw [hdb]
  · rw [hdb]

/-- A deletion gives bytes back. -/
theorem deleteCleanup_retainedBytes (envelope_id : Uuid) (owner : String) (revision : Nat)
    (now : String) (db : Db) :
    (deleteCleanup envelope_id owner revision now db).2.retainedBytes ≤ db.retainedBytes := by
  unfold deleteCleanup
  cases db.gatewayEnvelopes.get envelope_id with
  | none => exact Nat.le_refl _
  | some r =>
    dsimp only
    by_cases hdel : r.deletable owner revision now db = true
    · rw [if_pos hdel]
      have hbalance := db.gatewayEnvelopes.total_deleteWhere
        (fun r => decide (r.envelope_id = envelope_id)) GatewayEnvelopeRow.retained_bytes
      exact Nat.le.intro hbalance
    · rw [if_neg hdel]

/-- **A call within the budget keeps the bound.** -/
theorem retainedBytes_step {db : Db} {call : GatewayCall} (hcall : call.WithinBudget db)
    (h : db.retainedBytes < retainedBytesHigh) :
    (gatewayStep db call).retainedBytes < retainedBytesHigh := by
  cases call with
  | admitTaskReady envelope conversation_id now runtime_instance sender_user event_id room_id
      thread_root generation =>
    rcases admitTaskReady_cases (Prod.mk.eta (p := admitTaskReady envelope conversation_id now
      runtime_instance sender_user event_id room_id thread_root generation db)).symm with
      ⟨hdb, -⟩ | ⟨-, hstep⟩
    · rw [gatewayStep, hdb]
      exact h
    · have htotal := Table.total_insert hstep.stored GatewayEnvelopeRow.retained_bytes
      exact lt_of_eq_of_lt htotal hstep.budget
  | reserveOutbound envelope room_id thread_root txn_id generation owner =>
    rcases reserveOutbound_cases (Prod.mk.eta (p := reserveOutbound envelope room_id thread_root
      txn_id generation owner db)).symm with ⟨hdb, -⟩ | ⟨-, hfree, hcheck, hstored, -, -⟩
    · rw [gatewayStep, hdb]
      exact h
    · have htotal := Table.total_insert hstored GatewayEnvelopeRow.retained_bytes
      exact lt_of_eq_of_lt htotal (hcall hfree hcheck)
  | transitionDelivery envelope_id phase owner revision =>
    exact lt_of_eq_of_lt (retainedBytes_congr updateDelivery_envelopes) h
  | beginOutboundAttempt envelope_id owner revision expected_phase =>
    exact lt_of_eq_of_lt (retainedBytes_congr updateDelivery_envelopes) h
  | finishOutbound envelope_id owner revision phase event_id =>
    exact lt_of_eq_of_lt (retainedBytes_congr updateDelivery_envelopes) h
  | claimCleanup owner now picked =>
    have hsame : (gatewayStep db (.claimCleanup owner now picked)).retainedBytes =
        db.retainedBytes :=
      @Table.total_updateWhere_same _ _ _ _ _ (GatewayEnvelopeRow.claimedBy owner now)
        (fun _ => rfl) _ fun _ => rfl
    rw [hsame]
    exact h
  | deleteCleanup envelope_id owner revision now =>
    exact Nat.lt_of_le_of_lt (deleteCleanup_retainedBytes envelope_id owner revision now db) h
  | refused => exact h
  | elsewhere other => exact h

/-- A run keeps the bound as long as its reservations find room. -/
theorem retainedBytes_run (calls : List GatewayCall)
    (h : ∀ pre call, pre ++ [call] <+: calls → call.WithinBudget (gatewayRun pre)) :
    (gatewayRun calls).retainedBytes < retainedBytesHigh := by
  induction calls using List.reverseRecOn with
  | nil =>
    show 0 < retainedBytesHigh
    decide
  | append_singleton calls call ih =>
    have hbelow := ih fun pre c hpre => h pre c (hpre.trans (List.prefix_append _ _))
    rw [gatewayRun_snoc]
    exact retainedBytes_step (h calls call (List.prefix_refl _)) hbelow

/-- **The store of a run is one that a restart accepts, at every moment of the run, if and only
if every reservation of the run that stored its envelope found room for it.** -/
theorem retained_iff (calls : List GatewayCall) :
    (∀ pre, pre <+: calls →
      Retained (gatewayRun pre) ∧ validateRetainedBytes (gatewayRun pre) = true) ↔
    ∀ pre call, pre ++ [call] <+: calls → call.WithinBudget (gatewayRun pre) := by
  constructor
  · intro h pre call hpre
    cases call with
    | reserveOutbound envelope room_id thread_root txn_id generation owner =>
      intro hfree hcheck
      obtain ⟨en, de, hen, -, hres⟩ :=
        reserveOutbound_stores (gatewayRun_inv pre) room_id thread_root txn_id hfree hcheck
      have hafter := (h _ hpre).1.below
      rw [gatewayRun_snoc, gatewayStep, hres] at hafter
      have htotal := Table.total_insert hen GatewayEnvelopeRow.retained_bytes
      exact lt_of_eq_of_lt htotal.symm hafter
    | _ => trivial
  · intro h pre hpre
    have hbelow := retainedBytes_run pre fun p c hp => h p c (hp.trans hpre)
    have hretained := (gatewayRun_inv pre).retained hbelow
    exact ⟨hretained, (retained_iff_validate _).mp hretained⟩

end

/-! ### A store that a restart refuses -/

/-- Small envelopes under different identities. -/
def floodEnvelope (i : Nat) : GatewayEnvelope :=
  { version := profile, envelope_id := BitVec.ofNat 128 i,
    idempotency_key := Externals.uuidText (BitVec.ofNat 128 i), direction := .outbound,
    peer_id := "peer", sender := ⟨⟨1⟩, "peer"⟩, recipient := ⟨⟨2⟩, "peer"⟩,
    conversation_id := ⟨3⟩, correlation_id := 4, causal_seq := 1,
    created_at := "2026-01-01T00:00:00Z", deadline := none, kind := .acceptance,
    content_type := "application/json", payload := none,
    payload_sha256 := "0000000000000000000000000000000000000000000000000000000000000000",
    artifact := none,
    integrity := ⟨"sha256",
      "0000000000000000000000000000000000000000000000000000000000000000"⟩ }

def floodCall (i : Nat) : GatewayCall :=
  .reserveOutbound (floodEnvelope i) "!room:test" none
    (Externals.uuidText (BitVec.ofNat 128 i)) 1 "runtime"

/-- Reservations one after the other. -/
def flood (n : Nat) : List GatewayCall := (List.range n).map floodCall

/-- The row that a reservation of the flood stores. -/
def floodRow (i : Nat) : GatewayEnvelopeRow := (floodEnvelope i).outboundRow 1 "runtime"

theorem length_renderString_uuid (u v : Uuid) :
    (Json.renderString (Reference.uuidText u)).length =
      (Json.renderString (Reference.uuidText v)).length := by
  rw [Reference.length_renderString_uuidText, Reference.length_renderString_uuidText]

/-- An envelope under another identity and another key of their lengths has a text as long. -/
theorem GatewayEnvelope.length_render_renamed (envelope : GatewayEnvelope) {u v : Uuid}
    {key key' : String}
    (hid : (Json.renderString (Externals.uuidText u)).length =
      (Json.renderString (Externals.uuidText v)).length)
    (hkey : (Json.renderString key).length = (Json.renderString key').length) :
    ({ envelope with envelope_id := u, idempotency_key := key } : GatewayEnvelope
      ).toJson.render.length =
      ({ envelope with envelope_id := v, idempotency_key := key' } : GatewayEnvelope
        ).toJson.render.length := by
  simp only [GatewayEnvelope.toJson, uuidJson, Json.render, Json.renderFields,
    List.length_cons, List.length_append, hid, hkey]

/-- The identity does not change the length of the text. -/
theorem floodEnvelope_length (i : Nat) :
    (floodEnvelope i).toJson.render.length = (floodEnvelope 0).toJson.render.length := by
  have hid : (Json.renderString (Externals.uuidText (BitVec.ofNat 128 i))).length =
      (Json.renderString (Externals.uuidText (BitVec.ofNat 128 0))).length :=
    length_renderString_uuid _ _
  exact (floodEnvelope 0).length_render_renamed hid hid

theorem floodEnvelope_size (i : Nat) :
    512 ≤ (floodEnvelope i).encodedLen ∧ (floodEnvelope i).encodedLen ≤ 524288 := by
  have hsize := Reference.utf8ByteSize_bounds (floodEnvelope i).toJson.render
  have hlength := floodEnvelope_length i
  have hzero : 512 ≤ (floodEnvelope 0).toJson.render.length ∧
      4 * (floodEnvelope 0).toJson.render.length ≤ 524288 := by
    decide +kernel
  show 512 ≤ (String.ofList (floodEnvelope i).toJson.render).utf8ByteSize ∧
    (String.ofList (floodEnvelope i).toJson.render).utf8ByteSize ≤ 524288
  omega

theorem floodRow_check (i : Nat) : (floodRow i).check = true := by
  have hgeneration : (0 : Int) ≤ asI64 1 := by decide
  have hdigest :
      sqlLength "0000000000000000000000000000000000000000000000000000000000000000" = 64 := by
    decide +kernel
  exact decide_eq_true ⟨hgeneration, (floodEnvelope_size i).2, hdigest⟩

theorem floodRow_id_ne {i n : Nat} (hi : i < n) (hn : n < 2 ^ 128) :
    (floodRow i).envelope_id ≠ (floodRow n).envelope_id := by
  intro heq
  have heq : BitVec.ofNat 128 i = BitVec.ofNat 128 n := heq
  have hval := congrArg BitVec.toNat heq
  rw [BitVec.toNat_ofNat, BitVec.toNat_ofNat, Nat.mod_eq_of_lt (Nat.lt_trans hi hn),
    Nat.mod_eq_of_lt hn] at hval
  omega

theorem floodRow_idem_ne {i n : Nat} (hi : i < n) (hn : n < 2 ^ 128) :
    (floodRow i).idem ≠ (floodRow n).idem := by
  intro heq
  have hkey : Reference.uuidText (BitVec.ofNat 128 i) = Reference.uuidText (BitVec.ofNat 128 n) :=
    congrArg (fun t => t.2.2.2) heq
  have hread := congrArg Reference.parseUuid hkey
  rw [Reference.parseUuid_uuidText, Reference.parseUuid_uuidText] at hread
  exact floodRow_id_ne hi hn (Option.some.inj hread)

/-- Every reservation of the flood is stored. -/
theorem flood_stored (n : Nat) (hn : n ≤ 2 ^ 128) :
    (∀ r ∈ (gatewayRun (flood n)).gatewayEnvelopes.rows, ∃ i < n, r = floodRow i) ∧
      512 * n ≤ (gatewayRun (flood n)).retainedBytes := by
  induction n with
  | zero =>
    refine ⟨?_, Nat.zero_le _⟩
    intro r hr
    cases hr
  | succ n ih =>
    obtain ⟨hrows, htotal⟩ := ih (Nat.le_of_succ_le hn)
    have hfree : (gatewayRun (flood n)).envelopeFree (floodRow n) = true := by
      refine List.all_eq_true.mpr ?_
      intro r hr
      obtain ⟨i, hi, rfl⟩ := hrows r hr
      exact decide_eq_true ⟨floodRow_id_ne hi hn, floodRow_idem_ne hi hn⟩
    obtain ⟨en, de, hen, -, hres⟩ := reserveOutbound_stores (gatewayRun_inv (flood n))
      "!room:test" none (Externals.uuidText (BitVec.ofNat 128 n)) hfree (floodRow_check n)
    have hrun : gatewayRun (flood (n + 1)) =
        { gatewayRun (flood n) with gatewayEnvelopes := en, gatewayDeliveries := de } := by
      rw [flood, List.range_succ, List.map_append, List.map_singleton, gatewayRun_snoc]
      exact congrArg Prod.snd hres
    have hadded := Table.total_insert hen GatewayEnvelopeRow.retained_bytes
    have hsize := (floodEnvelope_size n).1
    rw [hrun]
    refine ⟨?_, ?_⟩
    · intro r hr
      rcases (Table.mem_insert hen).mp hr with hr | rfl
      · obtain ⟨i, hi, rfl⟩ := hrows r hr
        exact ⟨i, Nat.lt_succ_of_lt hi, rfl⟩
      · exact ⟨n, Nat.lt_succ_self n, rfl⟩
    · calc 512 * (n + 1) = 512 * n + 512 := by ring
        _ ≤ (gatewayRun (flood n)).retainedBytes + (floodEnvelope n).encodedLen :=
          Nat.add_le_add htotal hsize
        _ = en.total GatewayEnvelopeRow.retained_bytes := hadded.symm

/-- **After 131072 reservations the next start refuses the store.** -/
theorem flood_refused :
    ¬ (∀ pre, pre <+: flood 131072 →
      Retained (gatewayRun pre) ∧ validateRetainedBytes (gatewayRun pre) = true) := by
  intro h
  have hbelow := (h _ (List.prefix_refl _)).1.below
  have htotal := (flood_stored 131072 (by decide)).2
  have hhigh : retainedBytesHigh = 512 * 131072 := rfl
  omega

end GuiguBridge
