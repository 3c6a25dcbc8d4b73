import GuiguBridge.Gateway.Store
import GuiguBridge.Lib.Rfc3339Order
import GuiguBridge.ReferenceLaws

/-!
# Retention and takeover by the clock

`claim_cleanup` compares the instants of an envelope, written `YYYY-MM-DDTHH:MM:SS.…Z`, with what
SQLite's `datetime()` makes of the clock, `YYYY-MM-DD HH:MM:SS` (`src/src/gateway.rs`).

* `GatewayClock` — what `chrono` and SQLite document of those texts;
* `notLater_datetime` — **the comparison sees the day only**;
* `GatewayEnvelopeRow.Due` — what a claim is meant to take: retained for seven days after its
  end, and free, or left by a stopped owner fifteen minutes ago;
* `takeover_in_time_iff` — **the code takes exactly that, unless an instant that is old enough
  falls on the day of the bound**: such an envelope waits for midnight.
-/

namespace GuiguBridge

open Relational

/-- At `now` the instant is at least `n` seconds old. -/
def DateTime.OlderBy (n : Int) (t now : DateTime) : Prop :=
  t.secs + n < now.secs ∨ (t.secs + n = now.secs ∧ t.frac ≤ now.frac)

instance (n : Int) (t now : DateTime) : Decidable (t.OlderBy n now) :=
  inferInstanceAs (Decidable (t.secs + n < now.secs ∨ (t.secs + n = now.secs ∧ t.frac ≤ now.frac)))

/-- The instant lies on the UTC day of `now`, `n` seconds before. -/
def DateTime.OnDayBefore (n : Int) (t now : DateTime) : Prop :=
  t.secs / 86400 = (now.secs - n) / 86400

/-- The seconds that an envelope is retained after its end. -/
def retentionSecs : Int := 604800

/-- The seconds after which a claim may be taken over. -/
def claimSecs : Int := 900

/-- The modifiers that the gateway passes to `datetime()`, and the seconds they subtract. -/
def gatewayModifiers : List (String × Int) :=
  [("-7 days", retentionSecs), ("-900 seconds", claimSecs)]

theorem gatewayModifiers_nonneg {modifier : String} {n : Int}
    (h : (modifier, n) ∈ gatewayModifiers) : 0 ≤ n := by
  simp only [gatewayModifiers, List.mem_cons, List.not_mem_nil, or_false, Prod.mk.injEq,
    retentionSecs, claimSecs] at h
  omega

section

variable [Externals]

/-- What the documentation of `chrono` and of SQLite says of the texts that meet here. -/
structure GatewayClock : Prop where
  /-- `to_rfc3339_opts(SecondsFormat::Nanos, true)`: nine digits and `Z`. -/
  rfc3339Nanos : ∀ t : DateTime, Externals.rfc3339Nanos t =
    String.ofList (Rfc3339.render .nanos .zulu t.secs t.frac)
  /-- `datetime(text, modifier)` of a text in RFC 3339 shifts its instant and writes the date, a
  blank and the time of day in whole seconds; it is `NULL` outside the years `0..=9999`. -/
  datetime : ∀ (text modifier : String) (n secs : Int) (frac : Nat),
    (modifier, n) ∈ gatewayModifiers →
    Rfc3339.parseStrict text.toList = some (secs, frac) → frac < 1000000000 →
    Externals.sqliteDatetime text modifier =
      if Rfc3339.FourDigitYear (secs - n) then
        some (String.ofList (Rfc3339.stamp ' ' (secs - n))) else none

/-! ### The comparison -/

/-- **The comparison with `datetime()` sees the day only.** -/
theorem notLater_datetime (clock : GatewayClock) {t now : DateTime} (ht : t.FourDigitYear)
    (hnow : now.FourDigitYear) (hfrac : now.frac < 1000000000) {modifier : String} {n : Int}
    (hn : (modifier, n) ∈ gatewayModifiers) :
    notLater (some (ts t)) (Externals.sqliteDatetime (ts now) modifier) = true ↔
      t.secs / 86400 < (now.secs - n) / 86400 := by
  have hparse : Rfc3339.parseStrict (ts now).toList = some (now.secs, now.frac) := by
    rw [ts, clock.rfc3339Nanos, String.toList_ofList,
      Rfc3339.parseStrict_render .nanos .zulu now.frac_lt now.leap,
      if_pos (show Rfc3339.FourDigitYear now.secs from hnow)]
  have hpos : 0 ≤ n := gatewayModifiers_nonneg hn
  rw [clock.datetime _ _ n _ _ hn hparse hfrac]
  by_cases hyear : Rfc3339.FourDigitYear (now.secs - n)
  · rw [if_pos hyear, notLater, decide_eq_true_iff, ts, clock.rfc3339Nanos,
      String.le_iff_toList_le, String.toList_ofList, String.toList_ofList]
    exact Rfc3339.render_le_stamp_iff ht hyear _ _ _
  · rw [if_neg hyear]
    refine iff_of_false Bool.false_ne_true fun hday => hyear ?_
    exact Rfc3339.FourDigitYear.between ht hnow (by omega) (by omega)

end

/-- An instant of an earlier day than that of the bound is old enough. -/
theorem DateTime.OlderBy.of_day {t now : DateTime} {n : Int}
    (h : t.secs / 86400 < (now.secs - n) / 86400) : t.OlderBy n now :=
  .inl (by omega)

/-- An instant that is old enough lies on an earlier day than the bound, or on its day. -/
theorem DateTime.OlderBy.day {t now : DateTime} {n : Int} (h : t.OlderBy n now) :
    t.secs / 86400 < (now.secs - n) / 86400 ∨ t.OnDayBefore n now := by
  simp only [DateTime.OlderBy, DateTime.OnDayBefore] at *
  omega

theorem DateTime.OnDayBefore.not_lt {t now : DateTime} {n : Int} (h : t.OnDayBefore n now) :
    ¬ t.secs / 86400 < (now.secs - n) / 86400 := by
  simp only [DateTime.OnDayBefore] at h
  omega

/-! ### What a claim is meant to take -/

/-- The envelope ended, seven days ago or earlier. -/
def GatewayEnvelopeRow.PastRetention (ended : Option DateTime) (now : DateTime)
    (r : GatewayEnvelopeRow) : Prop :=
  (r.state = .terminal ∨ r.state = .stale) ∧ ∃ t ∈ ended, t.OlderBy retentionSecs now

/-- Another owner claimed the envelope, stopped since, and its claim is 900 seconds old. -/
def GatewayEnvelopeRow.Abandoned (owner : String) (claimed : Option DateTime) (now : DateTime)
    (db : Db) (r : GatewayEnvelopeRow) : Prop :=
  r.cleanup_owner ≠ none ∧ r.cleanup_owner ≠ some owner ∧
    db.stoppedInstance r.cleanup_owner = true ∧ ∃ t ∈ claimed, t.OlderBy claimSecs now

/-- What a claim is meant to take. -/
def GatewayEnvelopeRow.Due (owner : String) (ended claimed : Option DateTime) (now : DateTime)
    (db : Db) (r : GatewayEnvelopeRow) : Prop :=
  r.PastRetention ended now ∧
    (r.cleanup_owner = none ∨ r.cleanup_owner = some owner ∨ r.Abandoned owner claimed now db)

section

variable [Externals]

/-- The two instants of an envelope, as the store has them. -/
structure GatewayEnvelopeRow.Stamped (ended claimed : Option DateTime)
    (r : GatewayEnvelopeRow) : Prop where
  terminal_at : r.terminal_at = ended.map ts
  cleanup_claimed_at : r.cleanup_claimed_at = claimed.map ts
  ended_year : ∀ t ∈ ended, t.FourDigitYear
  claimed_year : ∀ t ∈ claimed, t.FourDigitYear

/-- The envelope is retained as long as it is meant to be, and a call of `claim_cleanup` that
reaches it takes it exactly when it is due. -/
structure TakenInTime (owner : String) (now : DateTime) (picked : Uuid → Bool) (db : Db)
    (ended claimed : Option DateTime) (r : GatewayEnvelopeRow) : Prop where
  retained : r.retentionOver (ts now) = true ↔ r.PastRetention ended now
  taken : (claimCleanup owner (ts now) picked db).2.gatewayEnvelopes.get r.envelope_id =
    some (r.claimedBy owner (ts now)) ↔ r.Due owner ended claimed now db

/-! ### What the code takes -/

theorem GatewayEnvelopeRow.retentionOver_iff (clock : GatewayClock) {r : GatewayEnvelopeRow}
    {ended claimed : Option DateTime} {now : DateTime} (stamped : r.Stamped ended claimed)
    (hnow : now.FourDigitYear) (hfrac : now.frac < 1000000000) :
    r.retentionOver (ts now) = true ↔ (r.state = .terminal ∨ r.state = .stale) ∧
      ∃ t ∈ ended, t.secs / 86400 < (now.secs - retentionSecs) / 86400 := by
  rw [retentionOver, Bool.and_eq_true, decide_eq_true_iff, stamped.terminal_at]
  refine and_congr_right fun _ => ?_
  cases ended with
  | none => simp [notLater]
  | some t =>
    have hmodifier : ("-7 days", retentionSecs) ∈ gatewayModifiers := .head _
    rw [Option.map_some, notLater_datetime clock (stamped.ended_year t rfl) hnow hfrac hmodifier]
    simp

theorem GatewayEnvelopeRow.cleanupFree_iff (clock : GatewayClock) {r : GatewayEnvelopeRow}
    {ended claimed : Option DateTime} {now : DateTime} (stamped : r.Stamped ended claimed)
    (hnow : now.FourDigitYear) (hfrac : now.frac < 1000000000) (owner : String) (db : Db) :
    r.cleanupFree owner (ts now) db = true ↔
      r.cleanup_owner = none ∨ r.cleanup_owner = some owner ∨
        ((∃ t ∈ claimed, t.secs / 86400 < (now.secs - claimSecs) / 86400) ∧
          db.stoppedInstance r.cleanup_owner = true) := by
  rw [cleanupFree, Bool.or_eq_true, decide_eq_true_iff, Bool.and_eq_true,
    stamped.cleanup_claimed_at, or_assoc]
  refine or_congr_right (or_congr_right (and_congr_left fun _ => ?_))
  cases claimed with
  | none => simp [notLater]
  | some t =>
    have hmodifier : ("-900 seconds", claimSecs) ∈ gatewayModifiers := .tail _ (.head _)
    rw [Option.map_some, notLater_datetime clock (stamped.claimed_year t rfl) hnow hfrac hmodifier]
    simp

theorem claimCleanup_takes_iff (owner now : String) {picked : Uuid → Bool} {db : Db}
    {r : GatewayEnvelopeRow} (hr : r ∈ db.gatewayEnvelopes.rows)
    (hpicked : picked r.envelope_id = true) :
    (claimCleanup owner now picked db).2.gatewayEnvelopes.get r.envelope_id =
        some (r.claimedBy owner now) ↔
      r.retentionOver now = true ∧ r.cleanupFree owner now db = true := by
  have hne : r ≠ r.claimedBy owner now := by
    intro h
    have hrevision : r.cleanup_revision = r.cleanup_revision + 1 :=
      congrArg GatewayEnvelopeRow.cleanup_revision h
    omega
  have hget : (claimCleanup owner now picked db).2.gatewayEnvelopes.get r.envelope_id =
      (db.gatewayEnvelopes.get r.envelope_id).map fun r =>
        if r.retentionOver now && r.cleanupFree owner now db && picked r.envelope_id then
          r.claimedBy owner now else r :=
    Table.get_updateWhere _ _ (GatewayEnvelopeRow.claimedBy owner now) (fun _ => rfl) _
  rw [hget, Table.get_of_mem hr, Option.map_some, Option.some.injEq, hpicked,
    Bool.and_true, ← Bool.and_eq_true]
  split
  · rename_i h
    exact iff_of_true rfl h
  · rename_i h
    exact iff_of_false hne h

/-! ### The claim against its purpose -/

/-- **Retention and takeover work as meant unless an instant that is old enough lies on the day
of the bound**: the end of the envelope on the day seven days ago, or the claim of another
owner on the day of fifteen minutes ago. -/
theorem takeover_in_time_iff (clock : GatewayClock) {owner : String} {now : DateTime}
    {picked : Uuid → Bool} {db : Db} {ended claimed : Option DateTime} {r : GatewayEnvelopeRow}
    (hr : r ∈ db.gatewayEnvelopes.rows) (hpicked : picked r.envelope_id = true)
    (stamped : r.Stamped ended claimed) (hnow : now.FourDigitYear)
    (hfrac : now.frac < 1000000000) :
    TakenInTime owner now picked db ended claimed r ↔
      ¬ (r.PastRetention ended now ∧ ∃ t ∈ ended, t.OnDayBefore retentionSecs now) ∧
      ¬ (r.Due owner ended claimed now db ∧ r.Abandoned owner claimed now db ∧
        ∃ t ∈ claimed, t.OnDayBefore claimSecs now) := by
  have hretained := r.retentionOver_iff clock stamped hnow hfrac
  have hfree := r.cleanupFree_iff clock stamped hnow hfrac owner db
  have htaken := claimCleanup_takes_iff owner (ts now) hr hpicked
  constructor
  · intro inTime
    constructor
    · rintro ⟨hpast, t, ht, hday⟩
      obtain ⟨-, t', ht', hlt⟩ := hretained.mp (inTime.retained.2 hpast)
      obtain rfl := Option.mem_unique ht ht'
      exact hday.not_lt hlt
    · rintro ⟨hdue, ⟨hsome, hother, -, -⟩, t, ht, hday⟩
      obtain ⟨-, hcode⟩ := htaken.mp (inTime.taken.2 hdue)
      obtain hnone | hown | ⟨⟨t', ht', hlt⟩, -⟩ := hfree.mp hcode
      · exact hsome hnone
      · exact hother hown
      · obtain rfl := Option.mem_unique ht ht'
        exact hday.not_lt hlt
  · rintro ⟨hend, hclaim⟩
    have hpast : r.retentionOver (ts now) = true ↔ r.PastRetention ended now := by
      rw [hretained]
      constructor
      · rintro ⟨hstate, t, ht, hlt⟩
        exact ⟨hstate, t, ht, .of_day hlt⟩
      · rintro ⟨hstate, t, ht, hold⟩
        obtain hlt | hday := hold.day
        · exact ⟨hstate, t, ht, hlt⟩
        · exact absurd ⟨⟨hstate, t, ht, hold⟩, t, ht, hday⟩ hend
    refine ⟨hpast, ?_⟩
    rw [htaken, hpast]
    constructor
    · rintro ⟨hover, hcode⟩
      refine ⟨hover, ?_⟩
      by_cases hnone : r.cleanup_owner = none
      · exact .inl hnone
      by_cases hown : r.cleanup_owner = some owner
      · exact .inr (.inl hown)
      obtain h | h | ⟨⟨t, ht, hlt⟩, hstopped⟩ := hfree.mp hcode
      · exact .inl h
      · exact .inr (.inl h)
      · exact .inr (.inr ⟨hnone, hown, hstopped, t, ht, .of_day hlt⟩)
    · intro hdue
      refine ⟨hdue.1, hfree.mpr ?_⟩
      obtain hnone | hown | habandoned := hdue.2
      · exact .inl hnone
      · exact .inr (.inl hown)
      · obtain ⟨t, ht, hold⟩ := habandoned.2.2.2
        obtain hlt | hday := hold.day
        · exact .inr (.inr ⟨⟨t, ht, hlt⟩, habandoned.2.2.1⟩)
        · exact absurd ⟨hdue, habandoned, t, ht, hday⟩ hclaim

end

/-! ### A claim of the same day -/

namespace Reference

theorem datetimeText_eq_stamp (secs : Int) :
    datetimeText secs = String.ofList (Rfc3339.stamp ' ' secs) := by
  simp only [datetimeText, Rfc3339.stamp, Rfc3339.dateText, Rfc3339.timeText, List.append_assoc,
    List.cons_append]

/-- The computed crates write these texts. -/
theorem gatewayClock : GatewayClock where
  rfc3339Nanos _ := rfl
  datetime text modifier n secs frac hn hparse _ := by
    have hshift : modifierSecs modifier = some (-n) := by
      simp only [gatewayModifiers, List.mem_cons, List.not_mem_nil, or_false,
        Prod.mk.injEq] at hn
      obtain ⟨rfl, rfl⟩ | ⟨rfl, rfl⟩ := hn
      · decide
      · decide
    show sqliteDatetime text modifier = _
    rw [sqliteDatetime, hparse]
    simp only [Option.bind_eq_bind, Option.bind_some, hshift, ← Int.sub_eq_add_neg]
    rw [datetimeText_eq_stamp]

end Reference

/-- An envelope that ended on 2024-01-01 at noon; `old` claimed it on 2024-01-10 at 10:00. -/
def claimedEnvelope : GatewayEnvelopeRow where
  envelope_id := 1
  version := "1.0"
  direction := .inbound
  peer_id := "peer"
  sender_user_id := "@peer:host"
  idempotency_key := "key"
  sender_endpoint := default
  recipient_endpoint := default
  conversation_id := default
  correlation_id := 2
  internal_task_id := none
  kind := "request"
  canonical_json := "\x7b\x7d"
  payload_sha256 := ""
  created_at := "2024-01-01T11:00:00.000000000Z"
  deadline := none
  route_generation := 1
  state := .terminal
  owner_runtime := none
  cleanup_owner := some "old"
  cleanup_revision := 1
  cleanup_claimed_at := some "2024-01-10T10:00:00.000000000Z"
  terminal_at := some "2024-01-01T12:00:00.000000000Z"
  retained_bytes := 2

/-- The store with that envelope; its owner has stopped. -/
def claimedStore : Db :=
  { Db.empty with
    gatewayEnvelopes := ⟨[claimedEnvelope], by decide⟩
    runtimeInstances := ⟨[{ instance_token := "old", started_at := "", heartbeat_at := "",
                            state := .stopped, process_fingerprint := "" }], by decide⟩ }

/-- 2024-01-01, 12:00. -/
def envelopeEnd : DateTime := .ofSecs 1704110400

/-- 2024-01-10, 10:00. -/
def oldClaim : DateTime := .ofSecs 1704880800

theorem claimedEnvelope_stamped :
    claimedEnvelope.Stamped (some envelopeEnd) (some oldClaim) where
  terminal_at := by decide
  cleanup_claimed_at := by decide
  ended_year := by
    rintro _ ⟨⟩
    decide
  claimed_year := by
    rintro _ ⟨⟩
    decide

/-- Past the next midnight, at 00:15 on 2024-01-11, another owner takes the envelope. -/
theorem takeover_in_time_iff_after_midnight :
    TakenInTime "new" (.ofSecs 1704932100) (fun _ => true) claimedStore (some envelopeEnd)
        (some oldClaim) claimedEnvelope ↔
      ¬ (claimedEnvelope.PastRetention (some envelopeEnd) (.ofSecs 1704932100) ∧
        ∃ t ∈ some envelopeEnd, t.OnDayBefore retentionSecs (.ofSecs 1704932100)) ∧
      ¬ (claimedEnvelope.Due "new" (some envelopeEnd) (some oldClaim) (.ofSecs 1704932100)
          claimedStore ∧
        claimedEnvelope.Abandoned "new" (some oldClaim) (.ofSecs 1704932100) claimedStore ∧
        ∃ t ∈ some oldClaim, t.OnDayBefore claimSecs (.ofSecs 1704932100)) :=
  takeover_in_time_iff Reference.gatewayClock (.head _) rfl claimedEnvelope_stamped (by decide)
    (by decide)

/-- At 23:00 of the day of its claim, 13 hours after it, the envelope of the stopped owner is
still not taken over. -/
theorem takeover_not_on_the_day_of_the_claim :
    claimedEnvelope.Due "new" (some envelopeEnd) (some oldClaim) (.ofSecs 1704927600)
      claimedStore ∧
    (claimCleanup "new" (ts (.ofSecs 1704927600)) (fun _ => true) claimedStore).1 = 0 ∧
    ¬ TakenInTime "new" (.ofSecs 1704927600) (fun _ => true) claimedStore (some envelopeEnd)
        (some oldClaim) claimedEnvelope := by
  have hdue : claimedEnvelope.Due "new" (some envelopeEnd) (some oldClaim) (.ofSecs 1704927600)
      claimedStore := by
    have habandoned : claimedEnvelope.Abandoned "new" (some oldClaim) (.ofSecs 1704927600)
        claimedStore := ⟨by decide, by decide, by decide, _, rfl, by decide⟩
    exact ⟨⟨.inl rfl, _, rfl, by decide⟩, .inr (.inr habandoned)⟩
  refine ⟨hdue, by decide, fun inTime => ?_⟩
  have htaken := inTime.taken.2 hdue
  revert htaken
  decide

end GuiguBridge
