import GuiguBridge.A2a.Store
import GuiguBridge.Lib.Rfc3339Order
import GuiguBridge.ReferenceLaws
import GuiguBridge.Storage.WorkQueue

/-!
# Instants compared as texts

The store keeps instants as texts, and SQL compares them as texts.  Two encoders write them:
`encode_timestamp` (nine digits and `Z`) and `DateTime::to_rfc3339` (as many digits as needed and
`+00:00`); `claim_queue`, `renew_queue_lease` and the A2A store use the second on columns that
others write with the first.

* `ChronoTexts` — what `chrono` documents of the two texts and of their reader;
* `Encoder.text_lt` — an earlier instant has the smaller text, whichever encoders write the two;
* `TimestampOrder` — the comparisons of the store decide as the instants do;
* `timestamp_order_iff` — **they do unless one instant is compared with itself in two
  encodings**: a lease that ends now then still counts as live.
-/

namespace GuiguBridge

/-- `a < b` of instants. -/
def DateTime.Before (a b : DateTime) : Prop :=
  a.secs < b.secs ∨ (a.secs = b.secs ∧ a.frac < b.frac)

theorem DateTime.before_trichotomy (a b : DateTime) : a.Before b ∨ a = b ∨ b.Before a := by
  obtain ⟨secs, frac, _, _⟩ := a
  obtain ⟨secs', frac', _, _⟩ := b
  simp only [DateTime.Before, DateTime.mk.injEq]
  omega

theorem DateTime.Before.irrefl (a : DateTime) : ¬ a.Before a := by
  simp only [DateTime.Before]
  omega

theorem DateTime.Before.asymm {a b : DateTime} (h : a.Before b) : ¬ b.Before a := by
  simp only [DateTime.Before] at *
  omega

/-- An instant that RFC 3339 can write and that names no leap second. -/
structure DateTime.Plain (t : DateTime) : Prop where
  fourDigitYear : t.FourDigitYear
  frac_lt : t.frac < 1000000000

theorem DateTime.ofSecs_plain {n : Int} (h : Rfc3339.FourDigitYear n) : (DateTime.ofSecs n).Plain :=
  ⟨h, show (0 : Nat) < 1000000000 by omega⟩

/-- The two ways to write an instant in a column. -/
inductive Encoder where
  | encodeTimestamp | toRfc3339
  deriving DecidableEq

/-- The fraction that an encoder writes. -/
def Encoder.fraction : Encoder → Rfc3339.Fraction
  | .encodeTimestamp => .nanos
  | .toRfc3339 => .auto

/-- The zone that an encoder writes. -/
def Encoder.zone : Encoder → Rfc3339.Zone
  | .encodeTimestamp => .zulu
  | .toRfc3339 => .offset

/-- A minimal fraction is followed by an offset. -/
theorem Encoder.zone_of_auto (e : Encoder) (h : e.fraction = .auto) : e.zone = .offset := by
  cases e with
  | encodeTimestamp => exact Rfc3339.Fraction.noConfusion h
  | toRfc3339 => rfl

section

variable [Externals]

/-- What the documentation of `chrono` says of its RFC 3339 texts. -/
structure ChronoTexts : Prop where
  /-- `to_rfc3339_opts(SecondsFormat::Nanos, true)`: nine digits and `Z`. -/
  rfc3339Nanos : ∀ t : DateTime, Externals.rfc3339Nanos t =
    String.ofList (Rfc3339.render .nanos .zulu t.secs t.frac)
  /-- `to_rfc3339`: no digit, three, six or nine, and `+00:00`. -/
  toRfc3339 : ∀ t : DateTime, Externals.toRfc3339 t =
    String.ofList (Rfc3339.render .auto .offset t.secs t.frac)
  /-- `parse_from_rfc3339` reads the instant that the grammar gives the text. -/
  parseFromRfc3339 : ∀ (text : String) (t : DateTime),
    Rfc3339.parseStrict text.toList = some (t.secs, t.frac) →
    Externals.parseFromRfc3339 text = some t

/-- The text that an encoder writes. -/
def Encoder.text : Encoder → DateTime → String
  | .encodeTimestamp, t => ts t
  | .toRfc3339, t => Externals.toRfc3339 t

/-- `terminal_at <= ?` of `claim_cleanup`. -/
def A2a.ExchangeRow.endedBy (before : DateTime) (e : A2a.ExchangeRow) : Bool :=
  e.terminal_at.any fun at_ => decide (at_ ≤ Externals.toRfc3339 before)

/-- What is expected of two instants in columns: their texts compare as they do, so that the
conditions on leases and on finished exchanges decide as the instants do, and what was
written reads back. -/
structure TimestampOrder (e f : Encoder) (a b : DateTime) : Prop where
  order : a.Before b → e.text a < f.text b
  lt_iff : e.text a < f.text b ↔ a.Before b
  le_iff : e.text a ≤ f.text b ↔ ¬ b.Before a
  /-- A lease that ends at `a`, at the instant `b`. -/
  live_iff : ∀ l : LeaseRow, l.expires_at = e.text a →
    (l.liveAt (f.text b) = true ↔ l.state = .active ∧ b.Before a)
  /-- An exchange that ended at `a`, with the bound `b`. -/
  ended_iff : f = .toRfc3339 → ∀ x : A2a.ExchangeRow, x.terminal_at = some (e.text a) →
    (x.endedBy b = true ↔ ¬ b.Before a)
  roundTrip : decodeTimestamp (ts a) = some a

/-! ### The texts -/

theorem Encoder.toList_text (chrono : ChronoTexts) (e : Encoder) (t : DateTime) :
    (e.text t).toList = Rfc3339.render e.fraction e.zone t.secs t.frac := by
  cases e with
  | encodeTimestamp =>
    show (Externals.rfc3339Nanos t).toList = _
    rw [chrono.rfc3339Nanos, String.toList_ofList]
    rfl
  | toRfc3339 =>
    show (Externals.toRfc3339 t).toList = _
    rw [chrono.toRfc3339, String.toList_ofList]
    rfl

/-- **An earlier instant has the smaller text**, whichever encoders write the two. -/
theorem Encoder.text_lt (chrono : ChronoTexts) {a b : DateTime} (ha : a.Plain) (hb : b.Plain)
    (h : a.Before b) (e f : Encoder) : e.text a < f.text b := by
  rw [String.lt_iff_toList_lt, e.toList_text chrono, f.toList_text chrono]
  exact Rfc3339.render_lt ha.1 hb.1 ha.2 hb.2 h _ _ e.zone_of_auto _

/-- The text with an offset comes before the text with `Z` of the same instant. -/
theorem Encoder.offset_lt_zulu (chrono : ChronoTexts) {a : DateTime} (ha : a.Plain) :
    Encoder.toRfc3339.text a < Encoder.encodeTimestamp.text a := by
  rw [String.lt_iff_toList_lt, Encoder.toList_text chrono, Encoder.toList_text chrono]
  exact Rfc3339.render_offset_lt_zulu ha.1 ha.2

/-- **What is written reads back.** -/
theorem decodeTimestamp_ts (chrono : ChronoTexts) {a : DateTime} (ha : a.FourDigitYear) :
    decodeTimestamp (ts a) = some a := by
  refine chrono.parseFromRfc3339 (ts a) a ?_
  have htext : (ts a).toList = Rfc3339.render .nanos .zulu a.secs a.frac :=
    Encoder.encodeTimestamp.toList_text chrono a
  rw [htext, Rfc3339.parseStrict_render .nanos .zulu a.frac_lt a.leap,
    if_pos (show Rfc3339.FourDigitYear a.secs from ha)]

/-! ### The comparisons -/

/-- Two instants whose texts compare as they do: the conditions of the store follow. -/
theorem TimestampOrder.of_lt_iff (chrono : ChronoTexts) {a b : DateTime} (ha : a.Plain)
    (hb : b.Plain) {e f : Encoder} (hlt : e.text a < f.text b ↔ a.Before b)
    (hgt : f.text b < e.text a ↔ b.Before a) : TimestampOrder e f a b where
  order h := Encoder.text_lt chrono ha hb h e f
  lt_iff := hlt
  le_iff := by rw [← not_lt, hgt]
  live_iff := by
    intro l hl
    rw [LeaseRow.liveAt, decide_eq_true_iff, hl, hgt]
  ended_iff := by
    rintro rfl x hx
    rw [A2a.ExchangeRow.endedBy, hx, Option.any_some, decide_eq_true_iff, ← not_lt]
    exact not_congr hgt
  roundTrip := decodeTimestamp_ts chrono ha.1

/-- The texts of two instants compare as they do when the instants differ or one encoder
wrote both. -/
theorem Encoder.text_lt_iff (chrono : ChronoTexts) {a b : DateTime} (ha : a.Plain) (hb : b.Plain)
    {e f : Encoder} (h : ¬ (a = b ∧ e ≠ f)) : e.text a < f.text b ↔ a.Before b := by
  obtain hab | rfl | hba := a.before_trichotomy b
  · exact iff_of_true (Encoder.text_lt chrono ha hb hab e f) hab
  · have hsame : e = f := by
      by_contra hne
      exact h ⟨rfl, hne⟩
    rw [hsame]
    exact iff_of_false (lt_irrefl _) (DateTime.Before.irrefl a)
  · exact iff_of_false (Encoder.text_lt chrono hb ha hba f e).asymm hba.asymm

/-- **The store orders instants as time does, unless one instant is compared with itself in two
encodings.** -/
theorem timestamp_order_iff (chrono : ChronoTexts) {a b : DateTime} (ha : a.Plain) (hb : b.Plain)
    (e f : Encoder) : TimestampOrder e f a b ↔ ¬ (a = b ∧ e ≠ f) := by
  constructor
  · rintro order ⟨rfl, hne⟩
    have hoffset := Encoder.offset_lt_zulu chrono ha
    cases e with
    | encodeTimestamp =>
      cases f with
      | encodeTimestamp => exact hne rfl
      | toRfc3339 =>
        have hle := order.le_iff.mpr (DateTime.Before.irrefl a)
        exact absurd hoffset (not_lt.2 hle)
    | toRfc3339 =>
      cases f with
      | encodeTimestamp => exact DateTime.Before.irrefl a (order.lt_iff.mp hoffset)
      | toRfc3339 => exact hne rfl
  · intro h
    have hswap : ¬ (b = a ∧ f ≠ e) := fun hba => h ⟨hba.1.symm, hba.2.symm⟩
    exact .of_lt_iff chrono ha hb (Encoder.text_lt_iff chrono ha hb h)
      (Encoder.text_lt_iff chrono hb ha hswap)

end

/-! ### The computed crates -/

/-- The computed crates write and read these texts. -/
theorem Reference.chronoTexts : ChronoTexts where
  rfc3339Nanos _ := rfl
  toRfc3339 _ := rfl
  parseFromRfc3339 text t h := by
    show (Rfc3339.parseStrict text.toList).bind Reference.ofParts = some t
    rw [h, Option.bind_some, Reference.ofParts_parts]

theorem timestamp_order_iff_epoch :
    TimestampOrder .encodeTimestamp .toRfc3339 (DateTime.ofSecs 0) (DateTime.ofSecs 1) ↔
      ¬ (DateTime.ofSecs 0 = DateTime.ofSecs 1 ∧ Encoder.encodeTimestamp ≠ .toRfc3339) :=
  timestamp_order_iff Reference.chronoTexts (DateTime.ofSecs_plain (by decide))
    (DateTime.ofSecs_plain (by decide)) _ _

/-- A lease that ends at the epoch, as `encode_timestamp` writes it. -/
def leaseUntilEpoch : LeaseRow where
  resource_key := ⟨0⟩
  task_id := ⟨0⟩
  owner_token := 1
  fence := 1
  state := .active
  acquired_at := "1969-12-31T23:59:30.000000000Z"
  heartbeat_at := "1969-12-31T23:59:30.000000000Z"
  expires_at := "1970-01-01T00:00:00.000000000Z"

/-- At the epoch, as `claim_queue` writes it, that lease is live. -/
theorem timestamp_order_not_at_expiry :
    leaseUntilEpoch.expires_at = Encoder.encodeTimestamp.text (DateTime.ofSecs 0) ∧
    leaseUntilEpoch.liveAt (Encoder.toRfc3339.text (DateTime.ofSecs 0)) = true ∧
    ¬ (DateTime.ofSecs 0).Before (DateTime.ofSecs 0) ∧
    ¬ TimestampOrder .encodeTimestamp .toRfc3339 (DateTime.ofSecs 0) (DateTime.ofSecs 0) := by
  have htext : leaseUntilEpoch.expires_at =
      Encoder.encodeTimestamp.text (DateTime.ofSecs 0) := by decide
  have hlive : leaseUntilEpoch.liveAt (Encoder.toRfc3339.text (DateTime.ofSecs 0)) = true := by
    decide
  refine ⟨htext, hlive, DateTime.Before.irrefl _, fun order => ?_⟩
  exact DateTime.Before.irrefl _ ((order.live_iff leaseUntilEpoch htext).mp hlive).2

end GuiguBridge
