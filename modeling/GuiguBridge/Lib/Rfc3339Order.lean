import GuiguBridge.Lib.Rfc3339
import Mathlib.Data.String.Basic

/-!
# The order of RFC 3339 texts

Texts compare character by character; instants compare by their seconds and then by their
fraction.

* `digits_lt`, `ofDays_before` — numbers of one width, and the dates of two days;
* `stamp` — the date, a separator and the time of day, which begin every text of an instant;
* `stamp_lt` — an earlier second has the smaller stamp;
* `render_le_stamp_iff` — **compared with a stamp that has a blank for the `T`, an instant comes
  before it exactly when its day does**;
* `render_lt` — **an earlier instant has the smaller text, whichever way the two are written**,
  save that a minimal fraction must not be followed by `Z`;
* `render_offset_lt_zulu` — one instant, written both ways, is two texts.
-/

namespace Rfc3339

/-! ### Digits -/

theorem digitChar_lt {a b : Nat} (hb : b < 10) (h : a < b) : digitChar a < digitChar b := by
  interval_cases b <;> interval_cases a <;> decide

/-- Numbers of one width compare as their digits. -/
theorem digits_lt {w a b : Nat} (hb : b < 10 ^ w) (h : a < b) (s t : List Char) :
    digits w a ++ s < digits w b ++ t := by
  induction w generalizing a b s t with
  | zero =>
    rw [Nat.pow_zero] at hb
    omega
  | succ w ih =>
    have hpow : 10 ^ (w + 1) = 10 * 10 ^ w := pow_succ' 10 w
    simp only [digits, List.append_assoc, List.singleton_append]
    by_cases hq : a / 10 < b / 10
    · exact ih (by omega) hq _ _
    · have hsame : a / 10 = b / 10 := by omega
      have hlast : digitChar (a % 10) < digitChar (b % 10) :=
        digitChar_lt (Nat.mod_lt b (by omega)) (by omega)
      rw [hsame]
      exact List.append_left_lt (List.cons_lt_cons_iff.mpr (.inl hlast))

/-- The leading digits of a number, and its last `v`. -/
theorem digits_add (w v n : Nat) : digits (w + v) n = digits w (n / 10 ^ v) ++ digits v n := by
  induction v generalizing n with
  | zero => simp [digits]
  | succ v ih =>
    have hdiv : n / 10 / 10 ^ v = n / 10 ^ (v + 1) := by
      rw [Nat.div_div_eq_div_mul, pow_succ']
    rw [← Nat.add_assoc, digits, ih, hdiv, digits, List.append_assoc]

theorem plus_lt_of_digit {c : Char} (h : digitVal c ≠ none) : '+' < c := by
  unfold digitVal at h
  split at h
  · rename_i hc
    rw [Char.lt_def, UInt32.lt_iff_toNat_lt]
    have hnat : c.val.toNat = c.toNat := rfl
    have hplus : ('+' : Char).val.toNat = 43 := rfl
    omega
  · exact absurd rfl h

/-- An offset comes before every digit. -/
theorem offset_lt_digits (v n : Nat) (t : List Char) :
    Zone.offset.text < digits (v + 1) n ++ t := by
  obtain ⟨c, cs, hcs, hc⟩ := digitVal_digits_head v n t
  rw [hcs]
  exact List.cons_lt_cons_iff.mpr (.inl (plus_lt_of_digit hc))

/-! ### The calendar -/

/-- An earlier year, month or day. -/
def Date.Before (d e : Date) : Prop :=
  d.year < e.year ∨ (d.year = e.year ∧
    (d.month < e.month ∨ (d.month = e.month ∧ d.day < e.day)))

theorem yearOfEra_mono {a b : Int} (ha : 0 ≤ a) (hb : b < 146097) (h : a ≤ b) :
    yearOfEra a ≤ yearOfEra b := by
  have hlast : a / 146096 = b / 146096 ∨ b = 146096 := by omega
  unfold yearOfEra
  obtain hlast | rfl := hlast
  · omega
  · omega

/-- **A later day has a later date.**  Within an era the years, counted from March, do not
fall, and within such a year the month and the day follow the day of the year. -/
theorem ofDays_before {a b : Int} (h : a < b) : (ofDays a).Before (ofDays b) := by
  have hyear := @yearOfEra_mem ((a + 719468) % 146097) (by omega) (by omega)
  have hyear' := @yearOfEra_mem ((b + 719468) % 146097) (by omega) (by omega)
  have hday := @dayOfYear_mem ((a + 719468) % 146097) (by omega) (by omega)
  have hday' := @dayOfYear_mem ((b + 719468) % 146097) (by omega) (by omega)
  -- the year counted from March and the day of that year, in this order
  have hlex : yearOfEra ((a + 719468) % 146097) + (a + 719468) / 146097 * 400 <
        yearOfEra ((b + 719468) % 146097) + (b + 719468) / 146097 * 400 ∨
      (yearOfEra ((a + 719468) % 146097) + (a + 719468) / 146097 * 400 =
        yearOfEra ((b + 719468) % 146097) + (b + 719468) / 146097 * 400 ∧
        dayOfYear ((a + 719468) % 146097) < dayOfYear ((b + 719468) % 146097)) := by
    by_cases hera : (a + 719468) / 146097 < (b + 719468) / 146097
    · omega
    · have hsame : (a + 719468) / 146097 = (b + 719468) / 146097 := by omega
      have hmono := @yearOfEra_mono ((a + 719468) % 146097) ((b + 719468) % 146097) (by omega)
        (by omega) (by omega)
      by_cases hlt : yearOfEra ((a + 719468) % 146097) < yearOfEra ((b + 719468) % 146097)
      · omega
      · have heq : yearOfEra ((a + 719468) % 146097) = yearOfEra ((b + 719468) % 146097) := by
          omega
        refine .inr ⟨by omega, ?_⟩
        unfold dayOfYear
        rw [heq]
        omega
  simp only [Date.Before, ofDays]
  generalize yearOfEra ((a + 719468) % 146097) + (a + 719468) / 146097 * 400 = y at *
  generalize yearOfEra ((b + 719468) % 146097) + (b + 719468) / 146097 * 400 = y' at *
  generalize dayOfYear ((a + 719468) % 146097) = doy at *
  generalize dayOfYear ((b + 719468) % 146097) = doy' at *
  clear hyear hyear' h
  by_cases hm : (5 * doy + 2) / 153 < 10
  · by_cases hm' : (5 * doy' + 2) / 153 < 10
    · simp only [if_pos hm, if_pos hm']
      omega
    · simp only [if_pos hm, if_neg hm']
      omega
  · by_cases hm' : (5 * doy' + 2) / 153 < 10
    · simp only [if_neg hm, if_pos hm']
      omega
    · simp only [if_neg hm, if_neg hm']
      omega

theorem yearOf_mono {a b : Int} (h : a ≤ b) : yearOf a ≤ yearOf b := by
  by_cases hday : a / 86400 < b / 86400
  · obtain hyear | ⟨hyear, _⟩ := ofDays_before hday
    · exact hyear.le
    · exact hyear.le
  · have hsame : a / 86400 = b / 86400 := by omega
    exact le_of_eq (by rw [yearOf, yearOf, hsame])

/-- The years between two years of four digits have four digits. -/
theorem FourDigitYear.between {a b c : Int} (ha : FourDigitYear a) (hc : FourDigitYear c)
    (hab : a ≤ b) (hbc : b ≤ c) : FourDigitYear b :=
  ⟨ha.1.trans (yearOf_mono hab), (yearOf_mono hbc).trans hc.2⟩

/-! ### Stamps -/

/-- `YYYY-MM-DD`. -/
def dateText (d : Date) : List Char :=
  digits 4 d.year.toNat ++ '-' :: (digits 2 d.month ++ '-' :: digits 2 d.day)

/-- `HH:MM:SS` of a second of the day. -/
def timeText (time : Nat) : List Char :=
  digits 2 (time / 3600) ++ ':' :: (digits 2 (time / 60 % 60) ++ ':' :: digits 2 (time % 60))

/-- The date, a separator and the time of day. -/
def stamp (sep : Char) (secs : Int) : List Char :=
  dateText (ofDays (secs / 86400)) ++ sep :: timeText (secs % 86400).toNat

theorem dateText_lt {d e : Date} (h : d.Before e) (hyear : 0 ≤ d.year) (hyear' : e.year ≤ 9999)
    (hmonth : e.month < 100) (hday : e.day < 100) (s t : List Char) :
    dateText d ++ s < dateText e ++ t := by
  simp only [dateText, List.append_assoc, List.cons_append]
  obtain hlt | ⟨heq, hlt | ⟨heqm, hlt⟩⟩ := h
  · exact digits_lt (by omega) (by omega) _ _
  · rw [heq]
    exact List.append_left_lt (List.cons_lt_cons_iff.mpr (.inr ⟨rfl, digits_lt hmonth hlt _ _⟩))
  · rw [heq, heqm]
    refine List.append_left_lt (List.cons_lt_cons_iff.mpr (.inr ⟨rfl, ?_⟩))
    exact List.append_left_lt (List.cons_lt_cons_iff.mpr (.inr ⟨rfl, digits_lt hday hlt _ _⟩))

theorem timeText_lt {a b : Nat} (h : a < b) (hb : b < 86400) (s t : List Char) :
    timeText a ++ s < timeText b ++ t := by
  simp only [timeText, List.append_assoc, List.cons_append]
  by_cases hhour : a / 3600 < b / 3600
  · exact digits_lt (by omega) hhour _ _
  · have hsame : a / 3600 = b / 3600 := by omega
    rw [hsame]
    refine List.append_left_lt (List.cons_lt_cons_iff.mpr (.inr ⟨rfl, ?_⟩))
    by_cases hminute : a / 60 % 60 < b / 60 % 60
    · exact digits_lt (by omega) hminute _ _
    · have hsame' : a / 60 % 60 = b / 60 % 60 := by omega
      rw [hsame']
      refine List.append_left_lt (List.cons_lt_cons_iff.mpr (.inr ⟨rfl, ?_⟩))
      exact digits_lt (by omega) (by omega) _ _

/-- **An earlier day has the smaller text**, whatever follows the dates. -/
theorem dated_lt {a b : Int} (ha : FourDigitYear a) (hb : FourDigitYear b)
    (h : a / 86400 < b / 86400) (s t : List Char) :
    dateText (ofDays (a / 86400)) ++ s < dateText (ofDays (b / 86400)) ++ t := by
  obtain ⟨hmonth, hday⟩ := ofDays_mem (b / 86400)
  exact dateText_lt (ofDays_before h) ha.1 hb.2 hmonth hday _ _

/-- **An earlier second has the smaller stamp.** -/
theorem stamp_lt {a b : Int} (ha : FourDigitYear a) (hb : FourDigitYear b) (h : a < b)
    (sep : Char) (s t : List Char) : stamp sep a ++ s < stamp sep b ++ t := by
  simp only [stamp, List.append_assoc]
  by_cases hday : a / 86400 < b / 86400
  · exact dated_lt ha hb hday _ _
  · have hsame : a / 86400 = b / 86400 := by omega
    simp only [hsame, List.cons_append]
    refine List.append_left_lt (List.cons_lt_cons_iff.mpr (.inr ⟨rfl, ?_⟩))
    exact timeText_lt (by omega) (by omega) _ _

/-- The text of an instant in a year of four digits begins with its stamp. -/
theorem render_eq_stamp {secs : Int} (h : FourDigitYear secs) {frac : Nat}
    (hfrac : frac < 1000000000) (fraction : Fraction) (zone : Zone) :
    render fraction zone secs frac =
      stamp 'T' secs ++ (renderFraction frac fraction ++ zone.text) := by
  have hyear : 0 ≤ (ofDays (secs / 86400)).year ∧ (ofDays (secs / 86400)).year ≤ 9999 := h
  simp only [render, renderYear, if_pos hyear, Nat.div_eq_of_lt hfrac, Nat.mod_eq_of_lt hfrac,
    Nat.add_zero, stamp, dateText, timeText, List.append_assoc, List.cons_append]

/-- The text of an instant in a year of four digits, a leap second too, begins with its date
and `T`. -/
theorem render_eq_dated {secs : Int} (h : FourDigitYear secs) (frac : Nat) (fraction : Fraction)
    (zone : Zone) :
    ∃ rest, render fraction zone secs frac =
      dateText (ofDays (secs / 86400)) ++ 'T' :: rest := by
  have hyear : 0 ≤ (ofDays (secs / 86400)).year ∧ (ofDays (secs / 86400)).year ≤ 9999 := h
  simp only [render, renderYear, if_pos hyear, dateText, List.append_assoc, List.cons_append]
  exact ⟨_, rfl⟩

/-- **Against a stamp with a blank only the day counts**: on one day the blank comes before
the `T`. -/
theorem render_le_stamp_iff {a b : Int} (ha : FourDigitYear a) (hb : FourDigitYear b)
    (frac : Nat) (fraction : Fraction) (zone : Zone) :
    render fraction zone a frac ≤ stamp ' ' b ↔ a / 86400 < b / 86400 := by
  obtain ⟨rest, hrest⟩ := render_eq_dated ha frac fraction zone
  rw [hrest, stamp]
  by_cases hday : a / 86400 < b / 86400
  · exact iff_of_true (dated_lt ha hb hday _ _).le hday
  · refine iff_of_false (not_le.mpr ?_) hday
    by_cases hsame : b / 86400 = a / 86400
    · rw [hsame]
      exact List.append_left_lt (List.cons_lt_cons_iff.mpr (.inl (by decide)))
    · exact dated_lt hb ha (by omega) _ _

/-! ### Fractions -/

/-- A fraction is left out when it is zero; otherwise it has `w` digits, and the rest of the
nine are zero. -/
theorem renderFraction_cases (n : Nat) (fraction : Fraction) :
    (n = 0 ∧ fraction = .auto ∧ renderFraction n fraction = []) ∨
    ∃ w v k, w + v = 9 ∧ 0 < w ∧ n = k * 10 ^ v ∧ (fraction = .nanos → v = 0) ∧
      renderFraction n fraction = '.' :: digits w k := by
  cases fraction with
  | nanos => exact .inr ⟨9, 0, n, rfl, by omega, by omega, fun _ => rfl, rfl⟩
  | auto =>
    by_cases hzero : n = 0
    · exact .inl ⟨hzero, rfl, by simp only [renderFraction, if_pos hzero]⟩
    · refine .inr ?_
      by_cases hmilli : n % 1000000 = 0
      · exact ⟨3, 6, n / 1000000, rfl, by omega, by omega, Fraction.noConfusion,
          by simp only [renderFraction, if_neg hzero, if_pos hmilli]⟩
      · by_cases hmicro : n % 1000 = 0
        · exact ⟨6, 3, n / 1000, rfl, by omega, by omega, Fraction.noConfusion,
            by simp only [renderFraction, if_neg hzero, if_neg hmilli, if_pos hmicro]⟩
        · exact ⟨9, 0, n, rfl, by omega, by omega, Fraction.noConfusion,
            by simp only [renderFraction, if_neg hzero, if_neg hmilli, if_neg hmicro]⟩

/-- A fraction of `w` digits comes before a larger one: the digits that both have decide,
and after them an offset comes before a digit. -/
theorem fraction_lt {w v k w' v' k' : Nat} (hw : w + v = 9) (hw' : w' + v' = 9)
    (hk : k' < 10 ^ w') (h : k * 10 ^ v < k' * 10 ^ v') {s : List Char}
    (hs : 0 < v → s = Zone.offset.text) (t : List Char) :
    digits w k ++ s < digits w' k' ++ t := by
  by_cases hle : w' ≤ w
  · obtain ⟨d, rfl⟩ : ∃ d, w = w' + d := ⟨w - w', by omega⟩
    obtain rfl : v' = d + v := by omega
    have hlt : k / 10 ^ d < k' := by
      have hmul : k * 10 ^ v < k' * 10 ^ d * 10 ^ v := by
        rw [Nat.mul_assoc, ← Nat.pow_add]
        exact h
      exact Nat.div_lt_of_lt_mul (by
        rw [Nat.mul_comm]
        exact Nat.lt_of_mul_lt_mul_right hmul)
    rw [digits_add, List.append_assoc]
    exact digits_lt hk hlt _ _
  · obtain ⟨d, rfl⟩ : ∃ d, w' = w + (d + 1) := ⟨w' - w - 1, by omega⟩
    obtain rfl : v = d + 1 + v' := by omega
    have hle : k ≤ k' / 10 ^ (d + 1) := by
      have hmul : k * 10 ^ (d + 1) * 10 ^ v' < k' * 10 ^ v' := by
        rw [Nat.mul_assoc, ← Nat.pow_add]
        exact h
      rw [Nat.le_div_iff_mul_le (Nat.pow_pos (by omega))]
      exact (Nat.lt_of_mul_lt_mul_right hmul).le
    have hbound : k' / 10 ^ (d + 1) < 10 ^ w := by
      rw [Nat.pow_add] at hk
      exact Nat.div_lt_of_lt_mul (by rw [Nat.mul_comm]; exact hk)
    rw [digits_add, List.append_assoc, hs (by omega)]
    obtain heq | hlt := Nat.eq_or_lt_of_le hle
    · rw [heq]
      exact List.append_left_lt (offset_lt_digits _ _ _)
    · exact digits_lt hbound hlt _ _

/-- **A smaller fraction has the smaller text**, unless `Z` follows a minimal one. -/
theorem renderFraction_lt {n n' : Nat} (hn : n' < 1000000000) (h : n < n')
    (fraction fraction' : Fraction) {zone : Zone} (hzone : fraction = .auto → zone = .offset)
    (t : List Char) :
    renderFraction n fraction ++ zone.text < renderFraction n' fraction' ++ t := by
  obtain ⟨rfl, -, -⟩ | ⟨w', v', k', hw', -, rfl, -, htext'⟩ := renderFraction_cases n' fraction'
  · omega
  · rw [htext', List.cons_append]
    obtain ⟨-, hauto, htext⟩ | ⟨w, v, k, hw, -, rfl, hnanos, htext⟩ :=
      renderFraction_cases n fraction
    · rw [htext, hzone hauto]
      exact List.cons_lt_cons_iff.mpr (.inl (by decide))
    · rw [htext, List.cons_append]
      refine List.cons_lt_cons_iff.mpr (.inr ⟨rfl, ?_⟩)
      have hpow : 1000000000 = 10 ^ w' * 10 ^ v' := by
        rw [← Nat.pow_add, hw']
      refine fraction_lt hw hw' ?_ h ?_ t
      · rw [hpow] at hn
        exact Nat.lt_of_mul_lt_mul_right hn
      · intro hv
        cases fraction with
        | nanos => exact absurd (hnanos rfl) (by omega)
        | auto => rw [hzone rfl]

/-- One fraction, written minimally before an offset and in full before `Z`: the first text
comes first. -/
theorem renderFraction_offset_lt_zulu (n : Nat) :
    renderFraction n .auto ++ Zone.offset.text < renderFraction n .nanos ++ Zone.zulu.text := by
  show _ < '.' :: digits 9 n ++ Zone.zulu.text
  obtain ⟨-, -, htext⟩ | ⟨w, v, k, hw, -, rfl, -, htext⟩ := renderFraction_cases n .auto
  · rw [htext]
    exact List.cons_lt_cons_iff.mpr (.inl (by decide))
  · have hlead : k * 10 ^ v / 10 ^ v = k := Nat.mul_div_cancel k (Nat.pow_pos (by omega))
    rw [htext, ← hw, digits_add, hlead, List.cons_append, List.cons_append, List.append_assoc]
    refine List.cons_lt_cons_iff.mpr (.inr ⟨rfl, List.append_left_lt ?_⟩)
    cases v with
    | zero => exact List.cons_lt_cons_iff.mpr (.inl (by decide))
    | succ v => exact offset_lt_digits _ _ _

/-! ### Texts -/

/-- **An earlier instant has the smaller text**, whichever way the two are written, unless `Z`
follows a minimal fraction. -/
theorem render_lt {a b : Int} (ha : FourDigitYear a) (hb : FourDigitYear b) {n n' : Nat}
    (hn : n < 1000000000) (hn' : n' < 1000000000) (h : a < b ∨ (a = b ∧ n < n'))
    (fraction fraction' : Fraction) {zone : Zone} (hzone : fraction = .auto → zone = .offset)
    (zone' : Zone) : render fraction zone a n < render fraction' zone' b n' := by
  rw [render_eq_stamp ha hn, render_eq_stamp hb hn']
  obtain hlt | ⟨rfl, hlt⟩ := h
  · exact stamp_lt ha hb hlt _ _ _
  · exact List.append_left_lt (renderFraction_lt hn' hlt _ _ hzone _)

/-- One instant, written both ways, is two texts. -/
theorem render_offset_lt_zulu {a : Int} (ha : FourDigitYear a) {n : Nat}
    (hn : n < 1000000000) : render .auto .offset a n < render .nanos .zulu a n := by
  rw [render_eq_stamp ha hn, render_eq_stamp ha hn]
  exact List.append_left_lt (renderFraction_offset_lt_zulu n)

end Rfc3339
