import Mathlib.Data.List.Basic
import Mathlib.Tactic.Common
import Mathlib.Tactic.IntervalCases
import Mathlib.Tactic.Ring

/-!
# Instants as RFC 3339 texts

An instant is a number of whole seconds since 1970-01-01T00:00:00Z and a fraction in
nanoseconds; a fraction of one second and more names a leap second.

* `Date`, `ofDays`, `Date.toDays` — the proleptic Gregorian calendar;
* `render` — the text of an instant in UTC, with a fixed or a minimal number of fraction
  digits.  **A year outside `0..=9999` is written with a sign**;
* `parseStrict`, `parseRelaxed` — the two readers: the first takes a year of four digits
  only, the second also takes a signed one;
* `toDays_ofDays` — the day of the date of a day is that day;
* `parseRelaxed_render`, `parseStrict_render` — **every text reads back**, through the strict
  reader exactly when the year has four digits.
-/

namespace Rfc3339

/-! ### Decimal digits -/

/-- The character of a decimal digit. -/
def digitChar (d : Nat) : Char := Char.ofNat (48 + d)

/-- The value of a decimal digit. -/
def digitVal (c : Char) : Option Nat :=
  if 48 ≤ c.toNat ∧ c.toNat ≤ 57 then some (c.toNat - 48) else none

/-- The last `w` decimal digits of `n`. -/
def digits : Nat → Nat → List Char
  | 0, _ => []
  | w + 1, n => digits w (n / 10) ++ [digitChar (n % 10)]

/-- Read exactly `w` digits. -/
def readDigits : Nat → Nat → List Char → Option (Nat × List Char)
  | 0, acc, cs => some (acc, cs)
  | _ + 1, _, [] => none
  | w + 1, acc, c :: cs => (digitVal c).bind fun d => readDigits w (10 * acc + d) cs

/-- Read digits as long as there are any: their value, their number, and the rest. -/
def readAllDigits : Nat → Nat → List Char → Nat × Nat × List Char
  | acc, count, [] => (acc, count, [])
  | acc, count, c :: cs =>
    match digitVal c with
    | some d => readAllDigits (10 * acc + d) (count + 1) cs
    | none => (acc, count, c :: cs)

/-- Read one given character. -/
def readChar (expected : Char) : List Char → Option (List Char)
  | [] => none
  | c :: cs => if c = expected then some cs else none

/-! ### The calendar -/

structure Date where
  year : Int
  month : Nat
  day : Nat
  deriving DecidableEq

/-- The year of an era of 400 years, counted from March, that holds a day of the era. -/
def yearOfEra (doe : Int) : Int := (doe - doe / 1460 + doe / 36524 - doe / 146096) / 365

/-- The day of the year, counted from March. -/
def dayOfYear (doe : Int) : Int :=
  doe - (365 * yearOfEra doe + yearOfEra doe / 4 - yearOfEra doe / 100)

/-- The date of a day counted from 1970-01-01. -/
def ofDays (days : Int) : Date :=
  let era := (days + 719468) / 146097
  let doe := (days + 719468) % 146097
  let mp := (5 * dayOfYear doe + 2) / 153
  let year := yearOfEra doe + era * 400
  { year := if mp < 10 then year else year + 1
    month := (if mp < 10 then mp + 3 else mp - 9).toNat
    day := (dayOfYear doe - (153 * mp + 2) / 5 + 1).toNat }

/-- The day of a date, counted from 1970-01-01. -/
def Date.toDays (d : Date) : Int :=
  let y := if d.month ≤ 2 then d.year - 1 else d.year
  let mp : Int := if 2 < d.month then d.month - 3 else d.month + 9
  let doy := (153 * mp + 2) / 5 + d.day - 1
  y / 400 * 146097 + (y % 400 * 365 + y % 400 / 4 - y % 400 / 100 + doy) - 719468

/-- The year in which an instant lies. -/
def yearOf (secs : Int) : Int := (ofDays (secs / 86400)).year

/-- The year of an instant has four digits. -/
def FourDigitYear (secs : Int) : Prop := 0 ≤ yearOf secs ∧ yearOf secs ≤ 9999

instance (secs : Int) : Decidable (FourDigitYear secs) :=
  inferInstanceAs (Decidable (_ ∧ _))

/-! ### Writing -/

/-- How many digits the fraction gets. -/
inductive Fraction where
  | nanos | auto
  deriving DecidableEq

/-- How UTC is named at the end of the text. -/
inductive Zone where
  | zulu | offset
  deriving DecidableEq

def Zone.text : Zone → List Char
  | .zulu => ['Z']
  | .offset => ['+', '0', '0', ':', '0', '0']

/-- A year: four digits, or a sign and as many as it needs. -/
def renderYear (year : Int) : List Char :=
  if 0 ≤ year ∧ year ≤ 9999 then digits 4 year.toNat
  else (if year < 0 then '-' else '+') ::
    (if year.natAbs ≤ 9999 then digits 4 year.natAbs else Nat.toDigits 10 year.natAbs)

/-- The fraction of a second. -/
def renderFraction (nanos : Nat) : Fraction → List Char
  | .nanos => '.' :: digits 9 nanos
  | .auto =>
    if nanos = 0 then []
    else if nanos % 1000000 = 0 then '.' :: digits 3 (nanos / 1000000)
    else if nanos % 1000 = 0 then '.' :: digits 6 (nanos / 1000)
    else '.' :: digits 9 nanos

/-- The text of an instant in UTC. -/
def render (fraction : Fraction) (zone : Zone) (secs : Int) (frac : Nat) : List Char :=
  let date := ofDays (secs / 86400)
  let time := (secs % 86400).toNat
  renderYear date.year ++ '-' :: digits 2 date.month ++ '-' :: digits 2 date.day ++
    'T' :: digits 2 (time / 3600) ++ ':' :: digits 2 (time / 60 % 60) ++
    ':' :: digits 2 (time % 60 + frac / 1000000000) ++
    renderFraction (frac % 1000000000) fraction ++ zone.text

/-! ### Reading -/

/-- A year of four digits. -/
def readYearStrict (cs : List Char) : Option (Int × List Char) :=
  (readDigits 4 0 cs).map fun r => ((r.1 : Int), r.2)

/-- A year of four digits, or a signed one of any length. -/
def readYearRelaxed : List Char → Option (Int × List Char)
  | '+' :: cs =>
    let r := readAllDigits 0 0 cs
    if r.2.1 = 0 then none else some ((r.1 : Int), r.2.2)
  | '-' :: cs =>
    let r := readAllDigits 0 0 cs
    if r.2.1 = 0 then none else some (-(r.1 : Int), r.2.2)
  | cs => readYearStrict cs

/-- An optional fraction, in nanoseconds; digits past the ninth are dropped. -/
def readFraction : List Char → Option (Nat × List Char)
  | '.' :: cs =>
    let r := readAllDigits 0 0 cs
    if r.2.1 = 0 then none
    else some (if r.2.1 ≤ 9 then r.1 * 10 ^ (9 - r.2.1) else r.1 / 10 ^ (r.2.1 - 9), r.2.2)
  | cs => some (0, cs)

/-- The offset from UTC in seconds, at the end of the text. -/
def readOffset : List Char → Option Int
  | ['Z'] => some 0
  | ['z'] => some 0
  | sign :: cs => do
    let (h, cs) ← readDigits 2 0 cs
    let cs ← readChar ':' cs
    let (m, cs) ← readDigits 2 0 cs
    if cs = [] ∧ m < 60 ∧ h < 24 then
      if sign = '+' then some (3600 * h + 60 * m)
      else if sign = '-' then some (-(3600 * h + 60 * m))
      else none
    else none
  | [] => none

/-- The instant of a date and a time of day; second 60 is a leap second. -/
def assemble (date : Date) (hour minute second nanos : Nat) (offset : Int) :
    Option (Int × Nat) :=
  if ofDays date.toDays = date ∧ hour < 24 ∧ minute < 60 ∧ second ≤ 60 then
    let secs := date.toDays * 86400 + hour * 3600 + minute * 60 - offset
    some (if second = 60 then (secs + 59, nanos + 1000000000) else (secs + second, nanos))
  else none

/-- Read an instant, given how its year reads. -/
def parseWith (readYear : List Char → Option (Int × List Char)) (cs : List Char) :
    Option (Int × Nat) := do
  let (year, cs) ← readYear cs
  let cs ← readChar '-' cs
  let (month, cs) ← readDigits 2 0 cs
  let cs ← readChar '-' cs
  let (day, cs) ← readDigits 2 0 cs
  let cs ← match cs with
    | 'T' :: cs => some cs
    | 't' :: cs => some cs
    | ' ' :: cs => some cs
    | _ => none
  let (hour, cs) ← readDigits 2 0 cs
  let cs ← readChar ':' cs
  let (minute, cs) ← readDigits 2 0 cs
  let cs ← readChar ':' cs
  let (second, cs) ← readDigits 2 0 cs
  let (nanos, cs) ← readFraction cs
  let offset ← readOffset cs
  assemble ⟨year, month, day⟩ hour minute second nanos offset

def parseStrict (cs : List Char) : Option (Int × Nat) := parseWith readYearStrict cs

def parseRelaxed (cs : List Char) : Option (Int × Nat) := parseWith readYearRelaxed cs

/-! ### Digits read back -/

theorem digitVal_digitChar {d : Nat} (h : d < 10) : digitVal (digitChar d) = some d := by
  interval_cases d <;> decide

theorem readDigits_append (w v acc : Nat) (cs : List Char) :
    readDigits (w + v) acc cs = (readDigits w acc cs).bind fun r => readDigits v r.1 r.2 := by
  induction w generalizing acc cs with
  | zero => rw [Nat.zero_add]; rfl
  | succ w ih =>
    rw [Nat.succ_add]
    cases cs with
    | nil => rfl
    | cons c cs =>
      show ((digitVal c).bind fun d => readDigits (w + v) (10 * acc + d) cs) = _
      cases hd : digitVal c with
      | none => simp only [readDigits, hd, Option.bind_none]
      | some d => simp only [readDigits, hd, Option.bind_some, ih]

theorem readDigits_digits (w n : Nat) (rest : List Char) :
    ∀ acc, readDigits w acc (digits w n ++ rest) = some (acc * 10 ^ w + n % 10 ^ w, rest) := by
  induction w generalizing n rest with
  | zero =>
    intro acc
    simp [readDigits, digits, Nat.mod_one]
  | succ w ih =>
    intro acc
    have hlast : digitVal (digitChar (n % 10)) = some (n % 10) :=
      digitVal_digitChar (Nat.mod_lt n (by omega))
    have hvalue : 10 * (acc * 10 ^ w + n / 10 % 10 ^ w) + n % 10 =
        acc * 10 ^ (w + 1) + n % 10 ^ (w + 1) := by
      rw [pow_succ', Nat.mod_mul]
      ring
    rw [readDigits_append, digits, List.append_assoc, ih, Option.bind_some]
    simp only [readDigits, List.singleton_append, hlast, Option.bind_some, hvalue]

/-- A text that no digit begins. -/
def Ends (rest : List Char) : Prop := ∀ c ∈ rest.head?, digitVal c = none

theorem readAllDigits_ends {rest : List Char} (h : Ends rest) (acc count : Nat) :
    readAllDigits acc count rest = (acc, count, rest) := by
  cases rest with
  | nil => rfl
  | cons c cs =>
    have hc : digitVal c = none := h c rfl
    simp only [readAllDigits, hc]

theorem readAllDigits_digits (w n : Nat) (rest : List Char) :
    ∀ acc count, readAllDigits acc count (digits w n ++ rest) =
      readAllDigits (acc * 10 ^ w + n % 10 ^ w) (count + w) rest := by
  induction w generalizing n rest with
  | zero =>
    intro acc count
    simp [digits, Nat.mod_one]
  | succ w ih =>
    intro acc count
    have hlast : digitVal (digitChar (n % 10)) = some (n % 10) :=
      digitVal_digitChar (Nat.mod_lt n (by omega))
    have hvalue : 10 * (acc * 10 ^ w + n / 10 % 10 ^ w) + n % 10 =
        acc * 10 ^ (w + 1) + n % 10 ^ (w + 1) := by
      rw [pow_succ', Nat.mod_mul]
      ring
    rw [digits, List.append_assoc, ih]
    simp only [readAllDigits, List.singleton_append, hlast, hvalue, Nat.add_assoc]

theorem digitVal_natDigitChar {d : Nat} (h : d < 10) : digitVal d.digitChar = some d := by
  interval_cases d <;> decide

theorem readAllDigits_toDigits (n : Nat) :
    ∀ count rest, readAllDigits 0 count (Nat.toDigits 10 n ++ rest) =
      readAllDigits n (count + (Nat.toDigits 10 n).length) rest := by
  induction n using Nat.strongRecOn with
  | ind n ih =>
    intro count rest
    by_cases hn : n < 10
    · rw [Nat.toDigits_of_lt_base hn]
      simp [readAllDigits, digitVal_natDigitChar hn]
    · have hlast : digitVal (n % 10).digitChar = some (n % 10) :=
        digitVal_natDigitChar (Nat.mod_lt n (by omega))
      have hvalue : 10 * (n / 10) + n % 10 = n := Nat.div_add_mod n 10
      rw [Nat.toDigits_of_base_le (by omega) (by omega), List.append_assoc,
        ih (n / 10) (by omega)]
      simp only [readAllDigits, List.singleton_append, hlast, hvalue, List.length_append,
        List.length_singleton, Nat.add_assoc]

/-! ### The calendar reads back -/

theorem yearOfEra_mem {doe : Int} (h : 0 ≤ doe) (h' : doe < 146097) :
    0 ≤ yearOfEra doe ∧ yearOfEra doe ≤ 399 := by
  unfold yearOfEra
  omega

/-- A year has at most 366 days.  The centuries are split: within one, the leap years are
linear. -/
theorem dayOfYear_mem {doe : Int} (h : 0 ≤ doe) (h' : doe < 146097) :
    0 ≤ dayOfYear doe ∧ dayOfYear doe ≤ 365 := by
  have hy := yearOfEra_mem h h'
  unfold dayOfYear
  have hd : yearOfEra doe / 100 = 0 ∨ yearOfEra doe / 100 = 1 ∨ yearOfEra doe / 100 = 2 ∨
      yearOfEra doe / 100 = 3 := by omega
  have hf : doe / 36524 = 0 ∨ doe / 36524 = 1 ∨ doe / 36524 = 2 ∨ doe / 36524 = 3 ∨
      doe / 36524 = 4 := by omega
  -- the last day of the era is the leap day of its last year
  have hg : doe / 146096 = 0 ∨ doe = 146096 := by omega
  unfold yearOfEra at *
  rcases hg with hg | rfl
  · rcases hd with hd | hd | hd | hd <;> rcases hf with hf | hf | hf | hf | hf <;> omega
  · decide

theorem ofDays_mem (days : Int) : (ofDays days).month < 100 ∧ (ofDays days).day < 100 := by
  have hdoy := @dayOfYear_mem ((days + 719468) % 146097) (by omega) (by omega)
  simp only [ofDays]
  generalize dayOfYear ((days + 719468) % 146097) = doy at hdoy ⊢
  omega

/-- The day that a year of an era, counted from March, and a day of that year make up. -/
theorem toDays_mk (era : Int) {yoe doy mp : Int} (hyear : 0 ≤ yoe ∧ yoe ≤ 399)
    (hdoy : 0 ≤ doy ∧ doy ≤ 365) (hmp : mp = (5 * doy + 2) / 153) :
    Date.toDays
      { year := if mp < 10 then yoe + era * 400 else yoe + era * 400 + 1
        month := (if mp < 10 then mp + 3 else mp - 9).toNat
        day := (doy - (153 * mp + 2) / 5 + 1).toNat } =
      era * 146097 + (365 * yoe + yoe / 4 - yoe / 100 + doy) - 719468 := by
  simp only [Date.toDays]
  have hera : (yoe + era * 400) / 400 = era ∧ (yoe + era * 400) % 400 = yoe := by omega
  have hday : (153 * mp + 2) / 5 + ((doy - (153 * mp + 2) / 5 + 1).toNat : Int) - 1 = doy := by
    omega
  by_cases h : mp < 10
  · have hmonth : ((mp + 3).toNat : Int) = mp + 3 := by omega
    simp only [if_pos h]
    rw [if_neg (show ¬ (mp + 3).toNat ≤ 2 by omega), if_pos (show 2 < (mp + 3).toNat by omega),
      hmonth, hera.1, hera.2, show mp + 3 - 3 = mp by omega, hday]
    omega
  · have hmonth : ((mp - 9).toNat : Int) = mp - 9 := by omega
    simp only [if_neg h]
    rw [if_pos (show (mp - 9).toNat ≤ 2 by omega), if_neg (show ¬ 2 < (mp - 9).toNat by omega),
      hmonth, show yoe + era * 400 + 1 - 1 = yoe + era * 400 by omega, hera.1, hera.2,
      show mp - 9 + 9 = mp by omega, hday]
    omega

/-- **The day of the date of a day is that day.** -/
theorem toDays_ofDays (days : Int) : (ofDays days).toDays = days := by
  have hyear := @yearOfEra_mem ((days + 719468) % 146097) (by omega) (by omega)
  have hdoy := @dayOfYear_mem ((days + 719468) % 146097) (by omega) (by omega)
  have hsum : 365 * yearOfEra ((days + 719468) % 146097) +
      yearOfEra ((days + 719468) % 146097) / 4 - yearOfEra ((days + 719468) % 146097) / 100 +
      dayOfYear ((days + 719468) % 146097) = (days + 719468) % 146097 := by
    unfold dayOfYear
    omega
  rw [ofDays, toDays_mk _ hyear hdoy rfl, hsum]
  omega

/-! ### The text of an instant reads back -/

theorem readFraction_digits {w n : Nat} {rest : List Char} (hw : 0 < w) (hw' : w ≤ 9)
    (hn : n < 10 ^ w) (hrest : Ends rest) :
    readFraction ('.' :: (digits w n ++ rest)) = some (n * 10 ^ (9 - w), rest) := by
  simp only [readFraction]
  rw [readAllDigits_digits, readAllDigits_ends hrest, Nat.mod_eq_of_lt hn]
  simp only [Nat.zero_mul, Nat.zero_add, if_neg (Nat.pos_iff_ne_zero.mp hw), if_pos hw']

theorem Zone.ends (zone : Zone) : Ends zone.text := by
  cases zone <;> intro c hc <;> cases hc <;> decide

theorem readFraction_render (fraction : Fraction) (zone : Zone) {nanos : Nat}
    (h : nanos < 1000000000) :
    readFraction (renderFraction nanos fraction ++ zone.text) = some (nanos, zone.text) := by
  have hfull : readFraction ('.' :: (digits 9 nanos ++ zone.text)) = some (nanos, zone.text) := by
    rw [readFraction_digits (by omega) (by omega) h zone.ends]
    simp
  cases fraction with
  | nanos => exact hfull
  | auto =>
    simp only [renderFraction]
    split
    · rename_i hzero
      subst hzero
      cases zone <;> rfl
    · split
      · have hvalue : nanos / 1000000 * 10 ^ (9 - 3) = nanos := by omega
        rw [List.cons_append, readFraction_digits (by omega) (by omega) (by omega) zone.ends,
          hvalue]
      · split
        · have hvalue : nanos / 1000 * 10 ^ (9 - 6) = nanos := by omega
          rw [List.cons_append, readFraction_digits (by omega) (by omega) (by omega) zone.ends,
            hvalue]
        · exact hfull

theorem readOffset_zone (zone : Zone) : readOffset zone.text = some 0 := by
  cases zone <;> decide

theorem readChar_self (c : Char) (cs : List Char) : readChar c (c :: cs) = some cs := if_pos rfl

theorem bind_of_eq {α β : Type} {x : Option α} {a : α} {f : α → Option β} (h : x = some a) :
    (x >>= f) = f a := by
  rw [h]
  rfl

/-- A text whose parts read one after the other. -/
theorem parseWith_parts {readYear : List Char → Option (Int × List Char)} {year offset : Int}
    {month day hour minute second nanos : Nat}
    {cs afterYear afterMonth afterDay afterHour afterMinute afterSecond afterFraction : List Char}
    (hyear : readYear cs = some (year, '-' :: afterYear))
    (hmonth : readDigits 2 0 afterYear = some (month, '-' :: afterMonth))
    (hday : readDigits 2 0 afterMonth = some (day, 'T' :: afterDay))
    (hhour : readDigits 2 0 afterDay = some (hour, ':' :: afterHour))
    (hminute : readDigits 2 0 afterHour = some (minute, ':' :: afterMinute))
    (hsecond : readDigits 2 0 afterMinute = some (second, afterSecond))
    (hfraction : readFraction afterSecond = some (nanos, afterFraction))
    (hoffset : readOffset afterFraction = some offset) :
    parseWith readYear cs = assemble ⟨year, month, day⟩ hour minute second nanos offset := by
  unfold parseWith
  refine (bind_of_eq hyear).trans ?_
  refine (bind_of_eq (readChar_self '-' afterYear)).trans ?_
  refine (bind_of_eq hmonth).trans ?_
  refine (bind_of_eq (readChar_self '-' afterMonth)).trans ?_
  refine (bind_of_eq hday).trans ?_
  refine (bind_of_eq (rfl : _ = some afterDay)).trans ?_
  refine (bind_of_eq hhour).trans ?_
  refine (bind_of_eq (readChar_self ':' afterHour)).trans ?_
  refine (bind_of_eq hminute).trans ?_
  refine (bind_of_eq (readChar_self ':' afterMinute)).trans ?_
  refine (bind_of_eq hsecond).trans ?_
  refine (bind_of_eq hfraction).trans ?_
  exact bind_of_eq hoffset

/-- A text whose year reads back reads back as a whole. -/
theorem parseWith_render {readYear : List Char → Option (Int × List Char)}
    (fraction : Fraction) (zone : Zone) {secs : Int} {frac : Nat} (hfrac : frac < 2000000000)
    (hleap : 1000000000 ≤ frac → secs % 60 = 59)
    (hyear : ∀ rest, readYear (renderYear (yearOf secs) ++ '-' :: rest) =
      some (yearOf secs, '-' :: rest)) :
    parseWith readYear (render fraction zone secs frac) = some (secs, frac) := by
  obtain ⟨hmonth, hday⟩ := ofDays_mem (secs / 86400)
  have htwo : ∀ {n : Nat} (rest : List Char), n < 100 →
      readDigits 2 0 (digits 2 n ++ rest) = some (n, rest) := by
    intro n rest hn
    rw [readDigits_digits, Nat.zero_mul, Nat.zero_add, Nat.mod_eq_of_lt (show n < 10 ^ 2 from hn)]
  have hparts : parseWith readYear (render fraction zone secs frac) =
      assemble (ofDays (secs / 86400)) ((secs % 86400).toNat / 3600)
        ((secs % 86400).toNat / 60 % 60) ((secs % 86400).toNat % 60 + frac / 1000000000)
        (frac % 1000000000) 0 := by
    refine parseWith_parts ?_ (htwo _ hmonth) (htwo _ hday) (htwo _ ?_) (htwo _ ?_) (htwo _ ?_)
      (readFraction_render fraction zone (Nat.mod_lt frac (by omega))) (readOffset_zone zone)
    · simp only [render, List.append_assoc, List.cons_append]
      exact hyear _
    · omega
    · omega
    · omega
  rw [hparts, assemble, toDays_ofDays, if_pos ⟨rfl, by omega, by omega, by omega⟩]
  split
  · simp only [Option.some.injEq, Prod.mk.injEq]
    omega
  · simp only [Option.some.injEq, Prod.mk.injEq]
    omega

theorem readYearStrict_digits {year : Int} (h : 0 ≤ year ∧ year ≤ 9999) (rest : List Char) :
    readYearStrict (digits 4 year.toNat ++ rest) = some (year, rest) := by
  have hlt : year.toNat < 10 ^ 4 := by omega
  have hcast : (year.toNat : Int) = year := Int.toNat_of_nonneg h.1
  rw [readYearStrict, readDigits_digits, Nat.zero_mul, Nat.zero_add, Nat.mod_eq_of_lt hlt]
  simp only [Option.map_some, hcast]

theorem digitVal_digits_head (w n : Nat) (rest : List Char) :
    ∃ c cs, digits (w + 1) n ++ rest = c :: cs ∧ digitVal c ≠ none := by
  induction w generalizing n rest with
  | zero =>
    refine ⟨digitChar (n % 10), rest, rfl, ?_⟩
    rw [digitVal_digitChar (Nat.mod_lt n (by omega))]
    exact Option.some_ne_none _
  | succ w ih =>
    obtain ⟨c, cs, hcs, hc⟩ := ih (n / 10) (digitChar (n % 10) :: rest)
    refine ⟨c, cs, ?_, hc⟩
    rw [← hcs, digits, List.append_assoc]
    rfl

theorem readYearRelaxed_unsigned {c : Char} {cs : List Char} (h : digitVal c ≠ none) :
    readYearRelaxed (c :: cs) = readYearStrict (c :: cs) := by
  have hplus : c ≠ '+' := fun e => h (e ▸ by decide)
  have hminus : c ≠ '-' := fun e => h (e ▸ by decide)
  unfold readYearRelaxed
  split
  · rename_i heq
    exact absurd (List.cons.inj heq).1 hplus
  · rename_i heq
    exact absurd (List.cons.inj heq).1 hminus
  · rfl

/-- The digits of a signed year. -/
theorem readAllDigits_signed (n : Nat) (rest : List Char) :
    ∃ count, 0 < count ∧
      readAllDigits 0 0 ((if n ≤ 9999 then digits 4 n else Nat.toDigits 10 n) ++ '-' :: rest) =
        (n, count, '-' :: rest) := by
  have hends : Ends ('-' :: rest) := by
    intro c hc
    cases hc
    decide
  by_cases h : n ≤ 9999
  · refine ⟨4, by omega, ?_⟩
    have hlt : n < 10 ^ 4 := by omega
    rw [if_pos h, readAllDigits_digits, readAllDigits_ends hends, Nat.zero_mul, Nat.zero_add,
      Nat.zero_add, Nat.mod_eq_of_lt hlt]
  · refine ⟨(Nat.toDigits 10 n).length, List.length_pos_of_ne_nil Nat.toDigits_ne_nil, ?_⟩
    rw [if_neg h, readAllDigits_toDigits, readAllDigits_ends hends, Nat.zero_add]

theorem readYearRelaxed_renderYear (year : Int) (rest : List Char) :
    readYearRelaxed (renderYear year ++ '-' :: rest) = some (year, '-' :: rest) := by
  unfold renderYear
  by_cases h : 0 ≤ year ∧ year ≤ 9999
  · rw [if_pos h]
    obtain ⟨c, cs, hcs, hc⟩ := digitVal_digits_head 3 year.toNat ('-' :: rest)
    rw [hcs, readYearRelaxed_unsigned hc, ← hcs, readYearStrict_digits h]
  · rw [if_neg h, List.cons_append]
    obtain ⟨count, hcount, hread⟩ := readAllDigits_signed year.natAbs rest
    by_cases hneg : year < 0
    · have habs : -(year.natAbs : Int) = year := by omega
      simp only [if_pos hneg, readYearRelaxed, hread, if_neg (Nat.pos_iff_ne_zero.mp hcount),
        habs]
    · have habs : (year.natAbs : Int) = year := by omega
      simp only [if_neg hneg, readYearRelaxed, hread, if_neg (Nat.pos_iff_ne_zero.mp hcount),
        habs]

/-- **Every text reads back** through the relaxed reader. -/
theorem parseRelaxed_render (fraction : Fraction) (zone : Zone) {secs : Int} {frac : Nat}
    (hfrac : frac < 2000000000) (hleap : 1000000000 ≤ frac → secs % 60 = 59) :
    parseRelaxed (render fraction zone secs frac) = some (secs, frac) :=
  parseWith_render fraction zone hfrac hleap fun _ => readYearRelaxed_renderYear _ _

/-- **A text reads back through the strict reader when its year has four digits**; the reader
refuses every other text that `render` writes. -/
theorem parseStrict_render (fraction : Fraction) (zone : Zone) {secs : Int} {frac : Nat}
    (hfrac : frac < 2000000000) (hleap : 1000000000 ≤ frac → secs % 60 = 59) :
    parseStrict (render fraction zone secs frac) =
      if FourDigitYear secs then some (secs, frac) else none := by
  by_cases h : FourDigitYear secs
  · rw [if_pos h]
    refine parseWith_render fraction zone hfrac hleap fun rest => ?_
    rw [renderYear, if_pos (show 0 ≤ yearOf secs ∧ yearOf secs ≤ 9999 from h)]
    exact readYearStrict_digits h _
  · rw [if_neg h]
    -- the sign is not a digit
    have hsign : ∀ (c : Char) (cs : List Char), digitVal c = none →
        readYearStrict (c :: cs) = none := by
      intro c cs hc
      simp only [readYearStrict, readDigits, hc, Option.bind_none, Option.map_none]
    have hyear : ∀ rest, readYearStrict (renderYear (yearOf secs) ++ rest) = none := by
      intro rest
      rw [renderYear, if_neg (show ¬ (0 ≤ yearOf secs ∧ yearOf secs ≤ 9999) from h),
        List.cons_append]
      split
      · exact hsign _ _ (by decide)
      · exact hsign _ _ (by decide)
    simp only [parseStrict, parseWith, render, List.append_assoc, List.cons_append]
    rw [show (ofDays (secs / 86400)).year = yearOf secs from rfl, hyear]
    rfl
end Rfc3339
