import Kin.Lib.FixedWidth
import Kin.Py.Time

/-!
The text of a UTC timestamp sorts as the timestamp does. SQLite compares the
relay's time columns as strings, so this is what its `<` and its `ORDER BY`
mean. The fraction is left out when it is zero; the order survives because
`+` comes before `.`.
-/

namespace Kin.Py

open Kin.Lib

/-! ### Days of the calendar -/

/-- The year of the 400-year era, counted from March, that a day of the era falls in. -/
def yearOfEra (doe : Nat) : Nat := (doe - doe / 1460 + doe / 36524 - doe / 146096) / 365

def yearStart (yoe : Nat) : Nat := 365 * yoe + yoe / 4 - yoe / 100

theorem yearOfEra_mono {a b : Nat} (h : a ≤ b) (hb : b < 146097) : yearOfEra a ≤ yearOfEra b := by
  have hleap : a - a / 1460 ≤ b - b / 1460 := by omega
  have hcentury : a / 36524 - a / 146096 ≤ b / 36524 - b / 146096 := by omega
  have ha : a / 146096 ≤ a / 36524 := by omega
  have hb' : b / 146096 ≤ b / 36524 := by omega
  unfold yearOfEra
  apply Nat.div_le_div_right
  rw [Nat.add_sub_assoc ha, Nat.add_sub_assoc hb']
  exact Nat.add_le_add hleap hcentury

theorem yearOfEra_lt {doe : Nat} (h : doe < 146097) : yearOfEra doe < 400 := by
  have hlast : yearOfEra 146096 = 399 := by decide
  have hle := yearOfEra_mono (Nat.le_of_lt_succ h) (by decide)
  omega

set_option maxRecDepth 4000 in
/-- The formula answers a year from its first day on, and not the day before. -/
theorem yearOfEra_yearStart : ∀ yoe < 400,
    yearOfEra (yearStart yoe) = yoe ∧ yearOfEra (yearStart yoe - 1) = yoe - 1 := by
  decide

theorem yearStart_le {doe : Nat} (h : doe < 146097) : yearStart (yearOfEra doe) ≤ doe := by
  by_contra hlt
  have hyoe := yearOfEra_lt h
  have hstart : yearStart (yearOfEra doe) < 146097 := by
    unfold yearStart
    omega
  have hpos : 0 < yearOfEra doe := by
    by_contra hzero
    have heq : yearOfEra doe = 0 := by omega
    simp [heq, yearStart] at hlt
  -- the day would lie before the first of its own year
  have hmono := yearOfEra_mono (a := doe) (b := yearStart (yearOfEra doe) - 1) (by omega) (by omega)
  rw [(yearOfEra_yearStart _ hyoe).2] at hmono
  omega

theorem dayOfYear_le {doe : Nat} (h : doe < 146097) : doe - yearStart (yearOfEra doe) ≤ 365 := by
  have hyoe := yearOfEra_lt h
  by_cases hlast : yearOfEra doe = 399
  · rw [hlast, show yearStart 399 = 145731 by decide]
    omega
  · have hlt : doe < yearStart (yearOfEra doe + 1) := by
      by_contra hle
      have hmono := yearOfEra_mono (Nat.le_of_not_lt hle) h
      rw [(yearOfEra_yearStart _ (by omega)).1] at hmono
      omega
    have hlen : yearStart (yearOfEra doe + 1) ≤ yearStart (yearOfEra doe) + 366 := by
      unfold yearStart
      omega
    omega

/-- The month a day of the year falls in, counted from March. -/
def monthOfYear (doy : Nat) : Nat := (5 * doy + 2) / 153

def dayOfMonth (doy : Nat) : Nat := doy - (153 * monthOfYear doy + 2) / 5 + 1

theorem monthOfYear_lt {doy : Nat} (h : doy ≤ 365) : monthOfYear doy < 12 := by
  unfold monthOfYear
  omega

theorem dayOfMonth_le (doy : Nat) : dayOfMonth doy ≤ 31 := by
  unfold dayOfMonth monthOfYear
  omega

theorem monthOfYear_lex {a b : Nat} (h : a < b) : monthOfYear a < monthOfYear b ∨
    monthOfYear a = monthOfYear b ∧ dayOfMonth a < dayOfMonth b := by
  have hmono : monthOfYear a ≤ monthOfYear b := by
    unfold monthOfYear
    omega
  rcases Nat.lt_or_eq_of_le hmono with hlt | heq
  · exact .inl hlt
  · refine .inr ⟨heq, ?_⟩
    have hstart : (153 * monthOfYear a + 2) / 5 ≤ a := by
      unfold monthOfYear
      omega
    unfold dayOfMonth
    rw [← heq]
    omega

def dayOfEra (days : Int) : Nat := (days + 719468 - (days + 719468) / 146097 * 146097).toNat

def eraOf (days : Int) : Int := (days + 719468) / 146097

def dayOfYear (days : Int) : Nat := dayOfEra days - yearStart (yearOfEra (dayOfEra days))

theorem dayOfEra_lt (days : Int) : dayOfEra days < 146097 := by
  unfold dayOfEra
  omega

/-- Months since March of the year 0. -/
def monthIndex (days : Int) : Int :=
  12 * (yearOfEra (dayOfEra days) + eraOf days * 400) + monthOfYear (dayOfYear days)

theorem dayOfYear_lt_twelve_months (days : Int) : monthOfYear (dayOfYear days) < 12 :=
  monthOfYear_lt (dayOfYear_le (dayOfEra_lt days))

theorem civilOfDays_eq (days : Int) : civilOfDays days =
    ((monthIndex days + 2) / 12, ((monthIndex days + 2) % 12).toNat + 1,
      dayOfMonth (dayOfYear days)) := by
  have hmonth := dayOfYear_lt_twelve_months days
  have hcivil : civilOfDays days =
      (if (if monthOfYear (dayOfYear days) < 10 then monthOfYear (dayOfYear days) + 3
          else monthOfYear (dayOfYear days) - 9) ≤ 2
        then (yearOfEra (dayOfEra days) + eraOf days * 400 : Int) + 1
        else (yearOfEra (dayOfEra days) + eraOf days * 400 : Int),
      if monthOfYear (dayOfYear days) < 10 then monthOfYear (dayOfYear days) + 3
        else monthOfYear (dayOfYear days) - 9,
      dayOfMonth (dayOfYear days)) := rfl
  rw [hcivil, monthIndex]
  generalize monthOfYear (dayOfYear days) = month at hmonth
  generalize (yearOfEra (dayOfEra days) + eraOf days * 400 : Int) = year
  -- January and February are the last two months of the year that began in March
  by_cases hspring : month < 10
  · rw [if_pos hspring, if_neg (by omega)]
    refine Prod.ext ?_ (Prod.ext ?_ rfl)
    · show year = (12 * year + month + 2) / 12
      omega
    · show month + 3 = ((12 * year + month + 2) % 12).toNat + 1
      omega
  · rw [if_neg hspring, if_pos (by omega)]
    refine Prod.ext ?_ (Prod.ext ?_ rfl)
    · show year + 1 = (12 * year + month + 2) / 12
      omega
    · show month - 9 = ((12 * year + month + 2) % 12).toNat + 1
      omega

theorem dayOfYear_lex {a b : Int} (h : a < b) : monthIndex a < monthIndex b ∨
    monthIndex a = monthIndex b ∧ dayOfMonth (dayOfYear a) < dayOfMonth (dayOfYear b) := by
  have hma := dayOfYear_lt_twelve_months a
  have hmb := dayOfYear_lt_twelve_months b
  have hya := yearOfEra_lt (dayOfEra_lt a)
  have hyb := yearOfEra_lt (dayOfEra_lt b)
  have hera : eraOf a < eraOf b ∨ eraOf a = eraOf b ∧ dayOfEra a < dayOfEra b := by
    unfold eraOf dayOfEra
    omega
  rcases hera with hlt | ⟨heq, hlt⟩
  · left
    unfold monthIndex
    omega
  · have hmono := yearOfEra_mono (Nat.le_of_lt hlt) (dayOfEra_lt b)
    rcases Nat.lt_or_eq_of_le hmono with hyear | hyear
    · left
      unfold monthIndex
      omega
    · have hday : dayOfYear a < dayOfYear b := by
        have hstart := yearStart_le (dayOfEra_lt a)
        unfold dayOfYear
        rw [← hyear]
        omega
      unfold monthIndex
      rw [hyear, heq]
      rcases monthOfYear_lex hday with hmonth | ⟨hmonth, hmonthDay⟩
      · left
        omega
      · right
        exact ⟨by rw [hmonth], hmonthDay⟩

def dateFields (days : Int) : List Nat :=
  [(civilOfDays days).1.toNat, (civilOfDays days).2.1, (civilOfDays days).2.2]

/-- Days of the years 1 to 9999, which is what `datetime` covers. -/
def minDay : Int := -719162

def maxDay : Int := 2932896

example : civilOfDays minDay = (1, 1, 1) ∧ civilOfDays maxDay = (9999, 12, 31) := by decide

theorem monthIndex_bounds {days : Int} (hmin : minDay ≤ days) (hmax : days ≤ maxDay) :
    10 ≤ monthIndex days ∧ monthIndex days + 2 < 120000 := by
  constructor
  · have hfirst : monthIndex minDay = 10 := by decide
    rcases Int.lt_or_eq_of_le hmin with hlt | rfl
    · rcases dayOfYear_lex hlt with h | ⟨h, -⟩ <;> omega
    · omega
  · have hlast : monthIndex maxDay + 2 = 119999 := by decide
    rcases Int.lt_or_eq_of_le hmax with hlt | rfl
    · rcases dayOfYear_lex hlt with h | ⟨h, -⟩ <;> omega
    · omega

theorem dateFields_fits {days : Int} (hmin : minDay ≤ days) (hmax : days ≤ maxDay) :
    Fits [("", 4), ("-", 2), ("-", 2)] (dateFields days) := by
  have hmonth := monthIndex_bounds hmin hmax
  have hday := dayOfMonth_le (dayOfYear days)
  rw [dateFields, civilOfDays_eq]
  refine ⟨?_, ?_, ?_, trivial⟩
  · show ((monthIndex days + 2) / 12).toNat < 10000
    omega
  · show ((monthIndex days + 2) % 12).toNat + 1 < 100
    omega
  · show dayOfMonth (dayOfYear days) < 100
    omega

theorem dateFields_lt {a b : Int} (ha : minDay ≤ a) (hb : b ≤ maxDay) (h : a < b) :
    dateFields a < dateFields b := by
  have hma := (monthIndex_bounds ha (by omega)).1
  rw [dateFields, dateFields, civilOfDays_eq, civilOfDays_eq]
  simp only [List.cons_lt_cons_iff, List.not_lt_nil, and_false, or_false]
  rcases dayOfYear_lex h with hmonth | ⟨hmonth, hday⟩
  · omega
  · omega

/-! ### The text of an instant -/

theorem toList_zeroPad {width n : Nat} (h : n < 10 ^ (width + 1)) :
    (zeroPad (width + 1) n).toList = fixedWidth (width + 1) n := by
  have htext : ∀ width n, (zeroPad width n).toList =
      List.replicate (width - (Nat.toDigits 10 n).length) '0' ++ Nat.toDigits 10 n := by
    intro width n
    simp [zeroPad, Nat.repr_eq_ofList_toDigits]
  rw [htext]
  induction width generalizing n with
  | zero =>
      have hn : n < 10 := by simpa using h
      rw [Nat.toDigits_of_lt_base hn]
      simp [fixedWidth, Nat.mod_eq_of_lt hn]
  | succ width ih =>
      have hhead : n / 10 < 10 ^ (width + 1) := by
        rw [Nat.pow_succ] at h
        omega
      rw [fixedWidth, ← ih hhead]
      by_cases hn : n < 10
      · rw [Nat.toDigits_of_lt_base hn, Nat.div_eq_of_lt hn, Nat.toDigits_zero,
          Nat.mod_eq_of_lt hn]
        simp [← List.replicate_succ']
      · rw [Nat.toDigits_of_base_le (by decide) (Nat.le_of_not_lt hn)]
        simp

/-- The second a UTC instant falls in, the day of that second, the second of that day,
and the microseconds beyond it. -/
def secondOf (t : Instant) : Int := t / 1000000

def dayOf (t : Instant) : Int := secondOf t / 86400

def secondOfDay (t : Instant) : Nat := (secondOf t - dayOf t * 86400).toNat

def microsecond (t : Instant) : Nat := (t - secondOf t * 1000000).toNat

/-- Year, month, day, hour, minute and second of an instant. -/
def isoFields (t : Instant) : List Nat :=
  dateFields (dayOf t) ++
    [secondOfDay t / 3600, secondOfDay t / 60 % 60, secondOfDay t % 60]

def isoLayout : List (String × Nat) := [("", 4), ("-", 2), ("-", 2), ("T", 2), (":", 2), (":", 2)]

/-- The fraction of a second as it is printed: nothing when it is zero. -/
def isoFraction (t : Instant) : List Char :=
  if microsecond t = 0 then [] else '.' :: fixedWidth 6 (microsecond t)

theorem microsecond_lt (t : Instant) : microsecond t < 10 ^ 6 := by
  unfold microsecond secondOf
  omega

theorem secondOfDay_lt (t : Instant) : secondOfDay t < 86400 := by
  unfold secondOfDay dayOf
  omega

/-- A `datetime` of the UTC zone: an instant of the years 1 to 9999. -/
structure Datetime where
  instant : Instant
  min_le : minDay ≤ dayOf instant
  le_max : dayOf instant ≤ maxDay

theorem minDay_le_add (t : Datetime) (days : Nat) :
    minDay ≤ dayOf (t.instant + (days : Int) * 86400000000) := by
  have hmin := t.min_le
  unfold dayOf secondOf at *
  omega

/-- `t + timedelta(days=days)`; `none` is its `OverflowError`. -/
def Datetime.addDays? (t : Datetime) (days : Nat) : Option Datetime :=
  if h : dayOf (t.instant + (days : Int) * 86400000000) ≤ maxDay then
    some ⟨t.instant + (days : Int) * 86400000000, minDay_le_add t days, h⟩
  else none

theorem isoFields_fits (t : Datetime) : Fits isoLayout (isoFields t.instant) := by
  have hrest := secondOfDay_lt t.instant
  obtain ⟨hy, hm, hd, -⟩ := dateFields_fits t.min_le t.le_max
  refine ⟨hy, hm, hd, ?_, ?_, ?_, trivial⟩
  · show secondOfDay t.instant / 3600 < 100
    omega
  · show secondOfDay t.instant / 60 % 60 < 100
    omega
  · show secondOfDay t.instant % 60 < 100
    omega

theorem toList_isoBody (t : Datetime) :
    (isoBody t.instant).toList = record isoLayout (isoFields t.instant) ++ isoFraction t.instant := by
  have hbody : isoBody t.instant =
      zeroPad 4 (civilOfDays (dayOf t.instant)).1.toNat ++ "-" ++
        zeroPad 2 (civilOfDays (dayOf t.instant)).2.1 ++ "-" ++
        zeroPad 2 (civilOfDays (dayOf t.instant)).2.2 ++ "T" ++
        zeroPad 2 (secondOfDay t.instant / 3600) ++ ":" ++
        zeroPad 2 (secondOfDay t.instant / 60 % 60) ++ ":" ++
        zeroPad 2 (secondOfDay t.instant % 60) ++
        (if microsecond t.instant = 0 then "" else "." ++ zeroPad 6 (microsecond t.instant)) := rfl
  obtain ⟨hy, hm, hd, hh, hmin, hs, -⟩ := isoFields_fits t
  rw [hbody, isoFraction]
  simp only [String.toList_append, toList_zeroPad hy, toList_zeroPad hm, toList_zeroPad hd,
    toList_zeroPad hh, toList_zeroPad hmin, toList_zeroPad hs]
  simp only [isoLayout, isoFields, dateFields, record, List.cons_append, List.nil_append]
  split
  · simp
  · simp [toList_zeroPad (microsecond_lt t.instant)]

/-- `datetime.isoformat()` of a UTC timestamp. -/
def isoformat (t : Instant) : String := isoBody t ++ "+00:00"

theorem isoFields_lt {a b : Datetime} (h : secondOf a.instant < secondOf b.instant) :
    isoFields a.instant < isoFields b.instant := by
  have hday : dayOf a.instant < dayOf b.instant ∨
      dayOf a.instant = dayOf b.instant ∧ secondOfDay a.instant < secondOfDay b.instant := by
    unfold secondOfDay dayOf
    omega
  rcases hday with hday | ⟨hday, hrest⟩
  · exact append_lt_append_of_lt (dateFields_lt a.min_le b.le_max hday) rfl _ _
  · unfold isoFields
    rw [hday]
    apply append_lt_append_left
    simp only [List.cons_lt_cons_iff, List.not_lt_nil, and_false, or_false]
    omega

theorem isoFields_congr {a b : Instant} (h : secondOf a = secondOf b) :
    isoFields a = isoFields b := by
  unfold isoFields secondOfDay dayOf
  rw [h]

theorem second_lex {a b : Instant} (h : a < b) :
    secondOf a < secondOf b ∨ secondOf a = secondOf b ∧ microsecond a < microsecond b := by
  have hint : @LT.lt Int _ a b := h
  unfold microsecond secondOf
  omega

theorem isoFields_lex {a b : Datetime} (h : a.instant < b.instant) :
    isoFields a.instant < isoFields b.instant ∨
      isoFields a.instant = isoFields b.instant ∧ microsecond a.instant < microsecond b.instant := by
  rcases second_lex h with hlt | ⟨heq, hmicro⟩
  · exact .inl (isoFields_lt hlt)
  · exact .inr ⟨isoFields_congr heq, hmicro⟩

theorem isoformat_lt {a b : Datetime} (h : a.instant < b.instant) :
    isoformat a.instant < isoformat b.instant := by
  rw [String.lt_iff, isoformat, isoformat, String.toList_append, String.toList_append,
    toList_isoBody, toList_isoBody, List.append_assoc, List.append_assoc]
  rcases isoFields_lex h with hlt | ⟨heq, hmicro⟩
  · exact record_append_lt (isoFields_fits a) (isoFields_fits b) hlt _ _
  · rw [heq]
    apply append_lt_append_left
    unfold isoFraction
    rw [if_neg (Nat.ne_of_gt (Nat.zero_lt_of_lt hmicro))]
    -- a zero fraction is not printed, and `+` comes before `.`
    by_cases hzero : microsecond a.instant = 0
    · rw [if_pos hzero, List.nil_append, List.cons_append]
      exact List.cons_lt_cons_iff.mpr (.inl (by decide))
    · rw [if_neg hzero, List.cons_append, List.cons_append, List.cons_lt_cons_iff]
      refine .inr ⟨rfl, ?_⟩
      exact append_lt_append_of_lt (fixedWidth_lt hmicro (microsecond_lt b.instant)) (by simp) _ _

/-- The texts of two timestamps compare as the timestamps do. -/
theorem isoformat_lt_iff (a b : Datetime) :
    isoformat a.instant < isoformat b.instant ↔ a.instant < b.instant := by
  refine ⟨fun h => ?_, isoformat_lt⟩
  rcases Int.lt_trichotomy a.instant b.instant with hlt | heq | hgt
  · exact hlt
  · rw [heq] at h
    exact absurd h (lt_irrefl _)
  · exact absurd h (lt_asymm (isoformat_lt hgt))

theorem isoformat_le_iff (a b : Datetime) :
    isoformat a.instant ≤ isoformat b.instant ↔ a.instant ≤ b.instant := by
  rw [← not_lt, isoformat_lt_iff, not_lt]

/-! ### Texts that end in `Z` -/

/-- One of the two is a whole second, and the other lies inside that second. -/
def WholeAgainstFraction (a b : Instant) : Prop :=
  secondOf a = secondOf b ∧ (microsecond a = 0 ↔ microsecond b ≠ 0)

instance (a b : Instant) : Decidable (WholeAgainstFraction a b) :=
  inferInstanceAs (Decidable (secondOf a = secondOf b ∧ (microsecond a = 0 ↔ microsecond b ≠ 0)))

theorem WholeAgainstFraction.symm {a b : Instant} (h : WholeAgainstFraction a b) :
    WholeAgainstFraction b a := by
  obtain ⟨hsecond, hmicro⟩ := h
  exact ⟨hsecond.symm, by omega⟩

theorem toList_isoNow (t : Datetime) : (isoNow t.instant).toList =
    record isoLayout (isoFields t.instant) ++ (isoFraction t.instant ++ ['Z']) := by
  rw [isoNow, String.toList_append, toList_isoBody, List.append_assoc]
  rfl

theorem isoNow_lt {a b : Datetime} (h : a.instant < b.instant)
    (hno : ¬WholeAgainstFraction a.instant b.instant) : isoNow a.instant < isoNow b.instant := by
  rw [String.lt_iff, toList_isoNow, toList_isoNow]
  rcases second_lex h with hlt | ⟨heq, hmicro⟩
  · exact record_append_lt (isoFields_fits a) (isoFields_fits b) (isoFields_lt hlt) _ _
  · rw [isoFields_congr heq]
    apply append_lt_append_left
    have hfraction : microsecond a.instant ≠ 0 := by
      intro hzero
      exact hno ⟨heq, by omega⟩
    rw [isoFraction, isoFraction, if_neg hfraction, if_neg (by omega), List.cons_append,
      List.cons_append, List.cons_lt_cons_iff]
    refine .inr ⟨rfl, ?_⟩
    exact append_lt_append_of_lt (fixedWidth_lt hmicro (microsecond_lt b.instant)) (by simp) _ _

/-- The `Z` of the whole second comes after the point of the fraction. -/
theorem isoNow_gt {a b : Datetime} (h : a.instant < b.instant)
    (hwhole : WholeAgainstFraction a.instant b.instant) : isoNow b.instant < isoNow a.instant := by
  rw [String.lt_iff, toList_isoNow, toList_isoNow, isoFields_congr hwhole.1]
  apply append_lt_append_left
  rcases second_lex h with hlt | ⟨-, hmicro⟩
  · exact absurd hwhole.1 (ne_of_lt hlt)
  · have hfraction : microsecond b.instant ≠ 0 := by omega
    rw [isoFraction, isoFraction, if_pos (hwhole.2.mpr hfraction), if_neg hfraction,
      List.nil_append, List.cons_append]
    exact List.cons_lt_cons_iff.mpr (.inl (by decide))

/-- The texts compare as the timestamps do, and the other way round where a whole second
meets a fraction of it. -/
theorem isoNow_lt_iff (a b : Datetime) : isoNow a.instant < isoNow b.instant ↔
    if WholeAgainstFraction a.instant b.instant then b.instant < a.instant
    else a.instant < b.instant := by
  rcases Int.lt_trichotomy a.instant b.instant with hlt | heq | hgt
  · split
    · rename_i hwhole
      exact iff_of_false (lt_asymm (isoNow_gt hlt hwhole)) (lt_asymm hlt)
    · rename_i hno
      exact iff_of_true (isoNow_lt hlt hno) hlt
  · rw [heq]
    simp
  · split
    · rename_i hwhole
      exact iff_of_true (isoNow_gt hgt hwhole.symm) hgt
    · rename_i hno
      exact iff_of_false (lt_asymm (isoNow_lt hgt fun hwhole => hno hwhole.symm)) (lt_asymm hgt)

theorem isoNow_injective {a b : Datetime} (h : isoNow a.instant = isoNow b.instant) :
    a.instant = b.instant := by
  have hab := (isoNow_lt_iff a b).not.mp (by rw [h]; exact lt_irrefl _)
  have hba := (isoNow_lt_iff b a).not.mp (by rw [h]; exact lt_irrefl _)
  by_cases hwhole : WholeAgainstFraction a.instant b.instant
  · rw [if_pos hwhole] at hab
    rw [if_pos hwhole.symm] at hba
    exact le_antisymm (not_lt.mp hab) (not_lt.mp hba)
  · rw [if_neg hwhole] at hab
    rw [if_neg fun h => hwhole h.symm] at hba
    exact le_antisymm (not_lt.mp hba) (not_lt.mp hab)

end Kin.Py
