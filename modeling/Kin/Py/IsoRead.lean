import Kin.Py.FromIso
import Kin.Py.IsoOrder

/-!
What `fromisoformat` reads of a text that `isoformat` wrote: the reading of the
calendar and the clock, and the offset where one was written.
-/

namespace Kin.Py

open Kin.Lib

/-! ### Days -/

theorem isLeap_iff (year : Nat) :
    isLeap year = true ↔ year % 4 = 0 ∧ (year % 100 ≠ 0 ∨ year % 400 = 0) := by
  simp [isLeap]

/-- One day more than 365 before the first of March of a leap year. -/
theorem yearStart_succ (yoe : Nat) :
    yearStart (yoe + 1) ≤ yearStart yoe + 365 + if isLeap (yoe + 1) then 1 else 0 := by
  have hleap := isLeap_iff (yoe + 1)
  unfold yearStart
  split
  · omega
  · rename_i hno
    rw [hleap] at hno
    omega

theorem dayOfYear_le_leap {doe : Nat} (h : doe < 146097) :
    doe - yearStart (yearOfEra doe) < 365 + if isLeap (yearOfEra doe + 1) then 1 else 0 := by
  have hyoe := yearOfEra_lt h
  have hstart := yearStart_le h
  by_cases hlast : yearOfEra doe = 399
  · rw [hlast, show isLeap (399 + 1) = true by decide, show yearStart 399 = 145731 by decide]
    simp only [if_true]
    omega
  · have hlt : doe < yearStart (yearOfEra doe + 1) := by
      by_contra hle
      have hmono := yearOfEra_mono (Nat.le_of_not_lt hle) h
      rw [(yearOfEra_yearStart _ (by omega)).1] at hmono
      omega
    have hsucc := yearStart_succ (yearOfEra doe)
    omega

/-- The days of a year before a month, from the months counted from March. -/
theorem sum_daysInMonth {year : Nat} : ∀ month < 12,
    ((List.range (if month < 10 then month + 2 else month - 10)).map fun m =>
        (daysInMonth year (m + 1) : Int)).sum =
      if month < 10 then 59 + (if isLeap year then (1 : Int) else 0) + ((153 * month + 2) / 5 : Nat)
      else ((153 * month + 2) / 5 : Nat) - 306 := by
  intro month hmonth
  by_cases hleap : isLeap year = true
  · revert month
    simp only [daysInMonth, hleap]
    decide
  · revert month
    simp only [daysInMonth, hleap]
    decide

/-- The number of a month counted from March. -/
def monthNumber (month : Nat) : Nat := if month < 10 then month + 3 else month - 9

theorem monthNumber_le {month : Nat} (h : month < 12) : monthNumber month ≤ 12 := by
  unfold monthNumber
  split <;> omega

theorem dayOfMonth_le_daysInMonth {doy year : Nat}
    (h : doy < 365 + if isLeap year then 1 else 0) :
    dayOfMonth doy ≤ daysInMonth year (monthNumber (monthOfYear doy)) := by
  have hdoy : doy ≤ 365 := by
    split at h <;> omega
  have hmonth := monthOfYear_lt hdoy
  have hbounds : 153 * monthOfYear doy ≤ 5 * doy + 2 ∧
      5 * doy + 2 < 153 * (monthOfYear doy + 1) := by
    unfold monthOfYear
    omega
  unfold dayOfMonth
  generalize monthOfYear doy = month at hmonth hbounds
  -- February is the last month, and its length that of the year
  by_cases hfebruary : month = 11
  · subst hfebruary
    have hfour : daysInMonth year (monthNumber 11) = 28 + if isLeap year then 1 else 0 := by
      cases hleap : isLeap year <;> simp [daysInMonth, monthNumber, hleap]
    omega
  · have hall : ∀ m < 11, (153 * (m + 1) + 2) / 5 - (153 * m + 2) / 5 ≤
        daysInMonth year (monthNumber m) := by
      unfold daysInMonth monthNumber
      generalize isLeap year = leap
      revert leap
      decide
    have hlength := hall month (by omega)
    omega

/-- The year, the month and the day of a day number, counted from March. -/
theorem civilOfDays_fields (days : Int) : civilOfDays days =
    (yearOfEra (dayOfEra days) + eraOf days * 400 +
        (if monthOfYear (dayOfYear days) < 10 then 0 else 1 : Int),
      monthNumber (monthOfYear (dayOfYear days)), dayOfMonth (dayOfYear days)) := by
  have hmonth := dayOfYear_lt_twelve_months days
  rw [civilOfDays_eq, monthIndex]
  generalize monthOfYear (dayOfYear days) = month at hmonth
  generalize (yearOfEra (dayOfEra days) + eraOf days * 400 : Int) = year
  unfold monthNumber
  refine Prod.ext ?_ (Prod.ext ?_ rfl)
  · show (12 * year + month + 2) / 12 = year + if month < 10 then 0 else 1
    split <;> omega
  · show ((12 * year + month + 2) % 12).toNat + 1 = if month < 10 then month + 3 else month - 9
    split <;> omega

theorem yearDay_march {year yoe : Nat} {era : Int} (hyear : (year : Int) = yoe + era * 400)
    (hyoe : yoe < 400) (hpos : 1 ≤ year) :
    yearDay year + 59 + (if isLeap year then (1 : Int) else 0) =
      era * 146097 + yearStart yoe - 719468 := by
  have hleap := isLeap_iff year
  unfold yearDay yearStart
  split
  · rename_i hyes
    rw [hleap] at hyes
    omega
  · rename_i hno
    rw [hleap] at hno
    omega

theorem yearDay_january {year yoe : Nat} {era : Int} (hyear : (year : Int) = yoe + era * 400 + 1)
    (hyoe : yoe < 400) (hpos : 1 ≤ year) :
    yearDay year - 306 = era * 146097 + yearStart yoe - 719468 := by
  unfold yearDay yearStart
  omega

/-- A year is as long as the one of its era it falls on. -/
theorem isLeap_era {year yoe : Nat} {era : Int} (hyear : (year : Int) = yoe + era * 400) :
    isLeap year = isLeap yoe := by
  rw [Bool.eq_iff_iff, isLeap_iff, isLeap_iff]
  omega

theorem calendarDay_eq {year month day : Nat} (hyear : 1 ≤ year) (hmonth : month < 12)
    (hday : 1 ≤ day) (hlength : day ≤ daysInMonth year (monthNumber month)) :
    calendarDay year (monthNumber month) day = some (yearDay year +
      (if month < 10 then
          59 + (if isLeap year then (1 : Int) else 0) + ((153 * month + 2) / 5 : Nat)
        else ((153 * month + 2) / 5 : Nat) - 306) + (day - 1 : Nat)) := by
  have hpos : 1 ≤ monthNumber month := by
    unfold monthNumber
    split <;> omega
  have hprevious : monthNumber month - 1 = if month < 10 then month + 2 else month - 10 := by
    unfold monthNumber
    split <;> omega
  rw [calendarDay, if_pos ⟨hyear, hpos, monthNumber_le hmonth, hday, hlength⟩, hprevious,
    sum_daysInMonth month hmonth]

/-- The calendar date of a day number is read as that day. -/
theorem calendarDay_civilOfDays {days : Int} (hmin : minDay ≤ days) (hmax : days ≤ maxDay) :
    calendarDay (civilOfDays days).1.toNat (civilOfDays days).2.1 (civilOfDays days).2.2 =
      some days := by
  have hdoe := dayOfEra_lt days
  have hyoe := yearOfEra_lt hdoe
  have hstart := yearStart_le hdoe
  have hindex := (monthIndex_bounds hmin hmax).1
  have hmonth := dayOfYear_lt_twelve_months days
  have hleap := dayOfYear_le_leap hdoe
  have hdays : days = eraOf days * 146097 + dayOfEra days - 719468 := by
    unfold eraOf dayOfEra
    omega
  have hdoy : dayOfYear days = dayOfEra days - yearStart (yearOfEra (dayOfEra days)) := rfl
  have hoffset : (153 * monthOfYear (dayOfYear days) + 2) / 5 ≤ dayOfYear days := by
    unfold monthOfYear
    omega
  have hday : dayOfMonth (dayOfYear days) =
      dayOfYear days - (153 * monthOfYear (dayOfYear days) + 2) / 5 + 1 := rfl
  have hdayPos : 1 ≤ dayOfMonth (dayOfYear days) := by omega
  unfold monthIndex at hindex
  rw [← hdoy] at hleap
  rw [civilOfDays_fields]
  by_cases hspring : monthOfYear (dayOfYear days) < 10
  · obtain ⟨year, hyear⟩ := Int.eq_ofNat_of_zero_le
      (show 0 ≤ (yearOfEra (dayOfEra days) + eraOf days * 400 : Int) by omega)
    have hlength : dayOfMonth (dayOfYear days) ≤
        daysInMonth year (monthNumber (monthOfYear (dayOfYear days))) := by
      apply dayOfMonth_le_daysInMonth
      unfold monthOfYear at hspring
      omega
    have hmarch := yearDay_march hyear.symm hyoe (by omega)
    simp only [if_pos hspring, add_zero, hyear, Int.toNat_natCast]
    rw [calendarDay_eq (by omega) hmonth hdayPos hlength, if_pos hspring]
    congr 1
    generalize (if isLeap year = true then (1 : Int) else 0) = leapDay at hmarch ⊢
    omega
  · obtain ⟨year, hyear⟩ := Int.eq_ofNat_of_zero_le
      (show 0 ≤ (yearOfEra (dayOfEra days) + eraOf days * 400 + 1 : Int) by omega)
    have hyearEra : (year : Int) = (yearOfEra (dayOfEra days) + 1 : Nat) + eraOf days * 400 := by
      omega
    have hera : isLeap year = isLeap (yearOfEra (dayOfEra days) + 1) := isLeap_era hyearEra
    have hlength : dayOfMonth (dayOfYear days) ≤
        daysInMonth year (monthNumber (monthOfYear (dayOfYear days))) := by
      apply dayOfMonth_le_daysInMonth
      rw [hera]
      exact hleap
    have hjanuary := yearDay_january hyear.symm hyoe (by omega)
    simp only [if_neg hspring, hyear, Int.toNat_natCast]
    rw [calendarDay_eq (by omega) hmonth hdayPos hlength, if_neg hspring]
    congr 1
    omega

/-! ### Digits -/

theorem digitChar_spec {n : Nat} (h : n < 10) :
    (Nat.digitChar n).isDigit = true ∧ (Nat.digitChar n).toNat - 48 = n := by
  have hall : ∀ n < 10, (Nat.digitChar n).isDigit = true ∧ (Nat.digitChar n).toNat - 48 = n := by
    decide
  exact hall n h

theorem isDigit_of_mem_fixedWidth {width n : Nat} {c : Char} (h : c ∈ fixedWidth width n) :
    c.isDigit = true := by
  induction width generalizing n with
  | zero => cases h
  | succ width ih =>
      rw [fixedWidth, List.mem_append, List.mem_singleton] at h
      rcases h with h | rfl
      · exact ih h
      · exact (digitChar_spec (by omega)).1

theorem parseDigits_append {count more acc n : Nat} {cs rest : List Char}
    (h : parseDigits count acc cs = some (n, rest)) :
    parseDigits (count + more) acc cs = parseDigits more n rest := by
  induction count generalizing acc cs with
  | zero =>
      cases h
      rw [Nat.zero_add]
  | succ count ih =>
      obtain _ | ⟨c, cs⟩ := cs
      · cases h
      · rw [parseDigits] at h
        rw [Nat.succ_add, parseDigits]
        split at h
        · rename_i hdigit
          rw [if_pos hdigit]
          exact ih h
        · cases h

/-- A number is read in the width it was written in. -/
theorem parseDigits_fixedWidth {width n : Nat} (h : n < 10 ^ width) (acc : Nat)
    (rest : List Char) :
    parseDigits width acc (fixedWidth width n ++ rest) = some (acc * 10 ^ width + n, rest) := by
  induction width generalizing n rest with
  | zero =>
      rw [Nat.pow_zero, Nat.lt_one_iff] at h
      subst h
      rw [Nat.pow_zero, Nat.mul_one]
      rfl
  | succ width ih =>
      have hhead : n / 10 < 10 ^ width := by
        rw [Nat.pow_succ] at h
        omega
      obtain ⟨hdigit, hvalue⟩ := digitChar_spec (n := n % 10) (by omega)
      have hrest := ih hhead (Nat.digitChar (n % 10) :: rest)
      rw [fixedWidth, List.append_assoc, List.singleton_append, parseDigits_append hrest,
        parseDigits, if_pos hdigit, hvalue, parseDigits, Nat.pow_succ]
      congr 2
      calc 10 * (acc * 10 ^ width + n / 10) + n % 10
          = 10 * (acc * 10 ^ width) + (10 * (n / 10) + n % 10) := by
            rw [Nat.mul_add, Nat.add_assoc]
        _ = acc * (10 ^ width * 10) + n := by
            rw [Nat.div_add_mod, Nat.mul_left_comm, Nat.mul_comm 10]

theorem parseDigits_two {n : Nat} (h : n < 100) (rest : List Char) :
    parseDigits 2 0 (fixedWidth 2 n ++ rest) = some (n, rest) := by
  rw [parseDigits_fixedWidth h, Nat.zero_mul, Nat.zero_add]

/-! ### Clocks -/

section

variable {count n microsecond : Nat} {colon : Bool} {components : List Nat} {tail : List Char}

/-- A pair of digits, a colon and more. -/
theorem parseComponents_colon (hn : n < 100) (htail : tail ≠ [])
    (hcolon : components = [] ∨ colon = true) :
    parseComponents (count + 1) colon components (fixedWidth 2 n ++ ':' :: tail) =
      parseComponents count true (components ++ [n]) tail := by
  obtain ⟨c, tail, rfl⟩ := List.exists_cons_of_ne_nil htail
  have huse : (if components = [] then (':' :: c :: tail).head? == some ':' else colon) = true := by
    rcases hcolon with rfl | rfl
    · rfl
    · split <;> rfl
  rw [parseComponents, parseDigits_two hn]
  simp only [Option.bind_eq_bind, Option.bind_some, huse]
  simp

/-- The last pair of digits. -/
theorem parseComponents_end (hn : n < 100) :
    parseComponents (count + 1) colon components (fixedWidth 2 n) =
      some (.ofComponents (components ++ [n]) 0, []) := by
  have hdigits := parseDigits_two hn []
  rw [List.append_nil] at hdigits
  rw [parseComponents, hdigits]
  rfl

theorem parseFraction_fixedWidth (h : microsecond < 10 ^ 6) :
    parseFraction (fixedWidth 6 microsecond) = some (microsecond, []) := by
  have hdigits := parseDigits_fixedWidth h 0 []
  rw [List.append_nil, Nat.zero_mul, Nat.zero_add] at hdigits
  rw [parseFraction, length_fixedWidth, Nat.min_self, hdigits]
  simp

/-- The last pair of digits, a point and six digits of a fraction. -/
theorem parseComponents_fraction (hn : n < 100) (hmicro : microsecond < 10 ^ 6) :
    parseComponents (count + 1) colon components
        (fixedWidth 2 n ++ '.' :: fixedWidth 6 microsecond) =
      some (.ofComponents (components ++ [n]) microsecond, []) := by
  have hne : fixedWidth 6 microsecond ≠ [] := by
    rw [← List.length_pos_iff, length_fixedWidth]
    decide
  obtain ⟨c, tail, htail⟩ := List.exists_cons_of_ne_nil hne
  have hfraction := parseFraction_fixedWidth hmicro
  rw [parseComponents, parseDigits_two hn, htail] at *
  simp [hfraction]

end

/-- The seconds and the fraction of a clock, as they follow the minutes. -/
def secondsText (second microsecond : Nat) : List Char :=
  ':' :: (fixedWidth 2 second ++
    if microsecond = 0 then [] else '.' :: fixedWidth 6 microsecond)

def clockText (hour minute : Nat) (seconds : List Char) : List Char :=
  fixedWidth 2 hour ++ ':' :: (fixedWidth 2 minute ++ seconds)

theorem fixedWidth_append_ne_nil (n : Nat) (rest : List Char) : fixedWidth 2 n ++ rest ≠ [] := by
  rw [← List.length_pos_iff, List.length_append, length_fixedWidth]
  omega

theorem parseClock_seconds {hour minute second microsecond : Nat} (hhour : hour < 100)
    (hminute : minute < 100) (hsecond : second < 100) (hmicro : microsecond < 10 ^ 6) :
    parseClock (clockText hour minute (secondsText second microsecond)) =
      some (⟨hour, minute, second, microsecond⟩, []) := by
  rw [parseClock, clockText, parseComponents_colon hhour (fixedWidth_append_ne_nil _ _) (.inl rfl),
    secondsText, parseComponents_colon hminute (fixedWidth_append_ne_nil _ _) (.inr rfl)]
  split
  · rename_i hzero
    subst hzero
    rw [List.append_nil, parseComponents_end hsecond]
    rfl
  · rw [parseComponents_fraction hsecond hmicro]
    rfl

theorem parseClock_minutes {hour minute : Nat} (hhour : hour < 100) (hminute : minute < 100) :
    parseClock (clockText hour minute []) = some (⟨hour, minute, 0, 0⟩, []) := by
  rw [parseClock, clockText, parseComponents_colon hhour (fixedWidth_append_ne_nil _ _) (.inl rfl),
    List.append_nil, parseComponents_end hminute]
  rfl

/-! ### Times of day -/

def isClockChar (c : Char) : Bool := c.isDigit || c == ':' || c == '.'

theorem isClockChar_of_mem_fixedWidth {width n : Nat} {c : Char} (h : c ∈ fixedWidth width n) :
    isClockChar c = true := by
  simp [isClockChar, isDigit_of_mem_fixedWidth h]

theorem isClockChar_of_mem_secondsText {second microsecond : Nat} {c : Char}
    (h : c ∈ secondsText second microsecond) : isClockChar c = true := by
  simp only [secondsText, List.mem_append, List.mem_cons] at h
  rcases h with rfl | h | h
  · rfl
  · exact isClockChar_of_mem_fixedWidth h
  · split at h
    · cases h
    · rcases List.mem_cons.mp h with rfl | h
      · rfl
      · exact isClockChar_of_mem_fixedWidth h

theorem isClockChar_of_mem_clockText {hour minute : Nat} {seconds : List Char} {c : Char}
    (hseconds : ∀ c ∈ seconds, isClockChar c = true) (h : c ∈ clockText hour minute seconds) :
    isClockChar c = true := by
  simp only [clockText, List.mem_append, List.mem_cons] at h
  rcases h with h | rfl | h | h
  · exact isClockChar_of_mem_fixedWidth h
  · rfl
  · exact isClockChar_of_mem_fixedWidth h
  · exact hseconds c h

theorem not_startsOffset_of_isClockChar {c : Char} (h : isClockChar c = true) :
    startsOffset c = false := by
  by_contra hstarts
  simp only [startsOffset, Bool.not_eq_false, Bool.or_eq_true, beq_iff_eq] at hstarts
  rcases hstarts with (rfl | rfl) | rfl <;> exact absurd h (by decide)

/-- What `parse_isoformat_time` makes of the offset, or of none. -/
def zoneOffset : List Char → Option (Option Int)
  | [] => some none
  | zone => (parseOffset zone).map some

theorem parseTime_clockText {hour minute second microsecond : Nat} (hhour : hour < 24)
    (hminute : minute < 60) (hsecond : second < 60) (hmicro : microsecond < 10 ^ 6)
    {zone : List Char} (hzone : ∀ c ∈ zone.head?, startsOffset c = true) :
    parseTime (clockText hour minute (secondsText second microsecond) ++ zone) =
      (zoneOffset zone).map fun offset =>
        (((hour * 3600 + minute * 60 + second) * 1000000 + microsecond), offset) := by
  have hclock : parseClock (clockText hour minute (secondsText second microsecond)) =
      some (⟨hour, minute, second, microsecond⟩, []) :=
    parseClock_seconds (by omega) (by omega) (by omega) hmicro
  have hnone : ∀ c ∈ clockText hour minute (secondsText second microsecond),
      (fun c => !startsOffset c) c = true := by
    intro c hc
    have hchar := isClockChar_of_mem_clockText (fun _ => isClockChar_of_mem_secondsText) hc
    simp [not_startsOffset_of_isClockChar hchar]
  have htake : (clockText hour minute (secondsText second microsecond) ++ zone).takeWhile
      (fun c => !startsOffset c) = clockText hour minute (secondsText second microsecond) := by
    rw [List.takeWhile_append_of_pos hnone]
    obtain _ | ⟨c, zone⟩ := zone
    · simp
    · simp [hzone c rfl]
  have hdrop : (clockText hour minute (secondsText second microsecond) ++ zone).dropWhile
      (fun c => !startsOffset c) = zone := by
    rw [List.dropWhile_append_of_pos hnone]
    obtain _ | ⟨c, zone⟩ := zone
    · simp
    · simp [hzone c rfl]
  rw [parseTime, htake, hdrop, hclock]
  have hrange : hour < 24 ∧ minute < 60 ∧ second < 60 := ⟨hhour, hminute, hsecond⟩
  simp only [Option.bind_eq_bind, Option.bind_some, if_pos hrange]
  obtain _ | ⟨c, zone⟩ := zone
  · rfl
  · simp only [zoneOffset, Option.map_map]
    rfl

/-! ### Texts -/

/-- The text of a timestamp: its date, and behind a `T` its time of day. -/
theorem toList_isoBody_eq (t : Datetime) : (isoBody t.instant).toList =
    fixedWidth 4 (civilOfDays (dayOf t.instant)).1.toNat ++
      '-' :: (fixedWidth 2 (civilOfDays (dayOf t.instant)).2.1 ++
        '-' :: (fixedWidth 2 (civilOfDays (dayOf t.instant)).2.2 ++
          'T' :: clockText (secondOfDay t.instant / 3600) (secondOfDay t.instant / 60 % 60)
            (secondsText (secondOfDay t.instant % 60) (microsecond t.instant)))) := by
  rw [toList_isoBody, isoFraction]
  simp [isoLayout, isoFields, dateFields, record, clockText, secondsText]

/-- The characters of a timestamp. -/
theorem mem_isoBody {t : Datetime} {c : Char} (h : c ∈ (isoBody t.instant).toList) :
    isClockChar c = true ∨ c = '-' ∨ c = 'T' := by
  simp only [toList_isoBody_eq, List.mem_append, List.mem_cons] at h
  rcases h with h | h | h | h | h | h | h
  · exact .inl (isClockChar_of_mem_fixedWidth h)
  · exact .inr (.inl h)
  · exact .inl (isClockChar_of_mem_fixedWidth h)
  · exact .inr (.inl h)
  · exact .inl (isClockChar_of_mem_fixedWidth h)
  · exact .inr (.inr h)
  · exact .inl (isClockChar_of_mem_clockText (fun _ => isClockChar_of_mem_secondsText) h)

theorem parseDate_calendar {year month day : Nat} (hyear : year < 10 ^ 4) (hmonth : month < 100)
    (hday : day < 100) :
    parseDate (fixedWidth 4 year ++ '-' :: (fixedWidth 2 month ++ '-' :: fixedWidth 2 day)) =
      calendarDay year month day := by
  have hfirst := parseDigits_fixedWidth hyear 0
    ('-' :: (fixedWidth 2 month ++ '-' :: fixedWidth 2 day))
  have hsecond := parseDigits_two hmonth ('-' :: fixedWidth 2 day)
  have hthird := parseDigits_two hday []
  rw [List.append_nil] at hthird
  rw [Nat.zero_mul, Nat.zero_add] at hfirst
  rw [parseDate, hfirst]
  -- a week date would have a `W` where the month begins
  obtain ⟨c, tail, htail, hdigit⟩ : ∃ c tail, fixedWidth 2 month ++ '-' :: fixedWidth 2 day =
      c :: tail ∧ c.isDigit = true :=
    ⟨Nat.digitChar (month / 10 % 10), _, rfl, (digitChar_spec (by omega)).1⟩
  have hweek : c ≠ 'W' := by
    rintro rfl
    exact absurd hdigit (by decide)
  rw [htail] at hsecond ⊢
  have hskip : skipMark true '-' ('-' :: c :: tail) = some (c :: tail) := rfl
  have hskipDay : skipMark true '-' ('-' :: fixedWidth 2 day) = some (fixedWidth 2 day) := rfl
  simp only [Option.bind_eq_bind, Option.bind_some, List.head?_cons, beq_self_eq_true, hskip]
  split
  · rename_i heq
    cases heq
    exact absurd rfl hweek
  · simp only [hsecond, Option.bind_some, hskipDay, hthird, if_true]

theorem separatorLocation_calendar {year month : Nat} {rest : List Char}
    (hlong : 8 ≤ (fixedWidth 4 year ++ '-' :: (fixedWidth 2 month ++ rest)).length) :
    separatorLocation (fixedWidth 4 year ++ '-' :: (fixedWidth 2 month ++ rest)) = 10 := by
  have hdigit := (digitChar_spec (n := month / 10 % 10) (by omega)).1
  have hweek : Nat.digitChar (month / 10 % 10) ≠ 'W' := by
    intro heq
    rw [heq] at hdigit
    exact absurd hdigit (by decide)
  have hfour : (fixedWidth 4 year ++ '-' :: (fixedWidth 2 month ++ rest))[4]? = some '-' := rfl
  have hfive : (fixedWidth 4 year ++ '-' :: (fixedWidth 2 month ++ rest))[5]? =
      some (Nat.digitChar (month / 10 % 10)) := rfl
  rw [separatorLocation, if_neg (by omega), hfour, if_pos rfl, hfive,
    if_neg (by simp [hweek])]

/-- The microseconds of a timestamp, from its day and its clock. -/
theorem reading_eq (t : Instant) :
    dayOf t * 86400000000 + ((secondOfDay t / 3600 * 3600 + secondOfDay t / 60 % 60 * 60 +
      secondOfDay t % 60) * 1000000 + microsecond t : Nat) = t := by
  unfold dayOf secondOfDay microsecond secondOf dayOf secondOf
  omega

/-- A text that `isoformat` wrote, with an offset behind it or none, is read as it was. -/
theorem fromisoformat_isoBody (t : Datetime) {zone : List Char}
    (hzone : ∀ c ∈ zone.head?, startsOffset c = true) :
    fromisoformat (String.ofList ((isoBody t.instant).toList ++ zone)) =
      (zoneOffset zone).map fun offset => ⟨t.instant, offset⟩ := by
  obtain ⟨hy, hm, hd, hh, hmin, hs, -⟩ := isoFields_fits t
  have hsecond := secondOfDay_lt t.instant
  have hhour : secondOfDay t.instant / 3600 < 24 := by omega
  have hminute : secondOfDay t.instant / 60 % 60 < 60 := by omega
  have hsec : secondOfDay t.instant % 60 < 60 := by omega
  have htime := parseTime_clockText hhour hminute hsec (microsecond_lt t.instant) hzone
  have hreading := reading_eq t.instant
  have hdate := parseDate_calendar hy hm hd
  rw [calendarDay_civilOfDays t.min_le t.le_max] at hdate
  have hlength : (fixedWidth 4 (civilOfDays (dayOf t.instant)).1.toNat ++
      '-' :: (fixedWidth 2 (civilOfDays (dayOf t.instant)).2.1 ++
        '-' :: fixedWidth 2 (civilOfDays (dayOf t.instant)).2.2)).length = 10 := by
    simp
  have hlocation (time : List Char) :
      separatorLocation (fixedWidth 4 (civilOfDays (dayOf t.instant)).1.toNat ++
        '-' :: (fixedWidth 2 (civilOfDays (dayOf t.instant)).2.1 ++
          '-' :: (fixedWidth 2 (civilOfDays (dayOf t.instant)).2.2 ++ time))) = 10 := by
    apply separatorLocation_calendar
    simp only [List.length_append, List.length_cons, length_fixedWidth]
    omega
  rw [toList_isoBody_eq]
  generalize clockText (secondOfDay t.instant / 3600) (secondOfDay t.instant / 60 % 60)
    (secondsText (secondOfDay t.instant % 60) (microsecond t.instant)) = clock at htime
  have htext : (fixedWidth 4 (civilOfDays (dayOf t.instant)).1.toNat ++
      '-' :: (fixedWidth 2 (civilOfDays (dayOf t.instant)).2.1 ++
        '-' :: (fixedWidth 2 (civilOfDays (dayOf t.instant)).2.2 ++ 'T' :: clock))) ++ zone =
      (fixedWidth 4 (civilOfDays (dayOf t.instant)).1.toNat ++
        '-' :: (fixedWidth 2 (civilOfDays (dayOf t.instant)).2.1 ++
          '-' :: fixedWidth 2 (civilOfDays (dayOf t.instant)).2.2)) ++ 'T' :: (clock ++ zone) := by
    simp
  have hseparator := hlocation ('T' :: (clock ++ zone))
  rw [fromisoformat, String.toList_ofList, htext]
  rw [show separatorLocation _ = 10 by simpa using hseparator, List.take_left' hlength,
    List.drop_left' hlength, hdate]
  simp only [Option.bind_eq_bind, Option.bind_some, htime, Option.bind_map]
  cases zoneOffset zone with
  | none => rfl
  | some offset =>
      simp only [Option.bind_some, Function.comp, Option.map_some, hreading]

/-! ### Offsets -/

/-- The offset as `isoformat` writes it: seconds and a fraction only where they are not
zero. -/
def offsetText (offset : Int) : List Char :=
  (if offset < 0 then '-' else '+') ::
    clockText (offset.natAbs / 3600000000) (offset.natAbs / 60000000 % 60)
      (if offset.natAbs % 60000000 = 0 then []
        else secondsText (offset.natAbs / 1000000 % 60) (offset.natAbs % 1000000))

theorem isClockChar_of_mem_offsetText {offset : Int} {c : Char}
    (h : c ∈ (offsetText offset).tail) : isClockChar c = true := by
  apply isClockChar_of_mem_clockText _ h
  intro c hc
  split at hc
  · cases hc
  · exact isClockChar_of_mem_secondsText hc

theorem startsOffset_offsetText (offset : Int) :
    ∀ c ∈ (offsetText offset).head?, startsOffset c = true := by
  intro c hc
  rw [offsetText, List.head?_cons, Option.mem_some_iff] at hc
  subst hc
  split <;> rfl

theorem parseOffset_offsetText {offset : Int} (h : offset.natAbs < 86400000000) :
    parseOffset (offsetText offset) = some offset := by
  obtain ⟨clock, hclock, hmicros⟩ : ∃ clock : Clock, parseClock (clockText
      (offset.natAbs / 3600000000) (offset.natAbs / 60000000 % 60)
      (if offset.natAbs % 60000000 = 0 then []
        else secondsText (offset.natAbs / 1000000 % 60) (offset.natAbs % 1000000))) =
      some (clock, []) ∧ clock.micros = offset.natAbs := by
    split
    · refine ⟨_, parseClock_minutes (by omega) (by omega), ?_⟩
      simp only [Clock.micros]
      omega
    · refine ⟨_, parseClock_seconds (by omega) (by omega) (by omega) (by omega), ?_⟩
      simp only [Clock.micros]
      omega
  have hend : ([] : List Char) = [] ∧ clock.micros < 86400000000 := ⟨rfl, by omega⟩
  rw [offsetText]
  by_cases hneg : offset < 0
  · rw [if_pos hneg, parseOffset, if_pos (.inr rfl), hclock, Option.bind_eq_bind, Option.bind_some]
    · dsimp only
      rw [if_pos hend, if_pos rfl]
      congr 1
      omega
    · intro h
      cases h
  · rw [if_neg hneg, parseOffset, if_pos (.inl rfl), hclock, Option.bind_eq_bind, Option.bind_some]
    · dsimp only
      rw [if_pos hend, if_neg (by decide)]
      congr 1
      omega
    · intro h
      cases h

/-- An aware `datetime`: the reading of its own calendar and clock, and its offset from
UTC, which is less than a day. -/
structure Aware where
  reading : Datetime
  offset : Int
  offset_lt : offset.natAbs < 86400000000

def Aware.instant (t : Aware) : Instant := t.reading.instant - t.offset

/-- `t.isoformat()`. -/
def Aware.isoformat (t : Aware) : String :=
  isoBody t.reading.instant ++ String.ofList (offsetText t.offset)

/-- An aware timestamp is read as it was written. -/
theorem fromisoformat_isoformat (t : Aware) :
    fromisoformat t.isoformat = some ⟨t.reading.instant, some t.offset⟩ := by
  have htext : t.isoformat =
      String.ofList ((isoBody t.reading.instant).toList ++ offsetText t.offset) := by
    rw [Aware.isoformat, String.ofList_append, String.ofList_toList]
  have hzone : zoneOffset (offsetText t.offset) = some (some t.offset) := by
    have hoffset := parseOffset_offsetText t.offset_lt
    rw [offsetText] at hoffset ⊢
    rw [zoneOffset, hoffset]
    · rfl
    · intro h
      cases h
  rw [htext, fromisoformat_isoBody t.reading (startsOffset_offsetText t.offset), hzone]
  rfl

/-- Without its offset it is read as a naive timestamp. -/
theorem fromisoformat_isoBody_naive (t : Datetime) :
    fromisoformat (isoBody t.instant) = some ⟨t.instant, none⟩ := by
  have hnone : ∀ c ∈ ([] : List Char).head?, startsOffset c = true := by simp
  have hread := fromisoformat_isoBody t hnone
  rw [List.append_nil, String.ofList_toList] at hread
  exact hread

end Kin.Py
