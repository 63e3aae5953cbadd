import Kin.Py.Time
import Mathlib.Algebra.Ring.Int.Defs
import Mathlib.Data.List.TakeWhile

/-!
`datetime.fromisoformat`: a calendar or week date, then any one character and a
time of day, with an optional offset. Reduced precision, ordinal dates and
fractional hours or minutes are not read. What the signed texts of the relay
rest on is the last character of a text that is read: a digit or `Z`.
-/

namespace Kin.Py

/-! ### Digits -/

/-- Exactly `count` ASCII digits from the front, onto the number read so far. -/
def parseDigits : Nat → Nat → List Char → Option (Nat × List Char)
  | 0, acc, cs => some (acc, cs)
  | _ + 1, _, [] => none
  | count + 1, acc, c :: cs =>
      if c.isDigit then parseDigits count (10 * acc + (c.toNat - 48)) cs else none

/-- A mark that stands in the text only when `present`. -/
def skipMark (present : Bool) (mark : Char) (cs : List Char) : Option (List Char) :=
  match present, cs with
  | false, cs => some cs
  | true, c :: cs => if c = mark then some cs else none
  | true, [] => none

/-! ### Dates -/

def isLeap (year : Nat) : Bool := year % 4 == 0 && (year % 100 != 0 || year % 400 == 0)

def daysInMonth (year month : Nat) : Nat :=
  if month = 2 then (if isLeap year then 29 else 28)
  else if month = 4 ∨ month = 6 ∨ month = 9 ∨ month = 11 then 30 else 31

/-- The day number of the first of January. -/
def yearDay (year : Nat) : Int :=
  ((year - 1) * 365 + (year - 1) / 4 - (year - 1) / 100 + (year - 1) / 400 : Nat) - 719162

def calendarDay (year month day : Nat) : Option Int :=
  if 1 ≤ year ∧ 1 ≤ month ∧ month ≤ 12 ∧ 1 ≤ day ∧ day ≤ daysInMonth year month then
    some (yearDay year + ((List.range (month - 1)).map fun m => (daysInMonth year (m + 1) : Int)).sum
      + (day - 1 : Nat))
  else none

/-- The Monday of the week that holds the fourth of January. -/
def firstMonday (year : Nat) : Int :=
  let weekday := (yearDay year + 3) % 7
  if 3 < weekday then yearDay year - weekday + 7 else yearDay year - weekday

/-- The day number of a week date that exists and that `datetime` covers. -/
def weekDay (year week day : Nat) : Option Int :=
  let weeks := (firstMonday (year + 1) - firstMonday year) / 7
  if 1 ≤ year ∧ 1 ≤ week ∧ week ≤ weeks ∧ 1 ≤ day ∧ day ≤ 7 then
    let days := firstMonday year + (week - 1 : Nat) * 7 + (day - 1 : Nat)
    if days < yearDay 10000 then some days else none
  else none

/-- `_parse_isoformat_date`. -/
def parseDate (cs : List Char) : Option Int := do
  let (year, rest) ← parseDigits 4 0 cs
  let dash := rest.head? == some '-'
  match ← skipMark dash '-' rest with
  | 'W' :: rest => do
      let (week, rest) ← parseDigits 2 0 rest
      if rest = [] then weekDay year week 1
      else do
        let (day, rest) ← parseDigits 1 0 (← skipMark dash '-' rest)
        if rest = [] then weekDay year week day else none
  | rest => do
      let (month, rest) ← parseDigits 2 0 rest
      let (day, rest) ← parseDigits 2 0 (← skipMark dash '-' rest)
      if rest = [] then calendarDay year month day else none

/-- `_find_isoformat_datetime_separator`: where the date ends. -/
def separatorLocation (cs : List Char) : Nat :=
  if cs.length = 7 then 7
  else if cs[4]? = some '-' then
    if cs[5]? = some 'W' then
      if cs[8]? = some '-' then
        -- `YYYY-Www-##` is read as a week and a time
        if (cs[10]?.map Char.isDigit).getD false then 8 else 10
      else 8
    else 10
  else if cs[4]? = some 'W' then
    let index := 7 + ((cs.drop 7).takeWhile Char.isDigit).length
    if index < 9 then index else if index % 2 = 0 then 7 else 8
  else 8

/-! ### Times -/

/-- The digits after the seconds: the first six count, the others are passed over. -/
def parseFraction (cs : List Char) : Option (Nat × List Char) := do
  let count := min 6 cs.length
  let (n, rest) ← parseDigits count 0 cs
  some (n * 10 ^ (6 - count), rest.dropWhile Char.isDigit)

structure Clock where
  hour : Nat
  minute : Nat
  second : Nat
  microsecond : Nat

def Clock.ofComponents (components : List Nat) (microsecond : Nat) : Clock :=
  ⟨components.getD 0 0, components.getD 1 0, components.getD 2 0, microsecond⟩

def Clock.micros (c : Clock) : Nat :=
  (c.hour * 3600 + c.minute * 60 + c.second) * 1000000 + c.microsecond

/-- The loop of `parse_hh_mm_ss_ff`: `HH[:?MM[:?SS[{.,}f+]]]`, with what it left unread.
The character after the hours says whether colons are used. -/
def parseComponents : Nat → Bool → List Nat → List Char → Option (Clock × List Char)
  | 0, _, components, cs => do
      let (microsecond, rest) ← parseFraction cs
      some (.ofComponents components microsecond, rest)
  | count + 1, colon, components, cs => do
      let (n, rest) ← parseDigits 2 0 cs
      let colon := if components = [] then rest.head? == some ':' else colon
      let components := components ++ [n]
      match rest with
      | [] => some (.ofComponents components 0, [])
      | [c] => some (.ofComponents components 0, [c])
      | mark :: tail =>
          if colon && mark == ':' then parseComponents count colon components tail
          else if mark == '.' || mark == ',' then do
            let (microsecond, rest) ← parseFraction tail
            some (.ofComponents components microsecond, rest)
          else if !colon then parseComponents count colon components rest
          else none

def parseClock (cs : List Char) : Option (Clock × List Char) := parseComponents 3 true [] cs

/-- The offset from UTC in microseconds: `Z`, or a sign and a clock under 24 hours. -/
def parseOffset : List Char → Option Int
  | ['Z'] => some 0
  | sign :: cs =>
      if sign = '+' ∨ sign = '-' then do
        let (clock, rest) ← parseClock cs
        if rest = [] ∧ clock.micros < 86400000000 then
          some (if sign = '-' then -(clock.micros : Int) else clock.micros)
        else none
      else none
  | [] => none

def startsOffset (c : Char) : Bool := c == '+' || c == '-' || c == 'Z'

/-- `parse_isoformat_time`: microseconds of the day, and the offset when there is one. What
stands unread between the time of day and an offset is not looked at. -/
def parseTime (cs : List Char) : Option (Nat × Option Int) := do
  let (clock, rest) ← parseClock (cs.takeWhile fun c => !startsOffset c)
  if clock.hour < 24 ∧ clock.minute < 60 ∧ clock.second < 60 then
    match cs.dropWhile fun c => !startsOffset c with
    | [] => if rest = [] then some (clock.micros, none) else none
    | zone => (parseOffset zone).map fun offset => (clock.micros, some offset)
  else none

/-- A `datetime`: its own reading as an instant, and its offset, or no zone. -/
structure Parsed where
  reading : Instant
  offset : Option Int

/-- `datetime.fromisoformat`; `none` is its `ValueError`. -/
def fromisoformat (s : String) : Option Parsed := do
  let cs := s.toList
  let date := cs.take (separatorLocation cs)
  let days ← parseDate date
  match cs.drop (separatorLocation cs) with
  | [] => some ⟨days * 86400000000, none⟩
  | _ :: time => do
      let (micros, offset) ← parseTime time
      some ⟨days * 86400000000 + micros, offset⟩

/-- The instant meant, a reading without zone being taken as UTC. -/
def Parsed.utc (p : Parsed) : Instant := p.reading - p.offset.getD 0

example : (fromisoformat "2026-07-22T12:00:00.5+02:00").map Parsed.utc =
    some 1784714400500000 := by decide

/-! ### The last character of a text that is read -/

/-- The text does not end in a closing brace. -/
def Unbraced (cs : List Char) : Prop := cs.getLast? ≠ some '\x7d'

theorem Unbraced.of_digits {cs : List Char} (h : ∀ c ∈ cs, c.isDigit = true) : Unbraced cs := by
  intro hlast
  have hdigit := h _ (List.mem_of_getLast? hlast)
  exact absurd hdigit (by decide)

theorem Unbraced.append {tail : List Char} (h : Unbraced tail) (cs : List Char) (hne : tail ≠ []) :
    Unbraced (cs ++ tail) := by
  unfold Unbraced
  rw [List.getLast?_append_of_ne_nil cs hne]
  exact h

theorem parseDigits_spec {count acc n : Nat} {cs rest : List Char}
    (h : parseDigits count acc cs = some (n, rest)) :
    ∃ digits, cs = digits ++ rest ∧ ∀ c ∈ digits, c.isDigit = true := by
  induction count generalizing acc cs with
  | zero =>
      cases h
      exact ⟨[], rfl, by simp⟩
  | succ count ih =>
      obtain _ | ⟨c, cs⟩ := cs
      · cases h
      · rw [parseDigits] at h
        split at h
        · obtain ⟨digits, rfl, hdigits⟩ := ih h
          refine ⟨c :: digits, rfl, ?_⟩
          intro d hd
          rcases List.mem_cons.mp hd with rfl | hd
          · assumption
          · exact hdigits d hd
        · cases h

theorem unbraced_of_parseDigits {count acc n : Nat} {cs rest : List Char}
    (h : parseDigits count acc cs = some (n, rest)) (hrest : Unbraced rest) : Unbraced cs := by
  obtain ⟨digits, rfl, hdigits⟩ := parseDigits_spec h
  by_cases hnil : rest = []
  · subst hnil
    rw [List.append_nil]
    exact .of_digits hdigits
  · exact hrest.append digits hnil

theorem unbraced_nil : Unbraced [] := nofun

theorem unbraced_of_parseFraction {cs : List Char} {n : Nat} (h : parseFraction cs = some (n, [])) :
    Unbraced cs := by
  simp only [parseFraction, Option.bind_eq_bind, Option.bind_eq_some_iff, Option.some.injEq,
    Prod.mk.injEq, Prod.exists] at h
  obtain ⟨m, rest, hdigits, -, hrest⟩ := h
  apply unbraced_of_parseDigits hdigits
  rw [List.dropWhile_eq_nil_iff] at hrest
  exact .of_digits hrest

theorem unbraced_of_parseComponents {count : Nat} {colon : Bool} {components : List Nat}
    {cs : List Char} {clock : Clock}
    (h : parseComponents count colon components cs = some (clock, [])) : Unbraced cs := by
  induction count generalizing colon components cs with
  | zero =>
      simp only [parseComponents, Option.bind_eq_bind, Option.bind_eq_some_iff, Option.some.injEq,
        Prod.mk.injEq, Prod.exists] at h
      obtain ⟨n, rest, hfraction, -, rfl⟩ := h
      exact unbraced_of_parseFraction hfraction
  | succ count ih =>
      simp only [parseComponents, Option.bind_eq_bind, Option.bind_eq_some_iff, Prod.exists] at h
      obtain ⟨n, rest, hdigits, h⟩ := h
      apply unbraced_of_parseDigits hdigits
      generalize (if components = [] then rest.head? == some ':' else colon) = colons at h
      split at h
      · exact unbraced_nil
      · cases h
      · next mark tail hlong =>
          have htail : tail ≠ [] := fun hnil => hlong hnil
          -- the mark is a colon, a decimal mark or the next digit
          split at h
          · exact (ih h).append [mark] htail
          · split at h
            · simp only [Option.bind_eq_some_iff, Option.some.injEq, Prod.mk.injEq,
                Prod.exists] at h
              obtain ⟨m, left, hfraction, -, rfl⟩ := h
              exact (unbraced_of_parseFraction hfraction).append [mark] htail
            · split at h
              · exact ih h
              · cases h

theorem unbraced_of_parseOffset {cs : List Char} {offset : Int}
    (h : parseOffset cs = some offset) : Unbraced cs := by
  unfold parseOffset at h
  split at h
  · nofun
  · next sign cs _ =>
      split at h
      · next hsign =>
          simp only [Option.bind_eq_bind, Option.bind_eq_some_iff, Prod.exists] at h
          obtain ⟨clock, rest, hclock, h⟩ := h
          split at h
          · next hall =>
              rw [hall.1] at hclock
              by_cases hnil : cs = []
              · subst hnil
                rcases hsign with rfl | rfl <;> nofun
              · exact (unbraced_of_parseComponents hclock).append [sign] hnil
          · cases h
      · cases h
  · cases h

theorem unbraced_of_parseTime {cs : List Char} {result : Nat × Option Int}
    (h : parseTime cs = some result) : Unbraced cs := by
  simp only [parseTime, Option.bind_eq_bind, Option.bind_eq_some_iff, Prod.exists] at h
  obtain ⟨clock, rest, hclock, h⟩ := h
  rw [← List.takeWhile_append_dropWhile (p := fun c => !startsOffset c) (l := cs)]
  split at h
  · split at h
    · next hzone =>
        split at h
        · next hall =>
            rw [hall] at hclock
            rw [hzone, List.append_nil]
            exact unbraced_of_parseComponents hclock
        · cases h
    · next zone hzone =>
        rw [Option.map_eq_some_iff] at h
        obtain ⟨offset, hoffset, -⟩ := h
        exact (unbraced_of_parseOffset hoffset).append _ hzone
  · cases h

theorem unbraced_of_skipMark {present : Bool} {mark : Char} {cs rest : List Char}
    (h : skipMark present mark cs = some rest) (hrest : Unbraced rest) (hne : rest ≠ []) :
    Unbraced cs := by
  unfold skipMark at h
  split at h
  · cases h
    exact hrest
  · next c cs =>
      split at h
      · cases h
        exact hrest.append [c] hne
      · cases h
  · cases h

theorem ne_nil_of_parseDigits {count acc : Nat} {cs : List Char} {result : Nat × List Char}
    (h : parseDigits (count + 1) acc cs = some result) : cs ≠ [] := by
  rintro rfl
  cases h

/-- A last group of digits, after its mark. -/
theorem unbraced_of_lastDigits {present : Bool} {mark : Char} {cs rest : List Char}
    {count acc n : Nat} (hmark : skipMark present mark cs = some rest)
    (hdigits : parseDigits (count + 1) acc rest = some (n, [])) : Unbraced cs :=
  unbraced_of_skipMark hmark (unbraced_of_parseDigits hdigits unbraced_nil)
    (ne_nil_of_parseDigits hdigits)

theorem unbraced_of_parseDate {cs : List Char} {days : Int} (h : parseDate cs = some days) :
    Unbraced cs := by
  simp only [parseDate, Option.bind_eq_bind, Option.bind_eq_some_iff, Prod.exists] at h
  obtain ⟨year, rest, hyear, rest', hmark, h⟩ := h
  apply unbraced_of_parseDigits hyear
  split at h
  · -- a week date
    next rest' =>
      simp only [Option.bind_eq_some_iff, Prod.exists] at h
      obtain ⟨week, rest'', hweek, h⟩ := h
      have hne := ne_nil_of_parseDigits hweek
      have hclosed : Unbraced rest' := by
        apply unbraced_of_parseDigits hweek
        split at h
        · next hnil =>
            rw [hnil]
            exact unbraced_nil
        · simp only [Option.bind_eq_some_iff, Prod.exists] at h
          obtain ⟨digits, hdash, day, last, hday, h⟩ := h
          split at h
          · next hnil =>
              rw [hnil] at hday
              exact unbraced_of_lastDigits hdash hday
          · cases h
      exact unbraced_of_skipMark hmark (hclosed.append ['W'] hne) (by simp)
  · -- a calendar date
    simp only [Option.bind_eq_some_iff, Prod.exists] at h
    obtain ⟨month, rest'', hmonth, digits, hdash, day, last, hday, h⟩ := h
    split at h
    · next hnil =>
        rw [hnil] at hday
        have hclosed := unbraced_of_parseDigits hmonth (unbraced_of_lastDigits hdash hday)
        exact unbraced_of_skipMark hmark hclosed (ne_nil_of_parseDigits hmonth)
    · cases h

/-- A text that `fromisoformat` reads does not end in a closing brace. -/
theorem unbraced_of_fromisoformat {s : String} {p : Parsed} (h : fromisoformat s = some p) :
    Unbraced s.toList := by
  simp only [fromisoformat, Option.bind_eq_bind, Option.bind_eq_some_iff] at h
  obtain ⟨days, hdate, h⟩ := h
  rw [← List.take_append_drop (separatorLocation s.toList) s.toList]
  split at h
  · next hnone =>
      rw [hnone, List.append_nil]
      exact unbraced_of_parseDate hdate
  · next separator time htime =>
      simp only [Option.bind_eq_some_iff, Prod.exists] at h
      obtain ⟨micros, offset, hparse, -⟩ := h
      have hne : time ≠ [] := by
        rintro rfl
        have hnone : parseTime [] = none := rfl
        rw [hnone] at hparse
        cases hparse
      rw [htime]
      exact ((unbraced_of_parseTime hparse).append [separator] hne).append _ (by simp)

end Kin.Py
