import Mathlib.Data.String.Basic

/-!
UTC timestamps and their ISO 8601 text. An instant is a number of microseconds
since the epoch; `isoformat` is `datetime.isoformat()` of that instant in UTC,
and `isoNow` is the node's `_iso_now`, which writes the offset as `Z`. The text
matters because SQLite compares some of these columns as strings.
-/

namespace Kin.Py

/-- Microseconds since 1970-01-01T00:00:00Z. -/
abbrev Instant := Int

def Instant.addSeconds (t : Instant) (seconds : Int) : Instant := t + seconds * 1000000

/-- The civil date of a day number (days since the epoch), in the proleptic
Gregorian calendar: year, month, day. -/
def civilOfDays (days : Int) : Int × Nat × Nat :=
  let z := days + 719468
  let era := z / 146097
  let doe := (z - era * 146097).toNat
  let yoe := (doe - doe / 1460 + doe / 36524 - doe / 146096) / 365
  let doy := doe - (365 * yoe + yoe / 4 - yoe / 100)
  let mp := (5 * doy + 2) / 153
  let d := doy - (153 * mp + 2) / 5 + 1
  let m := if mp < 10 then mp + 3 else mp - 9
  let y := (yoe : Int) + era * 400
  (if m ≤ 2 then y + 1 else y, m, d)

/-- Decimal digits of `n`, padded with zeros to `width`. -/
def zeroPad (width n : Nat) : String :=
  let digits := toString n
  String.ofList (List.replicate (width - digits.length) '0') ++ digits

/-- `datetime.isoformat()` of a UTC instant, offset left out. The fraction is
printed only when it is not zero. -/
def isoBody (t : Instant) : String :=
  let seconds := t / 1000000
  let micros := (t - seconds * 1000000).toNat
  let days := seconds / 86400
  let rest := (seconds - days * 86400).toNat
  let (y, m, d) := civilOfDays days
  zeroPad 4 y.toNat ++ "-" ++ zeroPad 2 m ++ "-" ++ zeroPad 2 d ++ "T" ++
    zeroPad 2 (rest / 3600) ++ ":" ++ zeroPad 2 (rest / 60 % 60) ++ ":" ++ zeroPad 2 (rest % 60) ++
    (if micros = 0 then "" else "." ++ zeroPad 6 micros)

def isoNow (t : Instant) : String := isoBody t ++ "Z"

example : isoNow 1784721600000000 = "2026-07-22T12:00:00Z" := by decide

/-! ### The timestamp and content-hash patterns -/

/-- Code points of the digit zero in every Unicode decimal-digit block; `\d`
matches each of these and the nine code points after it. -/
def decimalZeros : List Nat :=
  [0x30, 0x660, 0x6f0, 0x7c0, 0x966, 0x9e6, 0xa66, 0xae6, 0xb66, 0xbe6, 0xc66, 0xce6, 0xd66,
   0xde6, 0xe50, 0xed0, 0xf20, 0x1040, 0x1090, 0x17e0, 0x1810, 0x1946, 0x19d0, 0x1a80, 0x1a90,
   0x1b50, 0x1bb0, 0x1c40, 0x1c50, 0xa620, 0xa8d0, 0xa900, 0xa9d0, 0xa9f0, 0xaa50, 0xabf0,
   0xff10, 0x104a0, 0x10d30, 0x11066, 0x110f0, 0x11136, 0x111d0, 0x112f0, 0x11450, 0x114d0,
   0x11650, 0x116c0, 0x11730, 0x118e0, 0x11950, 0x11c50, 0x11d50, 0x11da0, 0x16a60, 0x16ac0,
   0x16b50, 0x1d7ce, 0x1d7d8, 0x1d7e2, 0x1d7ec, 0x1d7f6, 0x1e140, 0x1e2f0, 0x1e950, 0x1fbf0]

def isDecimal (c : Char) : Bool :=
  decimalZeros.any fun z => z ≤ c.toNat && c.toNat < z + 10

def digitValue (c : Char) : Nat :=
  ((decimalZeros.find? fun z => z ≤ c.toNat && c.toNat < z + 10).map fun z => c.toNat - z).getD 0

/-- `$` also matches before one final newline. -/
def atEnd (cs : List Char) : Bool := cs == [] || cs == ['\n']

/-- Matches `shape` at the front of `cs`, where `'d'` stands for `\d` and any
other character for itself; what is left over is returned. -/
def matchShape : List Char → List Char → Option (List Char)
  | [], cs => some cs
  | _ :: _, [] => none
  | p :: ps, c :: cs =>
      if (if p = 'd' then isDecimal c else c == p) then matchShape ps cs else none

/-- The part of `TIMESTAMP_REGEX` after the seconds: `(\.\d+)?Z$`. -/
def matchFraction : List Char → Bool
  | 'Z' :: rest => atEnd rest
  | '.' :: rest =>
      let tail := rest.dropWhile isDecimal
      decide (tail.length < rest.length) &&
        match tail with
        | 'Z' :: rest => atEnd rest
        | _ => false
  | _ => false

/-- `TIMESTAMP_REGEX.match`. -/
def timestampRegex (s : String) : Bool :=
  match matchShape "dddd-dd-ddTdd:dd:dd".toList s.toList with
  | some rest => matchFraction rest
  | none => false

/-- `CONTENT_HASH_REGEX.match`: 43 characters of URL-safe base64. -/
def contentHashRegex (s : String) : Bool :=
  let cs := s.toList
  (cs.take 43).all (fun c => c.isAlphanum || c == '_' || c == '-') &&
    decide (43 ≤ cs.length) && atEnd (cs.drop 43)

example : timestampRegex "2026-07-22T12:00:00.25Z" = true := by decide

end Kin.Py
