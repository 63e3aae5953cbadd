import Mathlib.Data.List.Basic

/-!
`urllib.parse.unquote` on an ASCII text: the percent escapes become bytes, and the
bytes are read as UTF-8, with `U+FFFD` for every maximal part that is not UTF-8. The
decoder reads byte by byte; a byte that does not continue what was begun is read
again as a first byte.
-/

namespace Kin.Py

/-! ### Bytes -/

def hexValue (c : Char) : Option Nat :=
  if '0' ≤ c ∧ c ≤ '9' then some (c.toNat - 48)
  else if 'A' ≤ c ∧ c ≤ 'F' then some (c.toNat - 55)
  else if 'a' ≤ c ∧ c ≤ 'f' then some (c.toNat - 87)
  else none

/-- The byte of an escape, from the text behind its percent sign. -/
def escapedByte : List Char → Option UInt8
  | a :: b :: _ =>
      match hexValue a, hexValue b with
      | some high, some low => some (UInt8.ofNat (16 * high + low))
      | _, _ => none
  | _ => none

/-- The bytes of a text, of which the first `skip` characters were read before. A percent
sign that starts no escape stands for itself. -/
def unquoteBytes : Nat → List Char → List UInt8
  | _, [] => []
  | skip + 1, _ :: text => unquoteBytes skip text
  | 0, c :: text =>
      if c = '%' then
        match escapedByte text with
        | some byte => byte :: unquoteBytes 2 text
        | none => 37 :: unquoteBytes 0 text
      else UInt8.ofNat c.toNat :: unquoteBytes 0 text

def isAsciiSpace (c : Char) : Bool :=
  c == ' ' || c == '\t' || c == '\n' || c == '\r' || c == '\x0b' || c == '\x0c'

/-- `bytes.fromhex`: pairs of digits with white space between them; `none` is its
`ValueError`. -/
def fromHexChars : List Char → Option (List UInt8)
  | [] => some []
  | [c] => if isAsciiSpace c then some [] else none
  | c :: d :: cs =>
      if isAsciiSpace c then fromHexChars (d :: cs)
      else do
        let byte ← escapedByte [c, d]
        let bytes ← fromHexChars cs
        some (byte :: bytes)

def fromHex (s : String) : Option (List UInt8) := fromHexChars s.toList

example : fromHex "0a FF" = some [10, 255] := by decide

/-! ### UTF-8 -/

/-- What the decoder waits for: the number of bytes to come, the bits read, and the
range of the next byte. -/
inductive Utf8State
  | start
  | more (needed bits lower upper : Nat)
  deriving DecidableEq

def replacementChar : Char := Char.ofNat 0xFFFD

def utf8First (byte : UInt8) : List Char × Utf8State :=
  let b := byte.toNat
  if b < 0x80 then ([Char.ofNat b], .start)
  else if 0xC2 ≤ b ∧ b ≤ 0xDF then ([], .more 1 (b - 0xC0) 0x80 0xBF)
  else if b = 0xE0 then ([], .more 2 0 0xA0 0xBF)
  else if b = 0xED then ([], .more 2 (b - 0xE0) 0x80 0x9F)
  else if 0xE1 ≤ b ∧ b ≤ 0xEF then ([], .more 2 (b - 0xE0) 0x80 0xBF)
  else if b = 0xF0 then ([], .more 3 0 0x90 0xBF)
  else if b = 0xF4 then ([], .more 3 (b - 0xF0) 0x80 0x8F)
  else if 0xF1 ≤ b ∧ b ≤ 0xF3 then ([], .more 3 (b - 0xF0) 0x80 0xBF)
  else ([replacementChar], .start)

def utf8Step : Utf8State → UInt8 → List Char × Utf8State
  | .start, byte => utf8First byte
  | .more needed bits lower upper, byte =>
      if 0x80 ≤ byte.toNat ∧ lower ≤ byte.toNat ∧ byte.toNat ≤ upper then
        let bits := 64 * bits + (byte.toNat - 0x80)
        if needed = 1 then ([Char.ofNat bits], .start)
        else ([], .more (needed - 1) bits 0x80 0xBF)
      else (replacementChar :: (utf8First byte).1, (utf8First byte).2)

/-- What a decoder that has to stop puts in place of an unfinished character. -/
def Utf8State.flush : Utf8State → List Char
  | .start => []
  | .more _ _ _ _ => [replacementChar]

def decodeUtf8 : Utf8State → List UInt8 → List Char
  | state, [] => state.flush
  | state, byte :: bytes => (utf8Step state byte).1 ++ decodeUtf8 (utf8Step state byte).2 bytes

def unquote (text : List Char) : List Char := decodeUtf8 .start (unquoteBytes 0 text)

example : unquote "/a2a/rest/tasks/%2e%C3%A9%FF%4".toList = "/a2a/rest/tasks/.é\uFFFD%4".toList := by
  decide

/-! ### Plain characters -/

/-- A character that stands for itself and is part of no escape. -/
structure Plain (c : Char) : Prop where
  ascii : c.toNat < 128
  digit : hexValue c = none
  percent : c ≠ '%'

theorem escapedByte_append {c : Char} (hc : Plain c) (text text' : List Char) :
    escapedByte (text ++ c :: text') = escapedByte text := by
  match text with
  | [] =>
      cases text' with
      | nil => rfl
      | cons b text' => simp [escapedByte, hc.digit]
  | [a] =>
      cases ha : hexValue a with
      | none => simp [escapedByte, ha]
      | some high => simp [escapedByte, ha, hc.digit]
  | a :: b :: text => rfl

theorem two_le_length_of_escapedByte {text : List Char} {byte : UInt8}
    (h : escapedByte text = some byte) : 2 ≤ text.length := by
  match text with
  | [] => cases h
  | [a] => cases h
  | a :: b :: text => simp

theorem unquoteBytes_zero_cons (c : Char) (text : List Char) :
    unquoteBytes 0 (c :: text) =
      if c = '%' then
        match escapedByte text with
        | some byte => byte :: unquoteBytes 2 text
        | none => 37 :: unquoteBytes 0 text
      else UInt8.ofNat c.toNat :: unquoteBytes 0 text := rfl

theorem unquoteBytes_append {c : Char} (hc : Plain c) (text' : List Char) {skip : Nat}
    {text : List Char} (h : skip ≤ text.length) :
    unquoteBytes skip (text ++ c :: text') =
      unquoteBytes skip text ++ UInt8.ofNat c.toNat :: unquoteBytes 0 text' := by
  induction text generalizing skip with
  | nil =>
      obtain rfl : skip = 0 := Nat.le_zero.mp h
      simp [unquoteBytes, hc.percent]
  | cons a text ih =>
      cases skip with
      | succ skip =>
          exact ih (Nat.le_of_succ_le_succ h)
      | zero =>
          rw [List.cons_append, unquoteBytes_zero_cons, unquoteBytes_zero_cons a text]
          by_cases ha : a = '%'
          · rw [if_pos ha, if_pos ha, escapedByte_append hc]
            cases hbyte : escapedByte text with
            | some byte =>
                dsimp only
                rw [ih (two_le_length_of_escapedByte hbyte), List.cons_append]
            | none =>
                dsimp only
                rw [ih (Nat.zero_le _), List.cons_append]
          · rw [if_neg ha, if_neg ha, ih (Nat.zero_le _), List.cons_append]

theorem toNat_byte_plain {c : Char} (hc : Plain c) : (UInt8.ofNat c.toNat).toNat = c.toNat := by
  have hascii := hc.ascii
  rw [UInt8.toNat_ofNat', Nat.mod_eq_of_lt (by omega)]

theorem utf8First_plain {c : Char} (hc : Plain c) :
    utf8First (UInt8.ofNat c.toNat) = ([c], .start) := by
  simp only [utf8First]
  rw [toNat_byte_plain hc, if_pos hc.ascii, Char.ofNat_toNat]

/-- An ASCII byte ends whatever was begun. -/
theorem utf8Step_plain {c : Char} (hc : Plain c) (state : Utf8State) :
    utf8Step state (UInt8.ofNat c.toNat) = (state.flush ++ [c], .start) := by
  cases state with
  | start => exact utf8First_plain hc
  | more needed bits lower upper =>
      have hnot : ¬(0x80 ≤ (UInt8.ofNat c.toNat).toNat ∧ lower ≤ (UInt8.ofNat c.toNat).toNat ∧
          (UInt8.ofNat c.toNat).toNat ≤ upper) := by
        have hascii := hc.ascii
        rw [toNat_byte_plain hc]
        omega
      unfold utf8Step
      dsimp only
      rw [if_neg hnot, utf8First_plain hc]
      rfl

theorem decodeUtf8_append {c : Char} (hc : Plain c) (state : Utf8State) (bytes bytes' : List UInt8) :
    decodeUtf8 state (bytes ++ UInt8.ofNat c.toNat :: bytes') =
      decodeUtf8 state bytes ++ c :: decodeUtf8 .start bytes' := by
  induction bytes generalizing state with
  | nil =>
      change (utf8Step state _).1 ++ decodeUtf8 (utf8Step state _).2 bytes' = _
      rw [utf8Step_plain hc, List.append_assoc]
      rfl
  | cons byte bytes ih =>
      change (utf8Step state byte).1 ++ decodeUtf8 (utf8Step state byte).2 (bytes ++ _ :: bytes') =
        (utf8Step state byte).1 ++ decodeUtf8 (utf8Step state byte).2 bytes ++ _
      rw [ih, List.append_assoc]

/-- A plain character splits a text, escapes or not. -/
theorem unquote_append {c : Char} (hc : Plain c) (text text' : List Char) :
    unquote (text ++ c :: text') = unquote text ++ c :: unquote text' := by
  unfold unquote
  rw [unquoteBytes_append hc text' (Nat.zero_le _), decodeUtf8_append hc]

end Kin.Py
