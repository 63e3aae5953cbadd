import Kin.Lib.Binary64
import Kin.Py.IsoRead
import Mathlib.Data.List.DropRight

/-!
Signed request headers of `kin/identity/auth.py`. A timestamp is written without a
positive offset and read without any offset: what is compared with the clock is its own
reading, taken as UTC.
-/

namespace Kin.Identity

open Kin.Lib Kin.Py

/-- Signatures and base64url, as `cryptography` and `base64` answer. `none` and `false`
stand for an exception. -/
structure Scheme (Private Public : Type) where
  sign : Private → String → List UInt8
  publicKey : Private → Public
  verify : Public → List UInt8 → String → Bool
  base64urlEncode : List UInt8 → String
  base64urlDecode : String → Option (List UInt8)

/-- What is relied on of them: a signature verifies, and its text can be read back. -/
structure Scheme.Lawful {Private Public : Type} (scheme : Scheme Private Public) : Prop where
  verify_sign : ∀ key message,
    scheme.verify (scheme.publicKey key) (scheme.sign key message) message = true
  decode_encode : ∀ data, scheme.base64urlDecode (scheme.base64urlEncode data) = some data
  encode_sign : ∀ key message, scheme.base64urlEncode (scheme.sign key message) ≠ ""

abbrev Headers := List (String × String)

/-- `header_map.get(name)`: of the names that are the same in lower case the last counts.
No letter outside ASCII has one of the letters asked for as its lower case. -/
def Headers.get (headers : Headers) (name : String) : Option String :=
  ((headers.filter fun h => h.1.toLower = name).getLast?).map Prod.snd

/-- What is written behind `X-Timestamp`: `isoformat()` up to the first `+`, and a `Z`. -/
def timestampText (now : Aware) : String :=
  String.ofList (now.isoformat.toList.takeWhile fun c => c ≠ '+') ++ "Z"

/-- The text that is signed. -/
def canonicalText (username timestamp : String) : String := username ++ ":" ++ timestamp

variable {Private Public : Type}

def createSignedAuthHeaders (scheme : Scheme Private Public) (username : String)
    (privateKey : Private) (now : Aware) : Headers :=
  [("X-Username", username), ("X-Timestamp", timestampText now),
    ("X-Signature",
      scheme.base64urlEncode (scheme.sign privateKey (canonicalText username (timestampText now))))]

/-- `timestamp.rstrip("Z")`. -/
def rstripZ (timestamp : String) : String :=
  String.ofList (timestamp.toList.rdropWhile fun c => c = 'Z')

/-- `abs((a - b).total_seconds())`. -/
def diffSeconds (a b : Instant) : ℚ := toDouble ((a - b).natAbs / 1000000)

/-- `:.1f`. -/
def oneDecimal (x : ℚ) : String :=
  toString (roundEven (x * 10) / 10) ++ "." ++ toString (roundEven (x * 10) % 10)

/-- A text that is there and not empty. -/
def given (text : Option String) : Option String := text.filter fun s => s ≠ ""

def verifySignedAuthHeaders (scheme : Scheme Private Public)
    (getPublicKey : String → Option Public) (headers : Headers) (now : Aware)
    (maxAgeSeconds : Int) : Bool × Option String × Option String :=
  match given (headers.get "x-username"), given (headers.get "x-timestamp"),
      given (headers.get "x-signature") with
  | some username, some timestamp, some signature =>
      match fromisoformat (rstripZ timestamp) with
      | none => (false, none, some "Invalid ISO 8601 timestamp format in X-Timestamp header")
      | some parsed =>
          -- `.replace(tzinfo=utc)` keeps the reading and drops the offset that was read
          if maxAgeSeconds < diffSeconds now.instant parsed.reading then
            (false, none, some ("Authentication timestamp expired or out of window (diff: " ++
              oneDecimal (diffSeconds now.instant parsed.reading) ++ "s > " ++
              toString maxAgeSeconds ++ "s)"))
          else
            match getPublicKey username with
            | none =>
                (false, none, some ("Public key for user '" ++ username ++
                  "' not found or contact untrusted"))
            | some key =>
                if (scheme.base64urlDecode signature).any fun bytes =>
                    scheme.verify key bytes (canonicalText username timestamp) then
                  (true, some username, none)
                else
                  (false, none,
                    some ("Invalid signature verification for user '" ++ username ++ "'"))
  | _, _, _ =>
      (false, none,
        some "Missing required authentication headers (X-Username, X-Timestamp, X-Signature)")

/-! ### The window -/

/-- The test of the code: the measured difference is not more than the maximal age. -/
def WithinWindow (a b : Instant) (maxAgeSeconds : Int) : Prop :=
  ¬(maxAgeSeconds : ℚ) < diffSeconds a b

instance (a b : Instant) (maxAgeSeconds : Int) : Decidable (WithinWindow a b maxAgeSeconds) :=
  inferInstanceAs (Decidable (¬_))

/-- Two instants differ by at most so many seconds. -/
def Near (a b : Instant) (maxAgeSeconds : Int) : Prop :=
  ((a - b).natAbs : Int) ≤ maxAgeSeconds * 1000000

section

variable {a b : Instant} {maxAgeSeconds : Int}

theorem Near.withinWindow (h : Near a b maxAgeSeconds) : WithinWindow a b maxAgeSeconds := by
  unfold WithinWindow diffSeconds
  unfold Near at h
  generalize (a - b).natAbs = micros at h
  have hle : (micros / 1000000 : ℚ) ≤ maxAgeSeconds := by
    rw [div_le_iff₀ (by norm_num)]
    exact_mod_cast h
  exact not_lt.mpr (toDouble_le hle)

/-- For windows below `2 ^ 33` seconds the rounding makes no difference. -/
theorem WithinWindow.near (h : WithinWindow a b maxAgeSeconds) (hmax : maxAgeSeconds < 2 ^ 33) :
    Near a b maxAgeSeconds := by
  by_contra hnot
  apply h
  unfold diffSeconds
  unfold Near at hnot
  generalize (a - b).natAbs = micros at hnot
  have hstep : (maxAgeSeconds : ℚ) + 1 / 1000000 ≤ micros / 1000000 := by
    rw [le_div_iff₀ (by norm_num), add_mul]
    have hlt : maxAgeSeconds * 1000000 + 1 ≤ (micros : Int) := by omega
    have hcast : (maxAgeSeconds : ℚ) * 1000000 + 1 ≤ micros := by exact_mod_cast hlt
    linarith
  generalize (micros / 1000000 : ℚ) = x at hstep
  rcases lt_or_ge x (2 ^ 33) with hsmall | hlarge
  · have hround := sub_le_toDouble (e := 32) hsmall (by norm_num)
    have hplace : (1 : ℚ) / 2 ^ (53 - 32) < 1 / 1000000 := by norm_num
    linarith
  · have hbound : ((2 ^ 33 : ℤ) : ℚ) ≤ toDouble x := le_toDouble (by exact_mod_cast hlarge)
    have hcast : (maxAgeSeconds : ℚ) < ((2 ^ 33 : ℤ) : ℚ) := by exact_mod_cast hmax
    linarith

theorem withinWindow_iff_near (hmax : maxAgeSeconds < 2 ^ 33) :
    WithinWindow a b maxAgeSeconds ↔ Near a b maxAgeSeconds :=
  ⟨fun h => h.near hmax, Near.withinWindow⟩

end

/-! ### Verification -/

/-- The headers name a known key and carry its signature of the name and the timestamp. -/
def Authentic (scheme : Scheme Private Public) (getPublicKey : String → Option Public)
    (headers : Headers) (timestamp : String) : Prop :=
  ∃ username signature key bytes, given (headers.get "x-username") = some username ∧
    given (headers.get "x-signature") = some signature ∧ getPublicKey username = some key ∧
    scheme.base64urlDecode signature = some bytes ∧
    scheme.verify key bytes (canonicalText username timestamp) = true

def Accepts (scheme : Scheme Private Public) (getPublicKey : String → Option Public)
    (headers : Headers) (now : Aware) (maxAgeSeconds : Int) : Prop :=
  (verifySignedAuthHeaders scheme getPublicKey headers now maxAgeSeconds).1 = true

variable {scheme : Scheme Private Public} {getPublicKey : String → Option Public}
  {headers : Headers} {now : Aware} {maxAgeSeconds : Int}

theorem accepts_iff : Accepts scheme getPublicKey headers now maxAgeSeconds ↔
    ∃ timestamp parsed, given (headers.get "x-timestamp") = some timestamp ∧
      fromisoformat (rstripZ timestamp) = some parsed ∧
      WithinWindow now.instant parsed.reading maxAgeSeconds ∧
      Authentic scheme getPublicKey headers timestamp := by
  constructor
  · intro h
    unfold Accepts verifySignedAuthHeaders at h
    split at h
    · rename_i username timestamp signature husername htimestamp hsignature
      split at h
      · cases h
      · rename_i parsed hparsed
        split at h
        · cases h
        · rename_i hwindow
          split at h
          · cases h
          · rename_i key hkey
            split at h
            · rename_i hverify
              obtain ⟨bytes, hbytes, hverify⟩ := (Option.any_eq_true _ _).mp hverify
              exact ⟨timestamp, parsed, htimestamp, hparsed, hwindow, username, signature, key,
                bytes, husername, hsignature, hkey, hbytes, hverify⟩
            · cases h
    · cases h
  · rintro ⟨timestamp, parsed, htimestamp, hparsed, hwindow, username, signature, key, bytes,
      husername, hsignature, hkey, hbytes, hverify⟩
    unfold Accepts verifySignedAuthHeaders
    simp only [husername, htimestamp, hsignature, hparsed, hkey, hbytes, Option.any_some, hverify,
      if_neg hwindow, if_true]

/-! ### Timestamps as they are written -/

theorem rstripZ_append {text : String} (h : 'Z' ∉ text.toList) : rstripZ (text ++ "Z") = text := by
  have hlast : (text.toList ++ ['Z']).rdropWhile (fun c => c = 'Z') = text.toList := by
    rw [List.rdropWhile_concat_pos _ _ _ (by simp), List.rdropWhile_eq_self_iff]
    intro hne
    simp only [decide_eq_true_eq]
    intro heq
    exact h (heq ▸ List.getLast_mem hne)
  rw [rstripZ, String.toList_append, show "Z".toList = ['Z'] from rfl, hlast, String.ofList_toList]

theorem ne_of_isClockChar {c : Char} (h : isClockChar c = true) : c ≠ '+' ∧ c ≠ 'Z' := by
  constructor <;> (rintro rfl; exact absurd h (by decide))

/-- Neither mark is in the date and the time of day. -/
theorem ne_of_mem_isoBody {t : Datetime} {c : Char} (h : c ∈ (isoBody t.instant).toList) :
    c ≠ '+' ∧ c ≠ 'Z' := by
  rcases mem_isoBody h with hclock | rfl | rfl
  · exact ne_of_isClockChar hclock
  · decide
  · decide

/-- A timestamp as it is written: a positive offset is gone, a negative one is not. -/
theorem timestampText_eq (t : Aware) : timestampText t =
    (if t.offset < 0 then t.isoformat else isoBody t.reading.instant) ++ "Z" := by
  have hbody : ∀ c ∈ (isoBody t.reading.instant).toList, (fun c => decide (c ≠ '+')) c = true := by
    intro c hc
    simpa using (ne_of_mem_isoBody hc).1
  rw [timestampText, Aware.isoformat, String.toList_append, String.toList_ofList,
    List.takeWhile_append_of_pos hbody]
  refine congrArg (· ++ "Z") ?_
  by_cases hneg : t.offset < 0
  · rw [if_pos hneg]
    have hoffset : ∀ c ∈ offsetText t.offset, (fun c => decide (c ≠ '+')) c = true := by
      intro c hc
      have hcons : offsetText t.offset = '-' :: (offsetText t.offset).tail := by
        rw [offsetText, if_pos hneg, List.tail_cons]
      rw [hcons, List.mem_cons] at hc
      rcases hc with rfl | hc
      · rfl
      · simpa using (ne_of_isClockChar (isClockChar_of_mem_offsetText hc)).1
    rw [List.takeWhile_eq_self_iff.mpr hoffset, String.ofList_append, String.ofList_toList]
  · rw [if_neg hneg, offsetText, if_neg hneg, List.takeWhile_cons_of_neg (by simp),
      List.append_nil, String.ofList_toList]

theorem not_mem_isoformat (t : Aware) : 'Z' ∉ t.isoformat.toList := by
  intro h
  rw [Aware.isoformat, String.toList_append, String.toList_ofList, List.mem_append] at h
  rcases h with h | h
  · exact (ne_of_mem_isoBody h).2 rfl
  · have hcons : offsetText t.offset =
        (if t.offset < 0 then '-' else '+') :: (offsetText t.offset).tail := by
      rw [offsetText, List.tail_cons]
    rw [hcons, List.mem_cons] at h
    rcases h with h | h
    · split at h <;> exact absurd h (by decide)
    · exact (ne_of_isClockChar (isClockChar_of_mem_offsetText h)).2 rfl

theorem fromisoformat_timestampText (t : Aware) : ∃ parsed,
    fromisoformat (rstripZ (timestampText t)) = some parsed ∧
      parsed.reading = t.reading.instant := by
  rw [timestampText_eq]
  split
  · rw [rstripZ_append (not_mem_isoformat t)]
    exact ⟨_, fromisoformat_isoformat t, rfl⟩
  · rw [rstripZ_append fun h => (ne_of_mem_isoBody h).2 rfl]
    exact ⟨_, fromisoformat_isoBody_naive t.reading, rfl⟩

/-! ### Freshness -/

/-- Headers made at `t` verify exactly when `t` and `now` are near. -/
def CreatedFresh (scheme : Scheme Private Public) (getPublicKey : String → Option Public)
    (username : String) (privateKey : Private) (t now : Aware) (maxAgeSeconds : Int) : Prop :=
  Accepts scheme getPublicKey (createSignedAuthHeaders scheme username privateKey t) now
      maxAgeSeconds ↔ Near now.instant t.instant maxAgeSeconds

/-- The instant that an accepted timestamp denotes, by its offset if it has one, is near. -/
def AcceptedFresh (scheme : Scheme Private Public) (getPublicKey : String → Option Public)
    (headers : Headers) (now : Aware) (maxAgeSeconds : Int) : Prop :=
  Accepts scheme getPublicKey headers now maxAgeSeconds →
    ∀ timestamp parsed, given (headers.get "x-timestamp") = some timestamp →
      fromisoformat (rstripZ timestamp) = some parsed → Near now.instant parsed.utc maxAgeSeconds

/-- Whether the window holds the reading, taken as UTC, and whether it holds the instant
come to the same. -/
def ReadingAgrees (now reading instant : Instant) (maxAgeSeconds : Int) : Prop :=
  WithinWindow now reading maxAgeSeconds ↔ Near now instant maxAgeSeconds

theorem given_eq_some {text : String} (h : text ≠ "") : given (some text) = some text := by
  simp [given, h]

theorem timestampText_ne_empty (t : Aware) : timestampText t ≠ "" := by
  simp [timestampText]

/-- The names of the created headers, in lower case. -/
theorem get_createSignedAuthHeaders (scheme : Scheme Private Public) (username : String)
    (privateKey : Private) (t : Aware) :
    (createSignedAuthHeaders scheme username privateKey t).get "x-username" = some username ∧
      (createSignedAuthHeaders scheme username privateKey t).get "x-timestamp" =
        some (timestampText t) ∧
      (createSignedAuthHeaders scheme username privateKey t).get "x-signature" =
        some (scheme.base64urlEncode
          (scheme.sign privateKey (canonicalText username (timestampText t)))) := by
  have hnames : "X-Username".toLower = "x-username" ∧ "X-Timestamp".toLower = "x-timestamp" ∧
      "X-Signature".toLower = "x-signature" := by decide +kernel
  have hne : "x-username" ≠ "x-timestamp" ∧ "x-username" ≠ "x-signature" ∧
      "x-timestamp" ≠ "x-signature" := by decide
  simp [createSignedAuthHeaders, Headers.get, hnames, hne.1, hne.2.1, hne.2.2, hne.1.symm,
    hne.2.1.symm, hne.2.2.symm]

section

variable {username : String} {privateKey : Private} (hscheme : scheme.Lawful)
  (husername : username ≠ "") (hkey : getPublicKey username = some (scheme.publicKey privateKey))

include hscheme husername hkey

/-- Headers that were made verify when the window holds the reading of their timestamp. -/
theorem accepts_created_iff (t : Aware) :
    Accepts scheme getPublicKey (createSignedAuthHeaders scheme username privateKey t) now
      maxAgeSeconds ↔ WithinWindow now.instant t.reading.instant maxAgeSeconds := by
  obtain ⟨hname, htimestamp, hsignature⟩ :=
    get_createSignedAuthHeaders scheme username privateKey t
  obtain ⟨parsed, hparsed, hreading⟩ := fromisoformat_timestampText t
  rw [accepts_iff, htimestamp, given_eq_some (timestampText_ne_empty t)]
  constructor
  · rintro ⟨timestamp, parsed', htext, hparsed', hwindow, -⟩
    rw [← Option.some.inj htext, hparsed] at hparsed'
    rwa [← Option.some.inj hparsed', hreading] at hwindow
  · intro hwindow
    rw [← hreading] at hwindow
    have hauthentic : Authentic scheme getPublicKey
        (createSignedAuthHeaders scheme username privateKey t) (timestampText t) :=
      ⟨username, _, _, _, by rw [hname, given_eq_some husername],
        by rw [hsignature, given_eq_some (hscheme.encode_sign _ _)], hkey,
        hscheme.decode_encode _, hscheme.verify_sign privateKey _⟩
    exact ⟨timestampText t, parsed, rfl, hparsed, hwindow, hauthentic⟩

end

theorem readingAgrees_of_offset_eq_zero {t : Aware} (h : t.offset = 0)
    (hmax : maxAgeSeconds < 2 ^ 33) :
    ReadingAgrees now.instant t.reading.instant t.instant maxAgeSeconds := by
  have hinstant : t.instant = t.reading.instant := by
    rw [Aware.instant, h, Int.sub_zero]
  rw [ReadingAgrees, hinstant]
  exact withinWindow_iff_near hmax

/-- Below `2 ^ 33` seconds, reading and instant come to the same for every clock and window
only where the offset is zero. -/
theorem forall_readingAgrees_iff (t : Aware) :
    (∀ (now : Aware) (maxAgeSeconds : Int), maxAgeSeconds < 2 ^ 33 →
        ReadingAgrees now.instant t.reading.instant t.instant maxAgeSeconds) ↔ t.offset = 0 := by
  constructor
  · intro h
    -- at `t` itself, with no tolerance, the offset is the whole difference
    have hsame := (h t 0 (by norm_num)).mpr (by simp [Near])
    have hnear := hsame.near (by norm_num)
    unfold Near Aware.instant at hnear
    omega
  · intro h now maxAgeSeconds hmax
    exact readingAgrees_of_offset_eq_zero h hmax

/-- What is accepted is near when its reading being in the window means that its instant is. -/
theorem acceptedFresh_iff : AcceptedFresh scheme getPublicKey headers now maxAgeSeconds ↔
    ∀ timestamp parsed, given (headers.get "x-timestamp") = some timestamp →
      fromisoformat (rstripZ timestamp) = some parsed →
      Authentic scheme getPublicKey headers timestamp →
      WithinWindow now.instant parsed.reading maxAgeSeconds →
      Near now.instant parsed.utc maxAgeSeconds := by
  constructor
  · intro h timestamp parsed htimestamp hparsed hauthentic hwindow
    exact h (accepts_iff.mpr ⟨timestamp, parsed, htimestamp, hparsed, hwindow, hauthentic⟩)
      timestamp parsed htimestamp hparsed
  · intro h haccepts timestamp parsed htimestamp hparsed
    obtain ⟨timestamp', parsed', htimestamp', hparsed', hwindow, hauthentic⟩ :=
      accepts_iff.mp haccepts
    rw [htimestamp] at htimestamp'
    cases htimestamp'
    rw [hparsed] at hparsed'
    cases hparsed'
    exact h timestamp parsed htimestamp hparsed hauthentic hwindow

/-- Freshness is about real time exactly where the reading of a timestamp stands for its
instant. For windows below `2 ^ 33` seconds and every clock, that is a zero offset. -/
theorem fresh_iff_reading_agrees (hscheme : scheme.Lawful) {username : String}
    (husername : username ≠ "") {privateKey : Private}
    (hkey : getPublicKey username = some (scheme.publicKey privateKey)) (t : Aware) :
    (∀ (now : Aware) (maxAgeSeconds : Int),
      CreatedFresh scheme getPublicKey username privateKey t now maxAgeSeconds ↔
        ReadingAgrees now.instant t.reading.instant t.instant maxAgeSeconds) ∧
    ((∀ (now : Aware) (maxAgeSeconds : Int), maxAgeSeconds < 2 ^ 33 →
      CreatedFresh scheme getPublicKey username privateKey t now maxAgeSeconds) ↔
        t.offset = 0) ∧
    ∀ (headers : Headers) (now : Aware) (maxAgeSeconds : Int),
      AcceptedFresh scheme getPublicKey headers now maxAgeSeconds ↔
        ∀ timestamp parsed, given (headers.get "x-timestamp") = some timestamp →
          fromisoformat (rstripZ timestamp) = some parsed →
          Authentic scheme getPublicKey headers timestamp →
          WithinWindow now.instant parsed.reading maxAgeSeconds →
          Near now.instant parsed.utc maxAgeSeconds := by
  have hcreated : ∀ (now : Aware) (maxAgeSeconds : Int),
      CreatedFresh scheme getPublicKey username privateKey t now maxAgeSeconds ↔
        ReadingAgrees now.instant t.reading.instant t.instant maxAgeSeconds := by
    intro now maxAgeSeconds
    rw [CreatedFresh, accepts_created_iff hscheme husername hkey, ReadingAgrees]
  refine ⟨hcreated, ?_, fun headers now maxAgeSeconds => acceptedFresh_iff⟩
  simp only [hcreated]
  exact forall_readingAgrees_iff t

def byteScheme : Scheme UInt8 UInt8 where
  sign key _ := [key]
  publicKey key := key
  verify key bytes _ := bytes == [key]
  base64urlEncode bytes := String.ofList (bytes.map fun b => Char.ofNat b.toNat)
  base64urlDecode text := some (text.toList.map fun c => UInt8.ofNat c.toNat)

theorem byteScheme_lawful : byteScheme.Lawful where
  verify_sign := by simp [byteScheme]
  decode_encode := by
    intro bytes
    have hchar : ∀ n < 256, (Char.ofNat n).toNat = n := by decide +kernel
    have hbyte : ∀ b : UInt8, UInt8.ofNat (Char.ofNat b.toNat).toNat = b := by
      intro b
      rw [hchar _ b.toNat_lt, UInt8.ofNat_toNat]
    simp [byteScheme, Function.comp_def, hbyte]
  encode_sign := by simp [byteScheme]

def aliceKey (username : String) : Option UInt8 := if username = "alice" then some 7 else none

/-- Noon of a day, by a clock that is ahead of UTC by an offset. -/
def noonAhead (offset : Int) (h : offset.natAbs < 86400000000) : Aware where
  reading := ⟨1785412800000000, by decide, by decide⟩
  offset := offset
  offset_lt := h

/-- Headers made at noon UTC are fresh in real time: they verify at noon, and not by a clock
that is an hour ahead and shows noon. -/
theorem fresh_at_utc :
    Accepts byteScheme aliceKey
        (createSignedAuthHeaders byteScheme "alice" 7 (noonAhead 0 (by decide)))
        (noonAhead 0 (by decide)) 300 ∧
      ¬Accepts byteScheme aliceKey
        (createSignedAuthHeaders byteScheme "alice" 7 (noonAhead 0 (by decide)))
        (noonAhead 3600000000 (by decide)) 300 := by
  have hkey : aliceKey "alice" = some (byteScheme.publicKey 7) := rfl
  have hfresh := (fresh_iff_reading_agrees byteScheme_lawful (by decide) hkey
    (noonAhead 0 (by decide))).2.1.mpr rfl
  constructor
  · refine (hfresh (noonAhead 0 (by decide)) 300 (by norm_num)).mpr ?_
    unfold Near
    decide
  · intro haccepts
    have hnear := (hfresh (noonAhead 3600000000 (by decide)) 300 (by norm_num)).mp haccepts
    revert hnear
    unfold Near
    decide

/-- Made at noon in India they do not verify at that same instant. -/
theorem not_fresh_in_india : ¬CreatedFresh byteScheme aliceKey "alice" 7
    (noonAhead 19800000000 (by decide)) (noonAhead 19800000000 (by decide)) 300 := by
  intro h
  rw [CreatedFresh, accepts_created_iff byteScheme_lawful (by decide) rfl,
    withinWindow_iff_near (by norm_num)] at h
  revert h
  unfold Near
  decide

end Kin.Identity
