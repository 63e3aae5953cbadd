import Kin.Gateway.Sessions
import Kin.Lib.PrefixCode
import Mathlib.Data.List.Nodup
import Mathlib.Tactic.IntervalCases

/-!
The canonical text under a request hash can be read back, from its bytes to its code points and
from these to its members, so that the hash tells the hashed inputs apart.
-/

namespace Kin.Gateway

open Kin.Py Kin.Lib

/-! ### Reading the bytes back -/

def readUtf8 : Bytes → Option (Nat × Bytes)
  | [] => none
  | a :: rest =>
      if a.toNat < 0x80 then some (a.toNat, rest)
      else if a.toNat < 0xE0 then
        match rest with
        | b :: rest => some ((a.toNat - 0xC0) * 64 + (b.toNat - 0x80), rest)
        | _ => none
      else if a.toNat < 0xF0 then
        match rest with
        | b :: c :: rest =>
            some ((a.toNat - 0xE0) * 4096 + (b.toNat - 0x80) * 64 + (c.toNat - 0x80), rest)
        | _ => none
      else
        match rest with
        | b :: c :: d :: rest =>
            some ((a.toNat - 0xF0) * 262144 + (b.toNat - 0x80) * 4096 + (c.toNat - 0x80) * 64 +
              (d.toNat - 0x80), rest)
        | _ => none

abbrev isCodePoint (c : Nat) : Prop := c < 0x110000

theorem toNat_ofNat_of_lt {n : Nat} (h : n < 256) : (UInt8.ofNat n).toNat = n := by
  rw [UInt8.toNat_ofNat']
  omega

theorem readUtf8_append (c : Nat) (rest : Bytes) (hc : isCodePoint c) :
    readUtf8 (utf8Bytes c ++ rest) = some (c, rest) := by
  unfold isCodePoint at hc
  unfold utf8Bytes
  split
  · simp only [List.cons_append, List.nil_append, readUtf8]
    rw [toNat_ofNat_of_lt (by omega), if_pos (by omega)]
  split
  · simp only [List.cons_append, List.nil_append, readUtf8]
    rw [toNat_ofNat_of_lt (by omega), toNat_ofNat_of_lt (by omega), if_neg (by omega),
      if_pos (by omega)]
    exact congrArg some (Prod.ext (by simp only; omega) rfl)
  split
  · simp only [List.cons_append, List.nil_append, readUtf8]
    rw [toNat_ofNat_of_lt (by omega), toNat_ofNat_of_lt (by omega), toNat_ofNat_of_lt (by omega),
      if_neg (by omega), if_neg (by omega), if_pos (by omega)]
    exact congrArg some (Prod.ext (by simp only; omega) rfl)
  · simp only [List.cons_append, List.nil_append, readUtf8]
    rw [toNat_ofNat_of_lt (by omega), toNat_ofNat_of_lt (by omega), toNat_ofNat_of_lt (by omega),
      toNat_ofNat_of_lt (by omega), if_neg (by omega), if_neg (by omega), if_neg (by omega)]
    exact congrArg some (Prod.ext (by simp only; omega) rfl)

theorem prefixCode_utf8Bytes : PrefixCode isCodePoint utf8Bytes :=
  prefixCode_of_reader readUtf8_append

theorem utf8Bytes_ne_nil (c : Nat) : utf8Bytes c ≠ [] := by
  unfold utf8Bytes
  split
  · simp
  split
  · simp
  split <;> simp

/-! ### Reading the text back -/

/-- The code point that a backslash and a letter stand for. -/
def unescape (letter : Nat) : Nat :=
  if letter = 0x62 then 0x08
  else if letter = 0x74 then 0x09
  else if letter = 0x6E then 0x0A
  else if letter = 0x66 then 0x0C
  else if letter = 0x72 then 0x0D
  else letter

def hexValue (digit : Nat) : Nat := if digit < 0x3A then digit - 0x30 else digit - 0x57

def readEscaped : List Nat → Option (Nat × List Nat)
  | [] => none
  | c :: rest =>
      if c ≠ 0x5C then some (c, rest)
      else
        match rest with
        | 0x75 :: 0x30 :: 0x30 :: high :: low :: rest => some (hexValue high * 16 + hexValue low, rest)
        | letter :: rest => some (unescape letter, rest)
        | [] => none

theorem escapeJson_of_plain {c : Nat} (hlow : 0x20 ≤ c) (hquote : c ≠ 0x22) (hslash : c ≠ 0x5C) :
    escapeJson c = [c] := by
  unfold escapeJson
  rw [if_neg hquote, if_neg hslash, if_neg (by omega), if_neg (by omega), if_neg (by omega),
    if_neg (by omega), if_neg (by omega), if_neg (by omega)]

theorem readEscaped_append (c : Nat) (rest : List Nat) :
    readEscaped (escapeJson c ++ rest) = some (c, rest) := by
  by_cases hquote : c = 0x22
  · subst hquote
    rfl
  by_cases hslash : c = 0x5C
  · subst hslash
    rfl
  by_cases hlow : 0x20 ≤ c
  · rw [escapeJson_of_plain hlow hquote hslash]
    exact if_pos hslash
  · rw [not_le] at hlow
    interval_cases c <;> rfl

theorem prefixCode_escapeJson : PrefixCode (fun _ => True) escapeJson :=
  prefixCode_of_reader fun c rest _ => readEscaped_append c rest

theorem avoids_quote_escapeJson : Avoids (fun _ => True) escapeJson 0x22 := by
  intro c _
  by_cases hquote : c = 0x22
  · subst hquote
    exact ⟨_, _, rfl, by decide⟩
  by_cases hslash : c = 0x5C
  · subst hslash
    exact ⟨_, _, rfl, by decide⟩
  by_cases hlow : 0x20 ≤ c
  · exact ⟨c, [], escapeJson_of_plain hlow hquote hslash, hquote⟩
  · rw [not_le] at hlow
    interval_cases c <;> exact ⟨_, _, rfl, by decide⟩

theorem prefixCode_jsonString : PrefixCode (fun _ => True) jsonString :=
  ((prefixCode_escapeJson.until avoids_quote_escapeJson).mono fun _ _ _ _ => trivial).cons 0x22

theorem codePoints_injective : Function.Injective codePoints := by
  intro s t h
  have hchars : Function.Injective Char.toNat := fun _ _ h => Char.toNat_inj.mp h
  exact String.toList_inj.mp (List.map_injective_iff.mpr hchars h)

def headerMember (member : String × String) : List Nat :=
  jsonString (codePoints member.1) ++ 0x3A :: jsonString (codePoints member.2)

theorem prefixCode_headerMember : PrefixCode (fun _ => True) headerMember := by
  have htext : PrefixCode (fun _ => True) fun s : String => jsonString (codePoints s) :=
    prefixCode_jsonString.comp codePoints_injective fun _ _ => trivial
  exact (htext.append (htext.cons 0x3A)).mono fun _ _ => ⟨trivial, trivial⟩

theorem avoids_headerMember : Avoids (fun _ => True) headerMember 0x7D :=
  fun member _ => ⟨0x22, _, rfl, by decide⟩

theorem joinComma_eq (values : List (List Nat)) : joinComma values = joinWith 0x2C values := by
  induction values with
  | nil => rfl
  | cons value values ih =>
      cases values with
      | nil => rfl
      | cons next values =>
          rw [joinWith, ← ih]
          rfl

def headersText (members : List (String × String)) : List Nat :=
  0x7B :: (joinWith 0x2C (members.map headerMember) ++ [0x7D])

theorem prefixCode_headersText : PrefixCode (fun _ => True) headersText :=
  ((prefixCode_headerMember.separated avoids_headerMember (by decide)).mono
    fun _ _ _ _ => trivial).cons 0x7B

/-! ### The hashed headers -/

/-- The members of a mapping under some names, in their order. -/
def membersOf (lookup : String → Option String) (names : List String) : List (String × String) :=
  names.filterMap fun name => (lookup name).map fun value => (name, value)

theorem fst_mem_of_membersOf {lookup : String → Option String} {names : List String}
    {member : String × String} (h : member ∈ membersOf lookup names) : member.1 ∈ names := by
  obtain ⟨name, hname, hmember⟩ := List.mem_filterMap.mp h
  obtain ⟨value, -, rfl⟩ := Option.map_eq_some_iff.mp hmember
  exact hname

theorem membersOf_inj {lookup lookup' : String → Option String} {names : List String}
    (hnodup : names.Nodup) :
    membersOf lookup names = membersOf lookup' names ↔
      ∀ name ∈ names, lookup name = lookup' name := by
  induction names with
  | nil => simp [membersOf]
  | cons name names ih =>
      obtain ⟨hfresh, hnodup⟩ := List.nodup_cons.mp hnodup
      have hcons : ∀ f : String → Option String, membersOf f (name :: names) =
          ((f name).map fun value => (name, value)).toList ++ membersOf f names := by
        intro f
        unfold membersOf
        rw [List.filterMap_cons]
        cases f name <;> rfl
      have hhead : ∀ (f : String → Option String) (value : String) (rest : List (String × String)),
          membersOf f names ≠ (name, value) :: rest := by
        intro f value rest heq
        have hmem : (name, value) ∈ membersOf f names := by
          rw [heq]
          exact List.mem_cons_self
        exact hfresh (fst_mem_of_membersOf hmem)
      rw [hcons, hcons, List.forall_mem_cons, ← ih hnodup]
      cases hl : lookup name with
      | none =>
          cases hl' : lookup' name with
          | none => simp
          | some value => simp [hhead]
      | some value =>
          cases hl' : lookup' name with
          | none => simp [fun rest => (hhead lookup' value rest).symm]
          | some value' => simp

theorem canonicalText_eq (sha256 : Bytes → String) (facts : RequestFacts) :
    canonicalText sha256 facts = 0x7B ::
      ((jsonString (codePoints "body_sha256") ++ [0x3A]) ++
        (jsonString (codePoints (sha256 facts.body)) ++
          (0x2C :: (jsonString (codePoints "headers") ++ [0x3A]) ++
            (headersText (membersOf facts.headers.last? hashedHeaders) ++
              (0x2C :: (jsonString (codePoints "request_method") ++ [0x3A]) ++
                (jsonString facts.requestMethod.codePoints ++
                  (0x2C :: (jsonString (codePoints "target") ++ [0x3A]) ++
                    (jsonString (codePoints facts.target) ++
                      (0x2C :: (jsonString (codePoints "transport") ++ [0x3A]) ++
                        (jsonString (codePoints facts.transport) ++ [0x7D])))))))))) := by
  have hheaders : jsonObject (hashedHeaders.filterMap fun name =>
      (facts.headers.last? name).map fun value => (name, jsonString (codePoints value))) =
        headersText (membersOf facts.headers.last? hashedHeaders) := by
    have hmap : ((membersOf facts.headers.last? hashedHeaders).map headerMember) =
        ((hashedHeaders.filterMap fun name => (facts.headers.last? name).map fun value =>
          (name, jsonString (codePoints value))).map fun f =>
            jsonString (codePoints f.1) ++ 0x3A :: f.2) := by
      unfold membersOf
      rw [List.map_filterMap, List.map_filterMap]
      refine List.filterMap_congr fun name _ => ?_
      cases facts.headers.last? name <;> rfl
    unfold jsonObject headersText
    rw [joinComma_eq, hmap]
    rfl
  unfold canonicalText
  rw [hheaders]
  generalize headersText (membersOf facts.headers.last? hashedHeaders) = headers
  unfold jsonObject
  simp only [List.map_cons, List.map_nil, joinComma, List.append_assoc, List.cons_append,
    List.nil_append]

/-! ### Code points -/

theorem isCodePoint_codePoints (s : String) : ∀ c ∈ codePoints s, isCodePoint c := by
  intro c hc
  obtain ⟨ch, -, rfl⟩ := List.mem_map.mp hc
  have hvalid : ch.toNat < 0xD800 ∨ 0xDFFF < ch.toNat ∧ ch.toNat < 0x110000 := ch.valid
  unfold isCodePoint
  omega

/-- Escaping leaves a code point or writes ASCII. -/
theorem mem_escapeJson {c x : Nat} (h : x ∈ escapeJson c) : x = c ∨ x < 0x80 := by
  by_cases hsmall : c < 0x5D
  · have hall : ∀ c < 0x5D, ∀ x ∈ escapeJson c, x < 0x80 := by decide
    exact .inr (hall c hsmall x h)
  · rw [escapeJson_of_plain (by omega) (by omega) (by omega)] at h
    exact .inl (List.mem_singleton.mp h)

theorem isCodePoint_jsonString {text : List Nat} (htext : ∀ c ∈ text, isCodePoint c) :
    ∀ c ∈ jsonString text, isCodePoint c := by
  have hquote : isCodePoint 0x22 := by decide
  unfold jsonString
  rw [List.forall_mem_append, List.forall_mem_cons]
  refine ⟨⟨hquote, fun x hx => ?_⟩, fun x hx => ?_⟩
  · obtain ⟨c, hc, hx⟩ := List.mem_flatMap.mp hx
    rcases mem_escapeJson hx with rfl | hascii
    · exact htext x hc
    · exact Nat.lt_trans hascii (by decide)
  · rw [List.mem_singleton.mp hx]
    exact hquote

theorem isCodePoint_headersText (members : List (String × String)) :
    ∀ c ∈ headersText members, isCodePoint c := by
  have hmember : ∀ member, ∀ c ∈ headerMember member, isCodePoint c := by
    intro member
    unfold headerMember
    rw [List.forall_mem_append, List.forall_mem_cons]
    exact ⟨isCodePoint_jsonString (isCodePoint_codePoints _), by decide,
      isCodePoint_jsonString (isCodePoint_codePoints _)⟩
  have hjoined : ∀ c ∈ joinWith 0x2C (members.map headerMember), isCodePoint c := by
    cases members with
    | nil => exact fun c hc => absurd hc List.not_mem_nil
    | cons member members =>
        rw [List.map_cons, joinWith_cons, List.forall_mem_append]
        refine ⟨hmember member, fun c hc => ?_⟩
        obtain ⟨text, htext, hc⟩ := List.mem_flatMap.mp hc
        obtain ⟨other, -, rfl⟩ := List.mem_map.mp htext
        rcases List.mem_cons.mp hc with rfl | hc
        · decide
        · exact hmember other c hc
  unfold headersText
  rw [List.forall_mem_cons, List.forall_mem_append]
  refine ⟨by decide, hjoined, fun c hc => ?_⟩
  rw [List.mem_singleton.mp hc]
  decide

theorem isCodePoint_canonicalText (sha256 : Bytes → String) {facts : RequestFacts}
    (hmethod : ∀ c ∈ facts.requestMethod.codePoints, isCodePoint c) :
    ∀ c ∈ canonicalText sha256 facts, isCodePoint c := by
  have hstring : ∀ s : String, ∀ c ∈ jsonString (codePoints s), isCodePoint c :=
    fun s => isCodePoint_jsonString (isCodePoint_codePoints s)
  have hkey : ∀ s : String, (∀ c ∈ jsonString (codePoints s), isCodePoint c) ∧ isCodePoint 0x3A ∧
      ∀ c ∈ ([] : List Nat), isCodePoint c :=
    fun s => ⟨hstring s, by decide, by decide⟩
  have hnext : ∀ s : String, isCodePoint 0x2C ∧ (∀ c ∈ jsonString (codePoints s), isCodePoint c) ∧
      isCodePoint 0x3A ∧ ∀ c ∈ ([] : List Nat), isCodePoint c :=
    fun s => ⟨by decide, hkey s⟩
  rw [canonicalText_eq]
  simp only [List.forall_mem_cons, List.forall_mem_append]
  exact ⟨by decide, hkey _, hstring _, hnext _, isCodePoint_headersText _, hnext _,
    isCodePoint_jsonString hmethod, hnext _, hstring _, hnext _, hstring _, by decide⟩

/-! ### What the hash tells apart -/

structure HashedAlike (facts other : RequestFacts) : Prop where
  transport : facts.transport = other.transport
  requestMethod : facts.requestMethod.codePoints = other.requestMethod.codePoints
  encodable : facts.requestMethod.codePoints.any isSurrogate = false
  target : facts.target = other.target
  body : facts.body = other.body
  lastLines : ∀ name ∈ hashedHeaders, facts.headers.last? name = other.headers.last? name

/-- The canonical text tells apart all it is made from. -/
theorem hashedAlike_of_canonicalText {sha256 : Bytes → String}
    (hsha256 : Function.Injective sha256) {facts other : RequestFacts}
    (hencodable : facts.requestMethod.codePoints.any isSurrogate = false)
    (h : canonicalText sha256 facts = canonicalText sha256 other) : HashedAlike facts other := by
  have hstring := @prefixCode_jsonString
  rw [canonicalText_eq, canonicalText_eq] at h
  replace h := List.append_cancel_left (List.cons.inj h).2
  obtain ⟨hbody, h⟩ := hstring trivial trivial h
  replace h := List.append_cancel_left h
  obtain ⟨hheaders, h⟩ := prefixCode_headersText trivial trivial h
  replace h := List.append_cancel_left h
  obtain ⟨hmethod, h⟩ := hstring trivial trivial h
  replace h := List.append_cancel_left h
  obtain ⟨htarget, h⟩ := hstring trivial trivial h
  replace h := List.append_cancel_left h
  obtain ⟨htransport, -⟩ := hstring trivial trivial h
  exact
    { transport := codePoints_injective htransport
      requestMethod := hmethod
      encodable := hencodable
      target := codePoints_injective htarget
      body := hsha256 (codePoints_injective hbody)
      lastLines := (membersOf_inj (by decide)).mp hheaders }

theorem canonicalText_of_hashedAlike (sha256 : Bytes → String) {facts other : RequestFacts}
    (h : HashedAlike facts other) : canonicalText sha256 facts = canonicalText sha256 other := by
  rw [canonicalText_eq, canonicalText_eq, h.transport, h.requestMethod, h.target, h.body,
    (membersOf_inj (by decide)).mpr h.lastLines]

theorem hash_eq_iff {sha256 : Bytes → String} (hsha256 : Function.Injective sha256)
    {facts other : RequestFacts}
    (hmethod : ∀ c ∈ facts.requestMethod.codePoints, isCodePoint c)
    (hmethod' : ∀ c ∈ other.requestMethod.codePoints, isCodePoint c) :
    (∃ hash, deterministicRequestHash sha256 facts = .ok hash ∧
      deterministicRequestHash sha256 other = .ok hash) ↔ HashedAlike facts other := by
  rw [deterministicRequestHash_eq, deterministicRequestHash_eq]
  constructor
  · rintro ⟨hash, hhash, hhash'⟩
    cases hfacts : facts.requestMethod.codePoints.any isSurrogate with
    | true =>
        rw [hfacts, if_pos rfl] at hhash
        cases hhash
    | false =>
        cases hother : other.requestMethod.codePoints.any isSurrogate with
        | true =>
            rw [hother, if_pos rfl] at hhash'
            cases hhash'
        | false =>
            rw [hfacts, if_neg Bool.false_ne_true] at hhash
            rw [hother, if_neg Bool.false_ne_true] at hhash'
            have hbytes := hsha256 (Except.ok.inj (hhash.trans hhash'.symm))
            exact hashedAlike_of_canonicalText hsha256 hfacts
              (prefixCode_utf8Bytes.flatMap_injective (fun c _ => utf8Bytes_ne_nil c)
                (isCodePoint_canonicalText sha256 hmethod)
                (isCodePoint_canonicalText sha256 hmethod') hbytes)
  · intro h
    rw [← h.requestMethod, h.encodable, if_neg Bool.false_ne_true,
      canonicalText_of_hashedAlike sha256 h]
    exact ⟨_, rfl, rfl⟩

end Kin.Gateway
