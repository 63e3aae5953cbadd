import Mathlib.Data.Bool.AllAny
import Kin.Lib.DecimalFraction
import Kin.Py.IsoOrder

/-!
The instants that the texts of `TIMESTAMP_REGEX` stand for. The pattern takes a
fraction of any length, digits of any script and a final newline; a text with a month
13 matches it as well and stands for nothing. Up to the `Z`, two texts in ASCII compare
as their instants do, unless one is a beginning of the other.
-/

namespace Kin.Py

open Kin.Lib

/-! ### Stamps -/

/-- A whole second of the calendar, and the digits behind its point. -/
structure Stamp where
  second : Datetime
  whole : microsecond second.instant = 0
  digits : List Nat
  digits_lt : Digits digits

/-- Microseconds since the epoch. -/
def Stamp.instant (s : Stamp) : ℚ := s.second.instant + 1000000 * fraction s.digits

/-- A point is written only before digits. -/
def fractionText : List Nat → List Char
  | [] => []
  | d :: ds => '.' :: (d :: ds).map Nat.digitChar

@[simp] theorem fractionText_nil : fractionText [] = [] := rfl

@[simp] theorem fractionText_cons (d : Nat) (ds : List Nat) :
    fractionText (d :: ds) = '.' :: (d :: ds).map Nat.digitChar := rfl

/-- The text in ASCII, up to the `Z`. -/
def Stamp.body (s : Stamp) : List Char :=
  record isoLayout (isoFields s.second.instant) ++ fractionText s.digits

def asciiDigit (c : Char) : Char := if isDecimal c then Nat.digitChar (digitValue c) else c

/-- The text is of the format and stands for the instant. -/
def Denotes (text : String) (instant : ℚ) : Prop :=
  ∃ (s : Stamp) (rest : List Char), atEnd rest = true ∧
    text.toList.map asciiDigit = s.body ++ 'Z' :: rest ∧ instant = s.instant

theorem Stamp.second_eq (s : Stamp) :
    @Eq Int s.second.instant (secondOf s.second.instant * 1000000) := by
  have h := s.whole
  unfold microsecond secondOf at *
  omega

/-! ### Stamps in order -/

theorem Stamp.lex_of_lt {a b : Stamp} (h : a.instant < b.instant) :
    a.second.instant < b.second.instant ∨
      a.second.instant = b.second.instant ∧ fraction a.digits < fraction b.digits := by
  have ha := fraction_nonneg a.digits
  have hb := fraction_lt_one b.digits_lt
  unfold Stamp.instant at h
  rcases Int.lt_trichotomy a.second.instant b.second.instant with hlt | heq | hgt
  · exact .inl hlt
  · rw [heq] at h
    exact .inr ⟨heq, by linarith⟩
  · -- whole seconds that differ are a second apart
    have hseconds : b.second.instant + 1000000 ≤ a.second.instant := by
      have hsa := a.second_eq
      have hsb := b.second_eq
      have hint : @LT.lt Int _ b.second.instant a.second.instant := hgt
      change @LE.le Int _ (b.second.instant + 1000000) a.second.instant
      omega
    have hcast : (b.second.instant : ℚ) + 1000000 ≤ a.second.instant := by exact_mod_cast hseconds
    linarith

theorem Stamp.eq_of_instant_eq {a b : Stamp} (h : a.instant = b.instant) :
    a.second.instant = b.second.instant ∧ fraction a.digits = fraction b.digits := by
  have hsecond : a.second.instant = b.second.instant := by
    have hbounds : ∀ s : Stamp, (s.second.instant : ℚ) ≤ s.instant ∧
        s.instant < s.second.instant + 1000000 := by
      intro s
      have hnonneg := fraction_nonneg s.digits
      have hone := fraction_lt_one s.digits_lt
      unfold Stamp.instant
      constructor <;> linarith
    have hab : (a.second.instant : ℚ) < b.second.instant + 1000000 := by
      linarith [(hbounds a).1, (hbounds b).2]
    have hba : (b.second.instant : ℚ) < a.second.instant + 1000000 := by
      linarith [(hbounds b).1, (hbounds a).2]
    have hab' : @LT.lt Int _ a.second.instant (b.second.instant + 1000000) := by exact_mod_cast hab
    have hba' : @LT.lt Int _ b.second.instant (a.second.instant + 1000000) := by exact_mod_cast hba
    have hsa := a.second_eq
    have hsb := b.second_eq
    change @Eq Int a.second.instant b.second.instant
    omega
  refine ⟨hsecond, ?_⟩
  unfold Stamp.instant at h
  rw [hsecond] at h
  linarith

theorem fractionText_lt {ds es : List Nat} (hes : Digits es) (h : ds < es) :
    fractionText ds < fractionText es := by
  obtain _ | ⟨e, es⟩ := es
  · exact absurd h (List.not_lt_nil ds)
  obtain _ | ⟨d, ds⟩ := ds
  · exact List.nil_lt_cons _ _
  · exact List.cons_lt_cons_iff.mpr (.inr ⟨rfl, map_digitChar_lt hes h⟩)

theorem prefix_fractionText {ds es : List Nat} (h : ds <+: es) :
    fractionText ds <+: fractionText es := by
  obtain ⟨tail, rfl⟩ := h
  obtain _ | ⟨d, ds⟩ := ds
  · exact List.nil_prefix
  · rw [List.cons_append, fractionText, fractionText, ← List.cons_append, List.map_append]
    exact List.cons_prefix_cons.mpr ⟨rfl, List.prefix_append _ _⟩

/-- A body comes before that of a later instant. -/
theorem Stamp.body_lt {a b : Stamp} (h : a.instant < b.instant) : a.body < b.body := by
  unfold Stamp.body
  rcases lex_of_lt h with hsecond | ⟨heq, hfraction⟩
  · rcases isoFields_lex hsecond with hfields | ⟨-, hmicro⟩
    · exact record_append_lt (isoFields_fits a.second) (isoFields_fits b.second) hfields _ _
    · rw [a.whole, b.whole] at hmicro
      exact absurd hmicro (lt_irrefl 0)
  · rw [heq]
    apply append_lt_append_left
    exact fractionText_lt b.digits_lt (lt_of_fraction_lt a.digits_lt b.digits_lt hfraction)

/-- Of two bodies of one instant, one is a beginning of the other. -/
theorem Stamp.prefix_of_instant_eq {a b : Stamp} (h : a.instant = b.instant) :
    a.body <+: b.body ∨ b.body <+: a.body := by
  obtain ⟨hsecond, hfraction⟩ := eq_of_instant_eq h
  unfold Stamp.body
  rw [hsecond]
  rcases prefix_of_fraction_eq a.digits_lt b.digits_lt hfraction with hprefix | hprefix
  · exact .inl ((List.prefix_append_right_inj _).mpr (prefix_fractionText hprefix))
  · exact .inr ((List.prefix_append_right_inj _).mpr (prefix_fractionText hprefix))

theorem length_record {layout : List (String × Nat)} {ns : List Nat} (h : Fits layout ns) :
    (record layout ns).length =
      (layout.map fun column => column.1.toList.length + column.2).sum := by
  induction layout generalizing ns with
  | nil =>
      obtain _ | ⟨n, ns⟩ := ns
      · rfl
      · exact h.elim
  | cons column layout ih =>
      obtain _ | ⟨n, ns⟩ := ns
      · exact h.elim
      · simp [record, ih h.2, Nat.add_assoc]

theorem Stamp.length_record (s : Stamp) :
    (record isoLayout (isoFields s.second.instant)).length = 19 := by
  rw [Py.length_record (isoFields_fits s.second)]
  rfl

theorem second_eq_of_record_eq {a b : Stamp}
    (h : record isoLayout (isoFields a.second.instant) =
      record isoLayout (isoFields b.second.instant)) : a.second.instant = b.second.instant := by
  have hlt : ∀ {a b : Stamp}, a.second.instant < b.second.instant →
      record isoLayout (isoFields a.second.instant) <
        record isoLayout (isoFields b.second.instant) := by
    intro a b hab
    rcases isoFields_lex hab with hfields | ⟨-, hmicro⟩
    · have := record_append_lt (isoFields_fits a.second) (isoFields_fits b.second) hfields [] []
      simpa using this
    · rw [a.whole, b.whole] at hmicro
      exact absurd hmicro (lt_irrefl 0)
  rcases Int.lt_trichotomy a.second.instant b.second.instant with hab | heq | hba
  · exact absurd (hlt hab) (h ▸ lt_irrefl _)
  · exact heq
  · exact absurd (hlt hba) (h ▸ lt_irrefl _)

theorem digitValue_digitChar {d : Nat} (h : d < 10) : digitValue (Nat.digitChar d) = d := by
  have hall : ∀ d < 10, digitValue (Nat.digitChar d) = d := by decide
  exact hall d h

theorem map_digitValue {ds : List Nat} (h : Digits ds) :
    (ds.map Nat.digitChar).map digitValue = ds := by
  rw [List.map_map]
  conv_rhs => rw [← List.map_id ds]
  exact List.map_congr_left fun d hd => digitValue_digitChar (h d hd)

/-- A body that goes on after another one adds nothing exactly if it adds no digit but
zero. -/
theorem Stamp.instant_eq_iff {a b : Stamp} {more : List Char} (h : b.body = a.body ++ more) :
    a.instant = b.instant ↔ ∀ c ∈ more, digitValue c = 0 := by
  unfold Stamp.body at h
  rw [List.append_assoc] at h
  obtain ⟨hrecord, htext⟩ := List.append_inj h (b.length_record.trans a.length_record.symm)
  have hsecond := second_eq_of_record_eq hrecord
  have hinstant : a.instant = b.instant ↔ fraction b.digits = fraction a.digits := by
    unfold Stamp.instant
    rw [hsecond]
    constructor <;> intro heq <;> linarith
  rw [hinstant]
  have hvalues : ∀ ds : List Nat, Digits ds →
      ((∀ c ∈ ds.map Nat.digitChar, digitValue c = 0) ↔ ∀ d ∈ ds, d = 0) := by
    intro ds hds
    rw [List.forall_mem_map]
    exact forall₂_congr fun d hd => by rw [digitValue_digitChar (hds d hd)]
  have hdigits := b.digits_lt
  cases hda : a.digits with
  | nil =>
      rw [hda, fractionText_nil, List.nil_append] at htext
      rw [← htext, fraction, fraction_eq_zero_iff]
      cases hdb : b.digits with
      | nil => simp
      | cons e es =>
          have hpoint : digitValue '.' = 0 := by decide
          rw [hdb] at hdigits
          rw [← hvalues _ hdigits, fractionText_cons, List.forall_mem_cons (a := '.')]
          simp only [hpoint, true_and]
  | cons d ds =>
      cases hdb : b.digits with
      | nil =>
          rw [hda, hdb] at htext
          cases htext
      | cons e es =>
          rw [hda, hdb, fractionText_cons, fractionText_cons, List.cons_append,
            List.cons.injEq] at htext
          obtain ⟨front, back, hsplit, hfront, hback⟩ := List.map_eq_append_iff.mp htext.2
          rw [hdb, hsplit] at hdigits
          have hsame : front = d :: ds := by
            rw [← map_digitValue fun x hx => hdigits x (List.mem_append_left _ hx), hfront,
              map_digitValue (hda ▸ a.digits_lt)]
          rw [hsplit, hsame, fraction_append_eq_iff, ← hback,
            hvalues back fun x hx => hdigits x (List.mem_append_right _ hx)]

/-! ### The characters of a text -/

/-- A digit stands behind the zero of its script. -/
theorem digitValue_spec {c : Char} (h : isDecimal c = true) :
    ∃ z ∈ decimalZeros, z ≤ c.toNat ∧ c.toNat < z + 10 ∧ digitValue c = c.toNat - z := by
  obtain ⟨z, hz, hrange⟩ := List.any_eq_true.mp h
  unfold digitValue
  cases hfind : decimalZeros.find? fun z => z ≤ c.toNat && c.toNat < z + 10 with
  | none =>
      have hnone := List.find?_eq_none.mp hfind z hz
      exact absurd hrange hnone
  | some first =>
      have hfirst := List.find?_some hfind
      simp only [Bool.and_eq_true, decide_eq_true_eq] at hfirst
      exact ⟨first, List.mem_of_find?_eq_some hfind, hfirst.1, hfirst.2, rfl⟩

theorem digitValue_lt {c : Char} (h : isDecimal c = true) : digitValue c < 10 := by
  obtain ⟨z, -, hle, hlt, heq⟩ := digitValue_spec h
  omega

theorem asciiDigit_of_lt {c : Char} (h : c.toNat < 128) : asciiDigit c = c := by
  unfold asciiDigit
  split
  · rename_i hdecimal
    obtain ⟨z, hz, hle, hlt, heq⟩ := digitValue_spec hdecimal
    have honly : ∀ z ∈ decimalZeros, z < 128 → z = 48 := by decide
    obtain rfl := honly z hz (by omega)
    have hchar : ∀ d < 10, Nat.digitChar d = Char.ofNat (48 + d) := by decide
    rw [hchar _ (digitValue_lt hdecimal), heq, show 48 + (c.toNat - 48) = c.toNat by omega,
      Char.ofNat_toNat]
  · rfl

theorem digitValue_asciiDigit (c : Char) : digitValue (asciiDigit c) = digitValue c := by
  unfold asciiDigit
  split
  · rename_i hdecimal
    exact digitValue_digitChar (digitValue_lt hdecimal)
  · rfl

/-- Only digits are written in other scripts. -/
theorem eq_of_asciiDigit {c d : Char} (h : asciiDigit c = d) (hd : d.isDigit = false) : c = d := by
  unfold asciiDigit at h
  split at h
  · rename_i hdecimal
    have hall : ∀ n < 10, (Nat.digitChar n).isDigit = true := by decide
    have hdigit := hall _ (digitValue_lt hdecimal)
    rw [h, hd] at hdigit
    cases hdigit
  · exact h

theorem forall_mem_record {P : Char → Prop} {layout : List (String × Nat)} (ns : List Nat)
    (hlead : ∀ column ∈ layout, ∀ c ∈ column.1.toList, P c)
    (hdigit : ∀ d < 10, P (Nat.digitChar d)) : ∀ c ∈ record layout ns, P c := by
  induction layout generalizing ns with
  | nil =>
      intro c hc
      unfold record at hc
      exact absurd hc List.not_mem_nil
  | cons column layout ih =>
      obtain _ | ⟨n, ns⟩ := ns
      · exact fun c hc => absurd hc List.not_mem_nil
      · intro c hc
        rw [record, List.mem_append, List.mem_append, fixedWidth_eq_map, List.mem_map] at hc
        rcases hc with hc | ⟨d, hd, rfl⟩ | hc
        · exact hlead column List.mem_cons_self c hc
        · exact hdigit d (digits_digitsOf _ _ d hd)
        · exact ih ns (fun other hmem => hlead other (List.mem_cons_of_mem _ hmem)) c hc

/-- Every character of a body comes before the `Z`. -/
theorem Stamp.toNat_lt_of_mem_body {s : Stamp} : ∀ c ∈ s.body, c.toNat < 90 := by
  have hdigit : ∀ d < 10, (Nat.digitChar d).toNat < 90 := by decide
  intro c hc
  rcases List.mem_append.mp hc with hrecord | htext
  · have hlead : (isoLayout.all fun column =>
        column.1.toList.all fun c => decide (c.toNat < 90)) = true := by decide
    refine forall_mem_record (P := fun c => c.toNat < 90) _ ?_ hdigit c hrecord
    intro column hcolumn other hother
    exact of_decide_eq_true (List.all_eq_true.mp (List.all_eq_true.mp hlead column hcolumn)
      other hother)
  · have hds := s.digits_lt
    cases hdigits : s.digits with
    | nil =>
        rw [hdigits] at htext
        cases htext
    | cons d ds =>
        rw [hdigits, fractionText_cons] at htext
        rw [hdigits] at hds
        rcases List.mem_cons.mp htext with rfl | hmem
        · decide
        · obtain ⟨e, he, rfl⟩ := List.mem_map.mp hmem
          exact hdigit e (hds e he)

/-! ### Where two texts part -/

/-- The first texts of the two lists, up to a `Z` each, part in a way that shows which
instant is later: at two characters of which the second is in ASCII, or nowhere with
nothing behind the `Z` of the second, or where the second one goes on with zeros. At a
digit of another script the second instant counts as later, whether it is or not. -/
def Parts (later : Prop) (rest : List Char) : List Char → List Char → Prop
  | x :: xs, y :: ys => if x = y then Parts later rest xs ys else y.toNat < 128 ∨ later
  | [], y :: ys => if y.toNat < 128 then ∀ c ∈ y :: ys, digitValue c = 0 else later
  | _ :: _, [] => False
  | [], [] => rest = []

theorem parts_append (later : Prop) (rest front xs ys : List Char) :
    Parts later rest (front ++ xs) (front ++ ys) ↔ Parts later rest xs ys := by
  induction front with
  | nil => exact Iff.rfl
  | cons c front ih =>
      rw [List.cons_append, List.cons_append, Parts, if_pos rfl]
      exact ih

/-- The first place at which two lists differ. -/
theorem first_difference (xs ys : List Char) :
    (∃ front x xs' y ys', xs = front ++ x :: xs' ∧ ys = front ++ y :: ys' ∧ x ≠ y) ∨
      (∃ y ys', ys = xs ++ y :: ys') ∨ (∃ x xs', xs = ys ++ x :: xs') ∨ xs = ys := by
  induction xs generalizing ys with
  | nil =>
      obtain _ | ⟨y, ys⟩ := ys
      · exact .inr (.inr (.inr rfl))
      · exact .inr (.inl ⟨y, ys, rfl⟩)
  | cons x xs ih =>
      obtain _ | ⟨y, ys⟩ := ys
      · exact .inr (.inr (.inl ⟨x, xs, rfl⟩))
      by_cases hxy : x = y
      · subst hxy
        rcases ih ys with ⟨front, x', xs', y', ys', rfl, rfl, hne⟩ | ⟨y', ys', rfl⟩ |
          ⟨x', xs', rfl⟩ | rfl
        · exact .inl ⟨x :: front, x', xs', y', ys', rfl, rfl, hne⟩
        · exact .inr (.inl ⟨y', ys', rfl⟩)
        · exact .inr (.inr (.inl ⟨x', xs', rfl⟩))
        · exact .inr (.inr (.inr rfl))
      · exact .inl ⟨[], x, xs, y, ys, rfl, rfl, hxy⟩

theorem append_lt_append_iff (front : List Char) {x y : Char} {xs ys : List Char} (h : x ≠ y) :
    front ++ x :: xs < front ++ y :: ys ↔ x < y := by
  constructor
  · intro hlt
    rcases lt_trichotomy x y with hxy | hxy | hyx
    · exact hxy
    · exact absurd hxy h
    · have hback : front ++ y :: ys < front ++ x :: xs :=
        append_lt_append_left front (List.cons_lt_cons_iff.mpr (.inl hyx))
      exact absurd hback (lt_asymm hlt)
  · intro hlt
    exact append_lt_append_left front (List.cons_lt_cons_iff.mpr (.inl hlt))

theorem not_append_lt (xs more : List Char) : ¬xs ++ more < xs := by
  intro hlt
  cases more with
  | nil =>
      rw [List.append_nil] at hlt
      exact lt_irrefl _ hlt
  | cons c cs =>
      have hback := append_lt_append_left xs (List.nil_lt_cons c cs)
      rw [List.append_nil] at hback
      exact lt_asymm hlt hback

/-! ### The comparison of two texts -/

theorem char_lt_of_toNat_lt {c d : Char} (h : c.toNat < d.toNat) : c < d :=
  UInt32.lt_iff_toNat_lt.mpr h

/-- The characters of a text, of which an ASCII one is the one of the body. -/
theorem ascii_front {front : List Char} (h : ∀ c ∈ front, c.toNat < 90) :
    front.map asciiDigit = front := by
  conv_rhs => rw [← List.map_id front]
  exact List.map_congr_left fun c hc => asciiDigit_of_lt (Nat.lt_trans (h c hc) (by decide))

/-- A text in ASCII, followed by `Z`, comes before a text that stands for another instant
exactly where it should, if and only if the two part in a way that shows it. -/
theorem lt_iff_instant_lt_iff_parts {a b : Stamp} {raw rest : List Char}
    (hraw : raw.map asciiDigit = b.body) :
    ((a.body ++ ['Z'] < raw ++ 'Z' :: rest) ↔ a.instant < b.instant) ↔
      Parts (a.instant < b.instant) rest a.body raw := by
  have ha : ∀ c ∈ a.body, c.toNat < 90 := Stamp.toNat_lt_of_mem_body
  have hb : ∀ c ∈ b.body, c.toNat < 90 := Stamp.toNat_lt_of_mem_body
  rcases first_difference a.body raw with ⟨front, x, xs, y, ys, hx, hy, hne⟩ | ⟨y, ys, hy⟩ |
    ⟨x, xs, hx⟩ | heq
  · -- both have a character at the first difference
    have hx90 : x.toNat < 90 := ha x (by simp [hx])
    rw [hx, hy, List.append_assoc, List.append_assoc, List.cons_append, List.cons_append,
      append_lt_append_iff front hne, parts_append, Parts, if_neg hne]
    by_cases hascii : y.toNat < 128
    · have hbody : b.body = front ++ y :: ys.map asciiDigit := by
        rw [← hraw, hy, List.map_append, List.map_cons, asciiDigit_of_lt hascii, ascii_front]
        exact fun c hc => ha c (by simp [hx, hc])
      refine ⟨fun _ => .inl hascii, fun _ => ⟨fun hlt => ?_, fun hlt => ?_⟩⟩
      · rcases lt_trichotomy a.instant b.instant with hab | hab | hba
        · exact hab
        · -- bodies of one instant do not differ where both have a character
          rcases Stamp.prefix_of_instant_eq hab with hprefix | hprefix
          · rw [hx, hbody, List.prefix_append_right_inj, List.cons_prefix_cons] at hprefix
            exact absurd hprefix.1 hne
          · rw [hx, hbody, List.prefix_append_right_inj, List.cons_prefix_cons] at hprefix
            exact absurd hprefix.1.symm hne
        · have hbody_lt := Stamp.body_lt hba
          rw [hx, hbody, append_lt_append_iff front (Ne.symm hne)] at hbody_lt
          exact absurd hbody_lt (lt_asymm hlt)
      · have hbody_lt := Stamp.body_lt hlt
        rwa [hx, hbody, append_lt_append_iff front hne] at hbody_lt
    · have hlt : x < y := char_lt_of_toNat_lt (by omega)
      simp [hlt, hascii]
  · -- the second text goes on
    have hbody : b.body = a.body ++ (y :: ys).map asciiDigit := by
      rw [← hraw, hy, List.map_append, ascii_front ha]
    have hyz : 'Z' ≠ y := by
      rintro rfl
      have hz := hb 'Z' (by rw [hbody, List.map_cons, asciiDigit_of_lt (by decide)]; simp)
      exact absurd hz (by decide)
    have hparts := parts_append (a.instant < b.instant) rest a.body [] (y :: ys)
    rw [List.append_nil] at hparts
    rw [hy, hparts, List.append_assoc, List.cons_append, append_lt_append_iff a.body hyz, Parts]
    by_cases hascii : y.toNat < 128
    · rw [if_pos hascii]
      have hy90 : y.toNat < 90 :=
        hb y (by rw [hbody, List.map_cons, asciiDigit_of_lt hascii]; simp)
      have hnot : ¬ 'Z' < y := lt_asymm (char_lt_of_toNat_lt hy90)
      have hlater : ¬b.instant < a.instant := by
        intro hba
        have hlt := Stamp.body_lt hba
        rw [hbody] at hlt
        exact not_append_lt _ _ hlt
      have hvalues : (∀ c ∈ (y :: ys).map asciiDigit, digitValue c = 0) ↔
          ∀ c ∈ y :: ys, digitValue c = 0 := by
        rw [List.forall_mem_map]
        exact forall₂_congr fun c _ => by rw [digitValue_asciiDigit]
      rw [← hvalues, ← Stamp.instant_eq_iff hbody]
      constructor
      · intro hiff
        exact le_antisymm (not_lt.mp hlater) (not_lt.mp fun hab => hnot (hiff.mpr hab))
      · intro heq
        rw [heq]
        simp [hnot]
    · have hlt : 'Z' < y := by
        apply char_lt_of_toNat_lt
        have hz : 'Z'.toNat = 90 := rfl
        omega
      simp [hlt, hascii]
  · -- the first text goes on
    have hfront : raw.map asciiDigit = raw := ascii_front fun c hc => ha c (by simp [hx, hc])
    have hbody : a.body = b.body ++ x :: xs := by rw [← hraw, hfront, hx]
    have hlt : x < 'Z' := char_lt_of_toNat_lt (ha x (by simp [hx]))
    have hlater : ¬a.instant < b.instant := by
      intro hab
      have hback := Stamp.body_lt hab
      rw [hbody] at hback
      exact not_append_lt _ _ hback
    have hparts := parts_append (a.instant < b.instant) rest raw (x :: xs) []
    rw [List.append_nil] at hparts
    rw [hx, hparts, List.append_assoc, List.cons_append, append_lt_append_iff raw (ne_of_lt hlt),
      Parts]
    simp [hlt, hlater]
  · -- the texts agree up to the `Z`
    have hfront : raw.map asciiDigit = raw := ascii_front fun c hc => ha c (heq ▸ hc)
    have hlater : ¬a.instant < b.instant := by
      intro hab
      have hlt := Stamp.body_lt hab
      rw [← hraw, hfront, ← heq] at hlt
      exact absurd hlt (lt_irrefl _)
    have hparts := parts_append (a.instant < b.instant) rest raw [] []
    rw [List.append_nil] at hparts
    have htail : raw ++ ['Z'] < raw ++ 'Z' :: rest ↔ rest ≠ [] := by
      constructor
      · rintro hlt rfl
        exact lt_irrefl _ hlt
      · intro hne
        obtain ⟨c, cs, rfl⟩ := List.exists_cons_of_ne_nil hne
        apply append_lt_append_left
        exact List.cons_lt_cons_iff.mpr (.inr ⟨rfl, List.nil_lt_cons c cs⟩)
    rw [heq, hparts, Parts, htail]
    simp [hlater]

/-! ### Now, and an expiry -/

theorem dayOf_floor (t : Instant) : dayOf (secondOf t * 1000000) = dayOf t := by
  unfold dayOf secondOf
  omega

theorem secondOf_floor (t : Instant) : secondOf (secondOf t * 1000000) = secondOf t := by
  unfold secondOf
  omega

theorem microsecond_floor (t : Instant) : microsecond (secondOf t * 1000000) = 0 := by
  unfold microsecond secondOf
  omega

/-- The whole second of a timestamp. -/
def Datetime.floor (t : Datetime) : Datetime where
  instant := secondOf t.instant * 1000000
  min_le := dayOf_floor t.instant ▸ t.min_le
  le_max := dayOf_floor t.instant ▸ t.le_max

def Datetime.stamp (t : Datetime) : Stamp where
  second := t.floor
  whole := microsecond_floor t.instant
  digits := if microsecond t.instant = 0 then [] else digitsOf 6 (microsecond t.instant)
  digits_lt := by
    split
    · exact fun d hd => absurd hd List.not_mem_nil
    · exact digits_digitsOf 6 _

theorem Datetime.fraction_stamp (t : Datetime) :
    1000000 * fraction t.stamp.digits = (microsecond t.instant : ℚ) := by
  unfold Datetime.stamp
  dsimp only
  split
  · rename_i hzero
    simp [hzero, fraction]
  · rw [fraction_digitsOf (microsecond_lt t.instant)]
    ring

theorem Datetime.instant_stamp (t : Datetime) : t.stamp.instant = t.instant := by
  have hsplit : @Eq Int (secondOf t.instant * 1000000 + microsecond t.instant) t.instant := by
    unfold microsecond secondOf
    omega
  rw [Stamp.instant, t.fraction_stamp]
  change ((secondOf t.instant * 1000000 : Int) : ℚ) + (microsecond t.instant : ℚ) = t.instant
  exact_mod_cast hsplit

theorem isoFields_floor (t : Datetime) : isoFields t.floor.instant = isoFields t.instant := by
  have hday : dayOf t.floor.instant = dayOf t.instant := dayOf_floor t.instant
  have hsecond : secondOfDay t.floor.instant = secondOfDay t.instant := by
    unfold secondOfDay
    rw [hday]
    change (secondOf (secondOf t.instant * 1000000) - _).toNat = _
    rw [secondOf_floor]
  rw [isoFields, isoFields, hday, hsecond]

/-- `isoformat` prints the stamp. -/
theorem Datetime.body_stamp (t : Datetime) : t.stamp.body = (isoBody t.instant).toList := by
  rw [toList_isoBody, Stamp.body]
  change record isoLayout (isoFields t.floor.instant) ++ _ = _
  rw [isoFields_floor]
  congr 1
  unfold isoFraction Datetime.stamp
  dsimp only
  split
  · rfl
  · rw [fixedWidth_eq_map]
    rfl

/-- What `_iso_now` writes stands for its instant. -/
theorem denotes_isoNow (t : Datetime) : Denotes (isoNow t.instant) t.instant := by
  refine ⟨t.stamp, [], rfl, ?_, t.instant_stamp.symm⟩
  have hfront : t.stamp.body.map asciiDigit = t.stamp.body := ascii_front Stamp.toNat_lt_of_mem_body
  rw [isoNow, String.toList_append, List.map_append, ← t.body_stamp, hfront]
  rfl

/-- The text up to its first `Z`, and what is behind it. -/
def upToZ (text : String) : List Char := text.toList.takeWhile (· != 'Z')

def afterZ (text : String) : List Char := (text.toList.dropWhile (· != 'Z')).tail

theorem split_at_Z {text : String} {s : Stamp} {rest : List Char}
    (h : text.toList.map asciiDigit = s.body ++ 'Z' :: rest) :
    text.toList = upToZ text ++ 'Z' :: afterZ text ∧ (upToZ text).map asciiDigit = s.body := by
  obtain ⟨front, back, hsplit, hfront, hback⟩ := List.map_eq_append_iff.mp h
  obtain _ | ⟨z, back⟩ := back
  · cases hback
  rw [List.map_cons, List.cons.injEq] at hback
  obtain rfl : z = 'Z' := eq_of_asciiDigit hback.1 (by decide)
  have hnone : ∀ c ∈ front, (c != 'Z') = true := by
    intro c hc
    have hc90 : (asciiDigit c).toNat < 90 :=
      Stamp.toNat_lt_of_mem_body _ (hfront ▸ List.mem_map_of_mem hc)
    rw [bne_iff_ne]
    rintro rfl
    rw [asciiDigit_of_lt (by decide)] at hc90
    exact absurd hc90 (by decide)
  have htake : upToZ text = front := by
    rw [upToZ, hsplit, List.takeWhile_append_of_pos hnone]
    simp
  have hdrop : afterZ text = back := by
    rw [afterZ, hsplit, List.dropWhile_append_of_pos hnone]
    simp
  rw [htake, hdrop]
  exact ⟨hsplit, hfront⟩

/-- Now is before the expiry as a text exactly where it is before it in time, if and only
if the two texts part in a way that shows it. -/
theorem isoNow_lt_iff_parts {t : Datetime} {text : String} {instant : ℚ}
    (h : Denotes text instant) :
    ((isoNow t.instant < text) ↔ (t.instant : ℚ) < instant) ↔
      Parts ((t.instant : ℚ) < instant) (afterZ text) (isoBody t.instant).toList (upToZ text) := by
  obtain ⟨s, rest, -, htext, rfl⟩ := h
  obtain ⟨hsplit, hbody⟩ := split_at_Z htext
  have hnow : (isoNow t.instant).toList = t.stamp.body ++ ['Z'] := by
    rw [isoNow, String.toList_append, t.body_stamp]
    rfl
  rw [String.lt_iff, hnow, hsplit, ← t.instant_stamp, ← t.body_stamp]
  exact lt_iff_instant_lt_iff_parts hbody

end Kin.Py
