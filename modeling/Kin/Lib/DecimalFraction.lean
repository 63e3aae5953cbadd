import Mathlib.Algebra.Order.Field.Rat
import Mathlib.Tactic.FieldSimp
import Mathlib.Tactic.Linarith
import Mathlib.Tactic.Ring
import Kin.Lib.FixedWidth

/-!
The digits behind a decimal point. Read from the left they compare as the fractions
they stand for, except that trailing zeros count for nothing in a fraction.
-/

namespace Kin.Lib

/-- The fraction that decimal digits behind a point stand for. -/
def fraction : List Nat → ℚ
  | [] => 0
  | d :: ds => (d + fraction ds) / 10

theorem fraction_cons (d : Nat) (ds : List Nat) :
    fraction (d :: ds) = (d + fraction ds) / 10 := rfl

/-- Every number is a decimal digit. -/
def Digits (ds : List Nat) : Prop := ∀ d ∈ ds, d < 10

theorem Digits.tail {d : Nat} {ds : List Nat} (h : Digits (d :: ds)) : Digits ds :=
  fun e he => h e (List.mem_cons_of_mem d he)

theorem fraction_nonneg (ds : List Nat) : 0 ≤ fraction ds := by
  induction ds with
  | nil => exact le_refl _
  | cons d ds ih =>
      have hd : (0 : ℚ) ≤ d := Nat.cast_nonneg d
      rw [fraction_cons]
      linarith

theorem fraction_lt_one {ds : List Nat} (h : Digits ds) : fraction ds < 1 := by
  induction ds with
  | nil => exact zero_lt_one
  | cons d ds ih =>
      have hrest := ih h.tail
      have hd : (d : ℚ) ≤ 9 := by
        exact_mod_cast Nat.le_of_lt_succ (h d List.mem_cons_self)
      rw [fraction_cons]
      linarith

/-- A smaller first digit makes a smaller fraction. -/
theorem fraction_lt_of_head {d e : Nat} {ds es : List Nat} (hds : Digits ds) (h : d < e) :
    fraction (d :: ds) < fraction (e :: es) := by
  have hrest := fraction_lt_one hds
  have hes := fraction_nonneg es
  have hhead : (d : ℚ) + 1 ≤ e := by exact_mod_cast h
  rw [fraction_cons, fraction_cons]
  linarith

theorem fraction_cons_lt {d : Nat} {ds es : List Nat} :
    fraction (d :: ds) < fraction (d :: es) ↔ fraction ds < fraction es := by
  rw [fraction_cons, fraction_cons]
  constructor <;> intro h <;> linarith

theorem fraction_cons_eq {d : Nat} {ds es : List Nat} :
    fraction (d :: ds) = fraction (d :: es) ↔ fraction ds = fraction es := by
  rw [fraction_cons, fraction_cons]
  constructor <;> intro h <;> linarith

/-- The digits of a smaller fraction come first. -/
theorem lt_of_fraction_lt {ds es : List Nat} (hds : Digits ds) (hes : Digits es)
    (h : fraction ds < fraction es) : ds < es := by
  induction ds generalizing es with
  | nil =>
      obtain _ | ⟨e, es⟩ := es
      · exact absurd h (lt_irrefl _)
      · exact List.nil_lt_cons e es
  | cons d ds ih =>
      obtain _ | ⟨e, es⟩ := es
      · exact absurd h (not_lt_of_ge (fraction_nonneg _))
      · rw [List.cons_lt_cons_iff]
        rcases Nat.lt_trichotomy d e with hlt | rfl | hgt
        · exact .inl hlt
        · exact .inr ⟨rfl, ih hds.tail hes.tail (fraction_cons_lt.mp h)⟩
        · exact absurd h (lt_asymm (fraction_lt_of_head hes.tail hgt))

/-- Equal fractions have the same digits as far as both go. -/
theorem prefix_of_fraction_eq {ds es : List Nat} (hds : Digits ds) (hes : Digits es)
    (h : fraction ds = fraction es) : ds <+: es ∨ es <+: ds := by
  induction ds generalizing es with
  | nil => exact .inl List.nil_prefix
  | cons d ds ih =>
      obtain _ | ⟨e, es⟩ := es
      · exact .inr List.nil_prefix
      · rcases Nat.lt_trichotomy d e with hlt | rfl | hgt
        · exact absurd h (ne_of_lt (fraction_lt_of_head hds.tail hlt))
        · rcases ih hds.tail hes.tail (fraction_cons_eq.mp h) with hprefix | hprefix
          · exact .inl (List.cons_prefix_cons.mpr ⟨rfl, hprefix⟩)
          · exact .inr (List.cons_prefix_cons.mpr ⟨rfl, hprefix⟩)
        · exact absurd h.symm (ne_of_lt (fraction_lt_of_head hes.tail hgt))

theorem fraction_eq_zero_iff {ds : List Nat} : fraction ds = 0 ↔ ∀ d ∈ ds, d = 0 := by
  induction ds with
  | nil => simp [fraction]
  | cons d ds ih =>
      have hd : (0 : ℚ) ≤ d := Nat.cast_nonneg d
      have hds := fraction_nonneg ds
      rw [List.forall_mem_cons, ← ih, fraction_cons]
      constructor
      · intro h
        have hhead : (d : ℚ) = 0 := by linarith
        exact ⟨by exact_mod_cast hhead, by linarith⟩
      · rintro ⟨rfl, h⟩
        rw [h]
        norm_num

/-- Further digits add nothing exactly if they are zeros. -/
theorem fraction_append_eq_iff {ds es : List Nat} :
    fraction (ds ++ es) = fraction ds ↔ ∀ e ∈ es, e = 0 := by
  induction ds with
  | nil => exact fraction_eq_zero_iff
  | cons d ds ih => rw [List.cons_append, fraction_cons_eq, ih]

/-! ### A number as a fraction -/

/-- The last `width` decimal digits of `n`. -/
def digitsOf : Nat → Nat → List Nat
  | 0, _ => []
  | width + 1, n => digitsOf width (n / 10) ++ [n % 10]

theorem digits_digitsOf (width n : Nat) : Digits (digitsOf width n) := by
  induction width generalizing n with
  | zero => exact fun d hd => absurd hd List.not_mem_nil
  | succ width ih =>
      intro d hd
      rcases List.mem_append.mp hd with hold | hlast
      · exact ih _ d hold
      · rw [List.mem_singleton.mp hlast]
        omega

@[simp] theorem length_digitsOf (width n : Nat) : (digitsOf width n).length = width := by
  induction width generalizing n with
  | zero => rfl
  | succ width ih => simp [digitsOf, ih]

theorem fixedWidth_eq_map (width n : Nat) :
    fixedWidth width n = (digitsOf width n).map Nat.digitChar := by
  induction width generalizing n with
  | zero => rfl
  | succ width ih => simp [fixedWidth, digitsOf, ih]

theorem fraction_append (ds : List Nat) (d : Nat) :
    fraction (ds ++ [d]) = fraction ds + d / 10 ^ (ds.length + 1) := by
  induction ds with
  | nil => simp [fraction]
  | cons e ds ih =>
      rw [List.cons_append, fraction_cons, ih, fraction_cons, List.length_cons,
        pow_succ _ (ds.length + 1)]
      field_simp
      ring

theorem fraction_digitsOf {width n : Nat} (h : n < 10 ^ width) :
    fraction (digitsOf width n) = n / 10 ^ width := by
  induction width generalizing n with
  | zero =>
      have hn : n = 0 := by simpa using h
      simp [digitsOf, fraction, hn]
  | succ width ih =>
      have hhead : n / 10 < 10 ^ width := by
        rw [Nat.pow_succ] at h
        omega
      have hsplit : ((10 * (n / 10) + n % 10 : Nat) : ℚ) = n := by
        rw [Nat.div_add_mod]
      rw [digitsOf, fraction_append, ih hhead, length_digitsOf, ← hsplit]
      push_cast
      field_simp
      ring

theorem map_digitChar_lt {ds es : List Nat} (hes : Digits es) (h : ds < es) :
    ds.map Nat.digitChar < es.map Nat.digitChar := by
  induction ds generalizing es with
  | nil =>
      obtain _ | ⟨e, es⟩ := es
      · exact absurd h (List.not_lt_nil [])
      · exact List.nil_lt_cons _ _
  | cons d ds ih =>
      obtain _ | ⟨e, es⟩ := es
      · cases h
      · rw [List.map_cons, List.map_cons, List.cons_lt_cons_iff]
        rcases List.cons_lt_cons_iff.mp h with hlt | ⟨rfl, hlt⟩
        · exact .inl (digitChar_lt_digitChar hlt (hes e List.mem_cons_self))
        · exact .inr ⟨rfl, ih hes.tail hlt⟩

end Kin.Lib
