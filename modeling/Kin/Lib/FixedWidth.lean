import Mathlib.Algebra.Ring.Nat
import Mathlib.Data.List.Basic

/-!
Numbers written with a fixed number of decimal digits, and records of such
numbers between separators. Character by character, two records of one layout
stand in the order of their numbers, taken from the left.
-/

namespace Kin.Lib

/-- The last `width` decimal digits of `n`. -/
def fixedWidth : Nat → Nat → List Char
  | 0, _ => []
  | width + 1, n => fixedWidth width (n / 10) ++ [Nat.digitChar (n % 10)]

@[simp] theorem length_fixedWidth (width n : Nat) : (fixedWidth width n).length = width := by
  induction width generalizing n with
  | zero => rfl
  | succ width ih => simp [fixedWidth, ih]

theorem digitChar_lt_digitChar {m n : Nat} (h : m < n) (hn : n < 10) :
    Nat.digitChar m < Nat.digitChar n := by
  have hall : ∀ n < 10, ∀ m < n, Nat.digitChar m < Nat.digitChar n := by decide
  exact hall n hn m h

section Lexicographic

variable {α : Type} [LT α]

/-- A strict order within an equally long beginning is the order of the whole. -/
theorem append_lt_append_of_lt {xs ys : List α} (h : xs < ys) (hlength : xs.length = ys.length)
    (tail tail' : List α) : xs ++ tail < ys ++ tail' := by
  induction xs generalizing ys with
  | nil =>
      rw [List.length_nil, eq_comm, List.length_eq_zero_iff] at hlength
      subst hlength
      exact absurd h (List.not_lt_nil [])
  | cons x xs ih =>
      obtain _ | ⟨y, ys⟩ := ys
      · cases h
      · rw [List.cons_append, List.cons_append, List.cons_lt_cons_iff]
        rcases List.cons_lt_cons_iff.mp h with hlt | ⟨rfl, hlt⟩
        · exact .inl hlt
        · exact .inr ⟨rfl, ih hlt (Nat.succ.inj hlength)⟩

theorem append_lt_append_left {tail tail' : List α} (xs : List α) (h : tail < tail') :
    xs ++ tail < xs ++ tail' := by
  induction xs with
  | nil => exact h
  | cons x xs ih => exact List.cons_lt_cons_iff.mpr (.inr ⟨rfl, ih⟩)

end Lexicographic

theorem fixedWidth_lt {width m n : Nat} (h : m < n) (hn : n < 10 ^ width) :
    fixedWidth width m < fixedWidth width n := by
  induction width generalizing m n with
  | zero =>
      rw [Nat.pow_zero] at hn
      omega
  | succ width ih =>
      rw [fixedWidth, fixedWidth]
      -- either an earlier digit decides, or the last one does
      by_cases hlast : m / 10 = n / 10
      · rw [hlast]
        apply append_lt_append_left
        rw [List.cons_lt_cons_iff]
        exact .inl (digitChar_lt_digitChar (by omega) (by omega))
      · have hhead : fixedWidth width (m / 10) < fixedWidth width (n / 10) := by
          apply ih
          · omega
          · rw [Nat.pow_succ] at hn
            omega
        exact append_lt_append_of_lt hhead (by simp) _ _

/-- A record: each number in its width, after the text that leads to it. -/
def record : List (String × Nat) → List Nat → List Char
  | (lead, width) :: layout, n :: ns => lead.toList ++ (fixedWidth width n ++ record layout ns)
  | _, _ => []

def Fits : List (String × Nat) → List Nat → Prop
  | (_, width) :: layout, n :: ns => n < 10 ^ width ∧ Fits layout ns
  | [], [] => True
  | _, _ => False

/-- Two records of one layout, whatever follows them, stand in the order of their numbers. -/
theorem record_append_lt {layout : List (String × Nat)} {ms ns : List Nat} (hm : Fits layout ms)
    (hn : Fits layout ns) (h : ms < ns) (tail tail' : List Char) :
    record layout ms ++ tail < record layout ns ++ tail' := by
  induction layout generalizing ms ns with
  | nil =>
      obtain _ | ⟨m, ms⟩ := ms
      · obtain _ | ⟨n, ns⟩ := ns
        · cases h
        · exact hn.elim
      · exact hm.elim
  | cons column layout ih =>
      obtain _ | ⟨m, ms⟩ := ms
      · exact hm.elim
      obtain _ | ⟨n, ns⟩ := ns
      · exact hn.elim
      rw [record, record, List.append_assoc, List.append_assoc, List.append_assoc,
        List.append_assoc]
      apply append_lt_append_left
      rcases List.cons_lt_cons_iff.mp h with hlt | ⟨rfl, hlt⟩
      · exact append_lt_append_of_lt (fixedWidth_lt hlt hn.1) (by simp) _ _
      · apply append_lt_append_left
        exact ih hm.2 hn.2 hlt

end Kin.Lib
