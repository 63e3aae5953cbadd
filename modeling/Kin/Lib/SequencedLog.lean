import Mathlib.Data.List.Nodup
import Mathlib.Data.List.Pairwise

/-!
Logs in which every entry has a position and some entries carry a number in the
series of their author. A log is well formed when the positions count the
entries and every author's numbers are `1, 2, …, n`; it stays so when an entry
takes the next position and, if it is numbered, the author's next number.
-/

namespace Kin.Lib

section Log

variable {ε α : Type} [DecidableEq α] (order : ε → Nat) (author : ε → α) (number : ε → Option Nat)

def numbersOf (log : List ε) (a : α) : List Nat :=
  (log.filter fun e => decide (author e = a)).filterMap number

/-- Positions count from zero, and every author's numbers count from one. -/
structure Sequenced (log : List ε) : Prop where
  positions : log.map order = List.range log.length
  numbered : ∀ a, numbersOf author number log a =
    List.range' 1 (numbersOf author number log a).length

variable {order author number}

theorem sequenced_nil : Sequenced order author number [] where
  positions := rfl
  numbered _ := rfl

theorem numbersOf_append (log log' : List ε) (a : α) :
    numbersOf author number (log ++ log') a =
      numbersOf author number log a ++ numbersOf author number log' a := by
  simp [numbersOf]

theorem numbersOf_singleton (e : ε) (a : α) :
    numbersOf author number [e] a = if author e = a then (number e).toList else [] := by
  unfold numbersOf
  by_cases h : author e = a
  · cases hn : number e <;> simp [h, hn]
  · simp [h]

/-- The rule for one more entry. -/
theorem Sequenced.append {log : List ε} (h : Sequenced order author number log) {e : ε}
    (horder : order e = log.length)
    (hnumber : ∀ n, number e = some n → n = (numbersOf author number log (author e)).length + 1) :
    Sequenced order author number (log ++ [e]) where
  positions := by
    rw [List.map_append, h.positions, List.map_singleton, horder, List.length_append,
      List.length_singleton, List.range_succ]
  numbered a := by
    rw [numbersOf_append, numbersOf_singleton]
    split
    · rename_i ha
      subst ha
      cases hn : number e with
      | none => simpa using h.numbered (author e)
      | some n =>
          rw [hnumber n hn, Option.toList_some, List.length_append, List.length_singleton,
            List.range'_1_concat, ← h.numbered (author e), Nat.add_comm 1]
    · simpa using h.numbered a

/-- An author's number is that of one entry. -/
theorem Sequenced.unique {log : List ε} (h : Sequenced order author number log) {e e' : ε}
    (he : e ∈ log) (he' : e' ∈ log) (hauthor : author e = author e') {n : Nat}
    (hn : number e = some n) (hn' : number e' = some n) : e = e' := by
  have hnodup : ((log.filter fun x => decide (author x = author e')).filterMap number).Nodup := by
    have hnumbered := h.numbered (author e')
    rw [numbersOf] at hnumbered
    rw [hnumbered]
    exact List.nodup_range'
  have hpair := List.pairwise_filterMap.mp hnodup
  have : Std.Symm fun x y : ε => ∀ b, number x = some b → ∀ b', number y = some b' → b ≠ b' :=
    ⟨fun x y hxy b hb b' hb' => (hxy b' hb' b hb).symm⟩
  have hmem : e ∈ log.filter fun x => decide (author x = author e') := by simp [he, hauthor]
  have hmem' : e' ∈ log.filter fun x => decide (author x = author e') := by simp [he']
  by_contra hne
  exact hpair.forall hmem hmem' hne n hn n hn' rfl

end Log

/-! ### Counting by the maximum -/

theorem max?_concat (l : List Nat) (n : Nat) :
    (l ++ [n]).max? = some (max n (l.max?.getD n)) := by
  rw [List.max?_eq_some_iff]
  cases hl : l.max? with
  | none =>
      rw [List.max?_eq_none_iff] at hl
      simp [hl]
  | some m =>
      obtain ⟨hm, hle⟩ := List.max?_eq_some_iff.mp hl
      rw [Option.getD_some]
      refine ⟨?_, ?_⟩
      · rcases Nat.le_total n m with h | h
        · simp [Nat.max_eq_right h, hm]
        · simp [Nat.max_eq_left h]
      · intro b hb
        rcases List.mem_append.mp hb with hb | hb
        · exact Nat.le_trans (hle b hb) (Nat.le_max_right n m)
        · rw [List.mem_singleton.mp hb]
          exact Nat.le_max_left n m

/-- The maximum of `1, …, n` is `n`. -/
theorem max?_range' (n : Nat) : ((List.range' 1 n).max?).getD 0 = n := by
  cases n with
  | zero => rfl
  | succ n =>
      have h : (List.range' 1 (n + 1)).max? = some (n + 1) := by
        rw [List.max?_eq_some_iff]
        exact ⟨by simp [List.mem_range'_1],
          fun b hb => by rw [List.mem_range'_1] at hb; omega⟩
      rw [h, Option.getD_some]

theorem max?_range_succ (n : Nat) : (List.range (n + 1)).max? = some n := by
  rw [List.max?_eq_some_iff]
  exact ⟨by simp, fun b hb => by rw [List.mem_range] at hb; omega⟩

end Kin.Lib
