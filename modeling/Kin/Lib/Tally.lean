import Mathlib.Algebra.GroupWithZero.Nat
import Mathlib.Algebra.Order.BigOperators.Group.List
import Mathlib.Logic.Function.Basic

/-!
Counters kept beside a growing list of items: each owner's counter is meant to
hold the weight of the owner's items. The tally stays balanced when counters are
opened at zero and when an item and its weight arrive together; a weight that is
counted without its item breaks it for good.
-/

namespace Kin.Lib

section

variable {ι κ : Type}

/-- At most new counters, which start at zero. -/
def CountersOpen (counter counter' : κ → Option Nat) : Prop :=
  ∀ k, counter' k = counter k ∨ counter k = none ∧ counter' k = some 0

theorem CountersOpen.refl (counter : κ → Option Nat) : CountersOpen counter counter :=
  fun _ => .inl rfl

theorem CountersOpen.trans {counter counter' counter'' : κ → Option Nat}
    (h : CountersOpen counter counter') (h' : CountersOpen counter' counter'') :
    CountersOpen counter counter'' := by
  intro k
  rcases h k with hk | ⟨hnone, hzero⟩
  · rw [← hk]
    exact h' k
  · rcases h' k with hk' | ⟨hnone', -⟩
    · exact .inr ⟨hnone, hk'.trans hzero⟩
    · rw [hzero] at hnone'
      cases hnone'

/-- A counter that is there stays. -/
theorem CountersOpen.isSome {counter counter' : κ → Option Nat} (h : CountersOpen counter counter')
    {k : κ} (hk : (counter k).isSome = true) : (counter' k).isSome = true := by
  rcases h k with heq | ⟨hnone, -⟩
  · rw [heq]
    exact hk
  · rw [hnone] at hk
    cases hk

variable [DecidableEq κ] (owner : ι → κ) (weight : ι → Nat)

def total (items : List ι) (k : κ) : Nat :=
  ((items.filter fun i => decide (owner i = k)).map weight).sum

def Counted (items : List ι) (counter : κ → Option Nat) : Prop :=
  ∀ k n, counter k = some n → n = total owner weight items k

structure Balanced (items : List ι) (counter : κ → Option Nat) : Prop where
  counted : Counted owner weight items counter
  owned : ∀ i ∈ items, (counter (owner i)).isSome = true

def bump (counter : κ → Option Nat) (k : κ) (n : Nat) : κ → Option Nat :=
  Function.update counter k ((counter k).map (· + n))

variable {owner weight} {items : List ι} {counter counter' : κ → Option Nat}

theorem total_append (items items' : List ι) (k : κ) :
    total owner weight (items ++ items') k =
      total owner weight items k + total owner weight items' k := by
  simp [total]

theorem total_singleton (i : ι) (k : κ) :
    total owner weight [i] k = if owner i = k then weight i else 0 := by
  unfold total
  by_cases h : owner i = k
  · simp [h]
  · simp [h]

/-- An owner without items. -/
theorem total_eq_zero {k : κ} (h : ∀ i ∈ items, owner i ≠ k) : total owner weight items k = 0 := by
  have hnone : (items.filter fun i => decide (owner i = k)) = [] := by
    simpa [List.filter_eq_nil_iff] using h
  rw [total, hnone, List.map_nil, List.sum_nil]

theorem Balanced.opened (h : Balanced owner weight items counter)
    (hopen : CountersOpen counter counter') : Balanced owner weight items counter' where
  counted := by
    intro k n hn
    rcases hopen k with hk | ⟨hnone, hzero⟩
    · exact h.counted k n (hk.symm.trans hn)
    · rw [hzero] at hn
      cases hn
      -- nobody's item can have waited for this counter
      refine (total_eq_zero fun i hi howner => ?_).symm
      have hsome := h.owned i hi
      rw [howner, hnone] at hsome
      cases hsome
  owned := by
    intro i hi
    rcases hopen (owner i) with hk | ⟨-, hzero⟩
    · rw [hk]
      exact h.owned i hi
    · rw [hzero]
      rfl

/-- A wrong counter is not put right by new ones. -/
theorem not_counted_of_opened (h : ¬Counted owner weight items counter)
    (hopen : CountersOpen counter counter') : ¬Counted owner weight items counter' := by
  intro hcounted
  apply h
  intro k n hn
  rcases hopen k with hk | ⟨hnone, -⟩
  · exact hcounted k n (hk.trans hn)
  · rw [hnone] at hn
    cases hn

/-- An item arrives with its weight. -/
theorem Balanced.add (h : Balanced owner weight items counter) {i : ι}
    (hi : (counter (owner i)).isSome = true) :
    Balanced owner weight (items ++ [i]) (bump counter (owner i) (weight i)) where
  counted := by
    intro k n hn
    rw [total_append, total_singleton]
    by_cases hk : owner i = k
    · subst hk
      obtain ⟨m, hm⟩ := Option.isSome_iff_exists.mp hi
      rw [bump, Function.update_self, hm, Option.map_some, Option.some.injEq] at hn
      rw [if_pos rfl, ← h.counted _ m hm]
      exact hn.symm
    · rw [bump, Function.update_of_ne (Ne.symm hk)] at hn
      rw [if_neg hk, Nat.add_zero]
      exact h.counted k n hn
  owned := by
    intro i' hi'
    have hsome : (counter (owner i')).isSome = true := by
      rcases List.mem_append.mp hi' with hold | hnew
      · exact h.owned i' hold
      · rw [List.mem_singleton.mp hnew]
        exact hi
    by_cases hk : owner i' = owner i
    · rw [bump, hk, Function.update_self, Option.isSome_map]
      exact hi
    · rw [bump, Function.update_of_ne hk]
      exact hsome

theorem Balanced.not_counted_bump (h : Balanced owner weight items counter) {k : κ} {n : Nat}
    (hk : (counter k).isSome = true) (hn : 0 < n) :
    ¬Counted owner weight items (bump counter k n) := by
  intro hcounted
  obtain ⟨m, hm⟩ := Option.isSome_iff_exists.mp hk
  have hbumped : bump counter k n k = some (m + n) := by
    rw [bump, Function.update_self, hm, Option.map_some]
  have hright := h.counted k m hm
  have hwrong := hcounted k (m + n) hbumped
  omega

@[simp] theorem bump_zero (k : κ) : bump counter k 0 = counter := by
  simp [bump]

end

end Kin.Lib
