import Mathlib.Data.List.Sort

/-!
`SELECT ... ORDER BY key` over a table whose keys are distinct. The answer does not depend
on the order of the table: it is the strictly increasing list of the selected rows, and
two tables with the same selected rows give the same answer.
-/

namespace Kin.Lib

variable {ρ : Type} (key : ρ → Int)

/-- `ORDER BY key ASC`. -/
def orderBy (rows : List ρ) : List ρ := rows.mergeSort fun a b => decide (key a ≤ key b)

variable {key} {rows rows' : List ρ} {p : ρ → Bool} {r : ρ}

@[simp] theorem mem_orderBy : r ∈ orderBy key rows ↔ r ∈ rows := List.mem_mergeSort

theorem pairwise_orderBy (h : (rows.map key).Nodup) :
    (orderBy key rows).Pairwise fun a b => key a < key b := by
  have hsorted : (orderBy key rows).Pairwise fun a b => decide (key a ≤ key b) = true := by
    apply List.pairwise_mergeSort
    · intro a b c hab hbc
      simp only [decide_eq_true_eq] at hab hbc ⊢
      omega
    · intro a b
      simp only [Bool.or_eq_true, decide_eq_true_eq]
      omega
  have hdistinct : (orderBy key rows).Pairwise fun a b => key a ≠ key b := by
    have hperm : ((orderBy key rows).map key).Perm (rows.map key) :=
      (List.mergeSort_perm rows _).map key
    exact List.pairwise_map.mp (hperm.nodup_iff.mpr h)
  refine (hsorted.and hdistinct).imp ?_
  intro a b hab
  have hle := of_decide_eq_true hab.1
  have hne := hab.2
  omega

theorem filter_orderBy_congr {p' : ρ → Bool} (h : (rows.map key).Nodup)
    (h' : (rows'.map key).Nodup)
    (hmem : ∀ r, (r ∈ rows ∧ p r = true) ↔ (r ∈ rows' ∧ p' r = true)) :
    (orderBy key rows).filter p = (orderBy key rows').filter p' := by
  have : Std.Irrefl fun a b : ρ => key a < key b := ⟨fun a => by omega⟩
  have : Std.Asymm fun a b : ρ => key a < key b := ⟨fun a b hab => by omega⟩
  apply List.Pairwise.eq_of_mem_iff ((pairwise_orderBy h).filter p)
    ((pairwise_orderBy h').filter p')
  intro r
  simpa only [List.mem_filter, mem_orderBy] using hmem r

end Kin.Lib
