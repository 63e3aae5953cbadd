import Mathlib.Data.List.Basic

/-!
Histories of a value that is seen again and again, and reviewed now and then. What
stands approved is the value that was seen last when it was reviewed last, and before
any review the value that was seen first.
-/

namespace Kin.Lib

inductive Happening (κ υ : Type)
  | seen (k : κ) (v : υ)
  | reviewed (k : κ)

section

variable {κ υ : Type}

/-- A review inside a longer history, when the last happening is something else. -/
theorem split_of_snoc {history before after : List (Happening κ υ)}
    {happening : Happening κ υ} {k : κ} (hne : happening ≠ .reviewed k)
    (h : history ++ [happening] = before ++ .reviewed k :: after) :
    ∃ after', after = after' ++ [happening] ∧ history = before ++ .reviewed k :: after' := by
  rcases List.eq_nil_or_concat after with rfl | ⟨after', last, rfl⟩
  · have hlast := (List.append_inj' h rfl).2
    rw [List.cons.injEq] at hlast
    exact absurd hlast.1 hne
  · rw [List.concat_eq_append, ← List.cons_append, ← List.append_assoc] at h
    obtain ⟨hfront, hlast⟩ := List.append_inj' h rfl
    rw [List.cons.injEq] at hlast
    exact ⟨after', by rw [List.concat_eq_append, hlast.1], hfront⟩

variable [DecidableEq κ]

/-- The values seen under a key, in order. -/
def seenOf (history : List (Happening κ υ)) (k : κ) : List υ :=
  history.filterMap fun happening =>
    match happening with
    | .seen k' v => if k' = k then some v else none
    | .reviewed _ => none

/-- The value stands approved: it is the first one seen and no review came after it, or
the last one seen before the last review. -/
inductive Approved (history : List (Happening κ υ)) (k : κ) (v : υ) : Prop
  | first (hfirst : (seenOf history k).head? = some v)
      (hreviews : ∀ before after, history = before ++ .reviewed k :: after → seenOf before k = [])
  | reviewed (before after : List (Happening κ υ)) (hsplit : history = before ++ .reviewed k :: after)
      (hlast : (seenOf before k).getLast? = some v) (hnone : Happening.reviewed k ∉ after)

variable {history : List (Happening κ υ)} {happening : Happening κ υ} {k : κ} {v : υ}

theorem seenOf_append (history history' : List (Happening κ υ)) (k : κ) :
    seenOf (history ++ history') k = seenOf history k ++ seenOf history' k :=
  List.filterMap_append

@[simp] theorem seenOf_seen_self (k : κ) (v : υ) : seenOf [.seen k v] k = [v] := by
  simp [seenOf]

theorem seenOf_seen_of_ne {k' : κ} (h : k' ≠ k) (v : υ) : seenOf [.seen k' v] k = [] := by
  simp [seenOf, h]

@[simp] theorem seenOf_reviewed (k k' : κ) :
    seenOf ([.reviewed k'] : List (Happening κ υ)) k = [] := rfl

/-- What stands approved stays so until the next review. -/
theorem Approved.snoc (h : Approved history k v) (hne : happening ≠ .reviewed k) :
    Approved (history ++ [happening]) k v := by
  cases h with
  | first hfirst hreviews =>
      refine .first ?_ fun before after hsplit => ?_
      · rw [seenOf_append, List.head?_append, hfirst]
        rfl
      · obtain ⟨after', -, hhistory⟩ := split_of_snoc hne hsplit
        exact hreviews before after' hhistory
  | reviewed before after hsplit hlast hnone =>
      refine .reviewed before (after ++ [happening]) ?_ hlast ?_
      · rw [hsplit, List.append_assoc, List.cons_append]
      · rw [List.mem_append, List.mem_singleton, not_or]
        exact ⟨hnone, Ne.symm hne⟩

/-- The first value that is seen stands approved. -/
theorem approved_first (hnone : seenOf history k = []) :
    Approved (history ++ [.seen k v]) k v := by
  refine .first ?_ fun before after hsplit => ?_
  · rw [seenOf_append, hnone, seenOf_seen_self]
    rfl
  · obtain ⟨after', -, hhistory⟩ := split_of_snoc (by intro h; cases h) hsplit
    rw [hhistory, seenOf_append] at hnone
    exact (List.append_eq_nil_iff.mp hnone).1

theorem approved_review (hlast : (seenOf history k).getLast? = some v) :
    Approved (history ++ [.reviewed k]) k v :=
  .reviewed history [] rfl hlast List.not_mem_nil

end

end Kin.Lib
