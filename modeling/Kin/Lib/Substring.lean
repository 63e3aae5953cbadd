import Mathlib.Data.List.Infix

/-!
Substrings of texts that are translated letter by letter. Two translations that agree, except on
letters that the first keeps and that are outside a set, have the same substrings in that set.
-/

namespace Kin.Lib

variable {α β : Type} {f g : α → List β} {S : β → Prop}

/-- The translations agree on the letter, or the first has a letter outside of `S` for it. -/
def SameWithin (S : β → Prop) (f g : α → List β) : Prop :=
  ∀ a, g a = f a ∨ ∃ x, f a = [x] ∧ ¬S x

theorem prefix_flatMap_of_sameWithin (hsame : SameWithin S f g) {u : List β} (hu : ∀ x ∈ u, S x)
    {text : List α} (h : u <+: text.flatMap f) : u <+: text.flatMap g := by
  induction text generalizing u with
  | nil => exact h
  | cons a text ih =>
      rw [List.flatMap_cons] at h ⊢
      rcases hsame a with hfg | ⟨x, hx, hnot⟩
      · rw [hfg]
        rcases List.prefix_or_prefix_of_prefix h (List.prefix_append (f a) _) with hshort | hlong
        · exact hshort.trans (List.prefix_append _ _)
        · obtain ⟨rest, rfl⟩ := hlong
          rw [List.prefix_append_right_inj] at h ⊢
          exact ih (fun y hy => hu y (List.mem_append_right _ hy)) h
      · cases u with
        | nil => exact List.nil_prefix
        | cons y u =>
            rw [hx, List.singleton_append, List.cons_prefix_cons] at h
            exact absurd (h.1 ▸ hu y List.mem_cons_self) hnot

/-- A substring in `S` of the one translation is one of the other. -/
theorem infix_flatMap_of_sameWithin (hsame : SameWithin S f g) {u : List β} (hu : ∀ x ∈ u, S x)
    {text : List α} (h : u <:+: text.flatMap f) : u <:+: text.flatMap g := by
  induction text with
  | nil => exact h
  | cons a text ih =>
      rw [List.flatMap_cons] at h ⊢
      rcases List.infix_append_iff.mp h with hhead | htail | ⟨u₁, u₂, rfl, hsuffix, hprefix⟩
      · rcases hsame a with hfg | ⟨x, hx, hnot⟩
        · rw [hfg]
          exact hhead.trans List.infix_append_left
        · cases u with
          | nil => exact List.nil_infix
          | cons y u =>
              rw [hx] at hhead
              have hy : y = x := List.mem_singleton.mp (hhead.subset List.mem_cons_self)
              exact absurd (hy ▸ hu y List.mem_cons_self) hnot
      · exact (ih htail).trans List.infix_append_right
      · have hprefix' := prefix_flatMap_of_sameWithin hsame
          (fun y hy => hu y (List.mem_append_right _ hy)) hprefix
        rcases hsame a with hfg | ⟨x, hx, hnot⟩
        · rw [hfg]
          exact List.infix_append_iff.mpr (.inr (.inr ⟨u₁, u₂, rfl, hsuffix, hprefix'⟩))
        · cases u₁ with
          | nil => exact hprefix'.isInfix.trans List.infix_append_right
          | cons y u₁ =>
              rw [hx] at hsuffix
              have hy : y = x := List.mem_singleton.mp (hsuffix.subset List.mem_cons_self)
              exact absurd (hy ▸ hu y List.mem_cons_self) hnot

end Kin.Lib
