import Mathlib.Data.List.Basic
import Mathlib.Data.List.Perm.Basic

/-!
Differences of lists. A change keeps some elements and then edits the ones after them; changes and
the elements kept at the end give an old list and a new one. The last section is about changes that
are made with insertions one element too early, and says when that makes no difference.
-/

namespace Kin.Lib

variable {α : Type}

inductive Edit (α : Type)
  | keep (a : α)
  | delete (a : α)
  | insert (a : α)

/-- Elements that are kept, and edits of those that follow. -/
structure Change (α : Type) where
  kept : List α
  edits : List (Edit α)

def oldOfEdits : List (Edit α) → List α
  | [] => []
  | .keep a :: edits => a :: oldOfEdits edits
  | .delete a :: edits => a :: oldOfEdits edits
  | .insert _ :: edits => oldOfEdits edits

def newOfEdits : List (Edit α) → List α
  | [] => []
  | .keep a :: edits => a :: newOfEdits edits
  | .delete _ :: edits => newOfEdits edits
  | .insert a :: edits => a :: newOfEdits edits

namespace Change

def old (c : Change α) : List α := oldOfEdits c.edits

def new (c : Change α) : List α := newOfEdits c.edits

end Change

/-- The list that the changes start from, with the elements kept at its end. -/
def oldOf (changes : List (Change α)) (tail : List α) : List α :=
  changes.flatMap (fun c => c.kept ++ c.old) ++ tail

def newOf (changes : List (Change α)) (tail : List α) : List α :=
  changes.flatMap (fun c => c.kept ++ c.new) ++ tail

@[simp] theorem oldOf_nil (tail : List α) : oldOf [] tail = tail := rfl

@[simp] theorem newOf_nil (tail : List α) : newOf [] tail = tail := rfl

theorem oldOf_cons (c : Change α) (changes : List (Change α)) (tail : List α) :
    oldOf (c :: changes) tail = c.kept ++ (c.old ++ oldOf changes tail) := by
  simp [oldOf]

theorem newOf_cons (c : Change α) (changes : List (Change α)) (tail : List α) :
    newOf (c :: changes) tail = c.kept ++ (c.new ++ newOf changes tail) := by
  simp [newOf]

/-! ### Insertions one element early -/

namespace Change

variable (last : Option α) (c : Change α)

/-- What is to be copied before a change: the element left over from the one before, and those
that are kept. -/
def pending : List α := last.toList ++ c.kept

/-- What is copied: a change that only inserts is made before the last pending element. -/
def copied : List α := if c.old.isEmpty then (c.pending last).dropLast else c.pending last

def leftOver : Option α := if c.old.isEmpty then (c.pending last).getLast? else none

theorem copied_append_leftOver : c.copied last ++ (c.leftOver last).toList = c.pending last := by
  unfold copied leftOver
  split
  · rcases List.eq_nil_or_concat (c.pending last) with hnil | ⟨front, a, hconcat⟩
    · simp [hnil]
    · simp [hconcat]
  · exact List.append_nil _

theorem leftOver_append_old (rest : List α) :
    (c.leftOver last).toList ++ (c.old ++ rest) = c.old ++ ((c.leftOver last).toList ++ rest) := by
  unfold leftOver
  split
  · rename_i hempty
    rw [List.isEmpty_iff.mp hempty, List.nil_append, List.nil_append]
  · rfl

end Change

def insertedEarly : Option α → List (Change α) → List α → List α
  | last, [], tail => last.toList ++ tail
  | last, c :: changes, tail =>
      c.copied last ++ (c.new ++ insertedEarly (c.leftOver last) changes tail)

/-- Each insertion that passes over an element inserts only that element. -/
def PassesEqual : Option α → List (Change α) → Prop
  | _, [] => True
  | last, c :: changes =>
      (∀ a ∈ c.leftOver last, ∀ b ∈ c.new, b = a) ∧ PassesEqual (c.leftOver last) changes

/-- The new list, cut where the first change starts. -/
theorem append_newOf_cons (last : Option α) (c : Change α) (changes : List (Change α))
    (tail : List α) :
    last.toList ++ newOf (c :: changes) tail =
      c.copied last ++ ((c.leftOver last).toList ++ (c.new ++ newOf changes tail)) := by
  rw [newOf_cons, ← List.append_assoc, ← List.append_assoc (c.copied last),
    c.copied_append_leftOver]
  rfl

theorem append_eq_cons_append_iff {a : α} {inserted later rest : List α} :
    inserted ++ later = a :: (inserted ++ rest) ↔ (∀ b ∈ inserted, b = a) ∧ later = a :: rest := by
  induction inserted with
  | nil => simp
  | cons b inserted ih =>
      rw [List.cons_append, List.cons_append, List.cons.injEq, List.forall_mem_cons, and_assoc]
      constructor
      · rintro ⟨rfl, h⟩
        exact ⟨rfl, ih.mp h⟩
      · rintro ⟨rfl, h⟩
        exact ⟨rfl, ih.mpr h⟩

/-- The early insertions give the new list exactly if each passes over equal elements only. -/
theorem insertedEarly_eq_iff (last : Option α) (changes : List (Change α)) (tail : List α) :
    insertedEarly last changes tail = last.toList ++ newOf changes tail ↔
      PassesEqual last changes := by
  induction changes generalizing last with
  | nil => simp [insertedEarly, PassesEqual]
  | cons c changes ih =>
      rw [append_newOf_cons, insertedEarly, PassesEqual, List.append_cancel_left_eq, ← ih]
      cases c.leftOver last with
      | none => simp
      | some a =>
          simp only [Option.toList_some, List.singleton_append, append_eq_cons_append_iff,
            Option.mem_def, Option.some.injEq, forall_eq']

theorem insertedEarly_perm (last : Option α) (changes : List (Change α)) (tail : List α) :
    (insertedEarly last changes tail).Perm (last.toList ++ newOf changes tail) := by
  induction changes generalizing last with
  | nil => exact .refl _
  | cons c changes ih =>
      rw [append_newOf_cons, insertedEarly]
      apply List.Perm.append_left
      exact ((ih (c.leftOver last)).append_left c.new).trans (List.perm_append_comm_assoc ..)

end Kin.Lib
