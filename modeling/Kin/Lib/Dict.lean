import Mathlib.Data.List.Basic

/-!
Finite maps as association lists, in the manner of a scripting language's
dictionary: `set` replaces the entry of a key or appends one, `get?` reads it,
and two dictionaries are the same when they answer every key alike, whatever
the order in which the entries were made.
-/

namespace Kin.Lib

/-- A dictionary: entries in insertion order, at most the first of a key counts. -/
structure Dict (κ υ : Type) where
  entries : List (κ × υ)

namespace Dict

variable {κ υ : Type}

def empty : Dict κ υ := ⟨[]⟩

def isEmpty (d : Dict κ υ) : Bool := d.entries.isEmpty

@[simp] theorem isEmpty_empty : (empty : Dict κ υ).isEmpty = true := rfl

variable [DecidableEq κ]

def get? (d : Dict κ υ) (k : κ) : Option υ :=
  (d.entries.find? fun e => decide (e.1 = k)).map (·.2)

def set (d : Dict κ υ) (k : κ) (v : υ) : Dict κ υ :=
  ⟨d.entries.filter (fun e => !decide (e.1 = k)) ++ [(k, v)]⟩

def ofList (es : List (κ × υ)) : Dict κ υ := es.foldl (fun d e => d.set e.1 e.2) empty

/-- Equality of dictionaries: the same answer for every key. -/
def Same (d d' : Dict κ υ) : Prop := ∀ k, d.get? k = d'.get? k

@[simp] theorem get?_empty (k : κ) : (empty : Dict κ υ).get? k = none := rfl

@[simp] theorem isEmpty_set (d : Dict κ υ) (k : κ) (v : υ) : (d.set k v).isEmpty = false := by
  simp [set, isEmpty]

@[simp] theorem get?_set_self (d : Dict κ υ) (k : κ) (v : υ) : (d.set k v).get? k = some v := by
  have hnone : (d.entries.filter fun e => !decide (e.1 = k)).find? (fun e => decide (e.1 = k)) =
      none := by
    simp [List.find?_eq_none]
  rw [get?, set, List.find?_append, hnone]
  simp

theorem get?_set_of_ne (d : Dict κ υ) {k k' : κ} (v : υ) (h : k' ≠ k) :
    (d.set k v).get? k' = d.get? k' := by
  have hkey : ∀ e : κ × υ, (!decide (e.1 = k) && decide (e.1 = k')) = decide (e.1 = k') := by
    intro e
    by_cases he : e.1 = k'
    · simp [he, h]
    · simp [he]
  simp only [get?, set, List.find?_append, List.find?_filter]
  simp [hkey, Ne.symm h]

theorem get?_set (d : Dict κ υ) (k k' : κ) (v : υ) :
    (d.set k v).get? k' = if k' = k then some v else d.get? k' := by
  split
  · subst k'
    exact get?_set_self d k v
  · exact get?_set_of_ne d v ‹_›

/-- An empty dictionary answers nothing. -/
theorem get?_of_isEmpty {d : Dict κ υ} (h : d.isEmpty = true) (k : κ) : d.get? k = none := by
  simp only [isEmpty, List.isEmpty_iff] at h
  simp [get?, h]

/-- A key that is answered makes the dictionary non-empty. -/
theorem isEmpty_of_get? {d : Dict κ υ} {k : κ} {v : υ} (h : d.get? k = some v) :
    d.isEmpty = false := by
  cases he : d.isEmpty with
  | false => rfl
  | true => simp [get?_of_isEmpty he k] at h

end Dict

end Kin.Lib
