import Mathlib.Data.List.Basic

/-!
Rows of a relational table with a key column, as the statements of a program
see them: a query by key returns the first row with that key, an update
rewrites every row with it, an insert goes to the end. The lemmas say what a
query by key sees after an update or an insert; none of them asks for the
keys to be distinct, because `SELECT ... WHERE key = ?` followed by `fetchone`
does not either.
-/

namespace Kin.Lib.Rows

variable {κ ρ : Type} [DecidableEq κ]

/-- `SELECT * FROM rows WHERE key = k`, first row. -/
def lookup (key : ρ → κ) (rows : List ρ) (k : κ) : Option ρ :=
  rows.find? fun r => decide (key r = k)

/-- `UPDATE rows SET ... WHERE key = k`. -/
def modify (key : ρ → κ) (rows : List ρ) (k : κ) (f : ρ → ρ) : List ρ :=
  rows.map fun r => if key r = k then f r else r

variable {key : ρ → κ} {rows : List ρ} {k k' : κ} {f : ρ → ρ} {r : ρ}

@[simp] theorem lookup_nil : lookup key [] k = none := rfl

theorem lookup_cons : lookup key (r :: rows) k =
    if key r = k then some r else lookup key rows k := by
  simp only [lookup, List.find?_cons]
  split <;> simp_all

theorem key_of_lookup (h : lookup key rows k = some r) : key r = k := by
  simpa using List.find?_some h

theorem mem_of_lookup (h : lookup key rows k = some r) : r ∈ rows :=
  List.mem_of_find?_eq_some h

/-- An update is what the next query by the same key sees. -/
theorem lookup_modify_self (hf : ∀ r, key (f r) = key r) :
    lookup key (modify key rows k f) k = (lookup key rows k).map f := by
  induction rows with
  | nil => rfl
  | cons r rows ih =>
      rw [modify, List.map_cons, lookup_cons, lookup_cons]
      by_cases hr : key r = k
      · simp [hr, hf r]
      · rw [if_neg hr, if_neg hr]
        rw [if_neg hr]
        exact ih

theorem lookup_modify_of_ne (hf : ∀ r, key (f r) = key r) (h : k' ≠ k) :
    lookup key (modify key rows k f) k' = lookup key rows k' := by
  induction rows with
  | nil => rfl
  | cons r rows ih =>
      rw [modify, List.map_cons, lookup_cons, lookup_cons]
      by_cases hr : key r = k
      · have hk' : ¬key r = k' := fun e => h (e.symm.trans hr)
        rw [if_pos hr, hf r, if_neg hk', if_neg hk']
        exact ih
      · rw [if_neg hr]
        split
        · rfl
        · exact ih

theorem lookup_append : lookup key (rows ++ [r]) k =
    (lookup key rows k).or (if key r = k then some r else none) := by
  induction rows with
  | nil => simp [lookup_cons]
  | cons s rows ih =>
      rw [List.cons_append, lookup_cons, lookup_cons]
      split
      · simp
      · exact ih

theorem lookup_append_of_ne (h : k ≠ key r) :
    lookup key (rows ++ [r]) k = lookup key rows k := by
  rw [lookup_append, if_neg (Ne.symm h), Option.or_none]

theorem lookup_append_fresh (h : lookup key rows (key r) = none) :
    lookup key (rows ++ [r]) (key r) = some r := by
  rw [lookup_append, h, if_pos rfl, Option.none_or]

/-- With distinct keys, a row is what the query by its key finds. -/
theorem lookup_of_mem_nodup (hkeys : (rows.map key).Nodup) (h : r ∈ rows) :
    lookup key rows (key r) = some r := by
  induction rows with
  | nil => cases h
  | cons s rows ih =>
      rw [List.map_cons, List.nodup_cons] at hkeys
      rw [lookup_cons]
      rcases List.mem_cons.mp h with rfl | hmem
      · rw [if_pos rfl]
      · have hne : key s ≠ key r := fun e => hkeys.1 (e ▸ List.mem_map_of_mem hmem)
        rw [if_neg hne]
        exact ih hkeys.2 hmem

/-- An update that leaves every row with the key as it is changes nothing. -/
theorem modify_eq_self (h : ∀ r ∈ rows, key r = k → f r = r) : modify key rows k f = rows := by
  rw [modify]
  conv_rhs => rw [← List.map_id rows]
  apply List.map_congr_left
  intro r hr
  by_cases hk : key r = k
  · simp [hk, h r hr hk]
  · simp [hk]

end Kin.Lib.Rows
