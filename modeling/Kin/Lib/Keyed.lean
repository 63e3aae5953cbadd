import Kin.Lib.Rows
import Mathlib.Data.List.Nodup

/-!
A table with a primary key. A program that reads the row of a key and then inserts or
updates it puts a row into the table: it takes the place of the row with its key, or
goes to the end.
-/

namespace Kin.Lib

structure Keyed {κ ρ : Type} (key : ρ → κ) where
  rows : List ρ
  primaryKey : (rows.map key).Nodup

namespace Keyed

variable {κ ρ : Type} [DecidableEq κ] {key : ρ → κ}

def empty : Keyed key := ⟨[], List.nodup_nil⟩

def find? (t : Keyed key) (k : κ) : Option ρ := Rows.lookup key t.rows k

theorem map_key_modify (rows : List ρ) (r : ρ) :
    (Rows.modify key rows (key r) fun _ => r).map key = rows.map key := by
  rw [Rows.modify, List.map_map]
  apply List.map_congr_left
  intro r' _
  simp only [Function.comp]
  split
  · exact Eq.symm ‹_›
  · rfl

theorem not_mem_of_find? {t : Keyed key} {k : κ} (h : t.find? k = none) : k ∉ t.rows.map key := by
  intro hmem
  obtain ⟨r, hr, rfl⟩ := List.mem_map.mp hmem
  rw [find?, Rows.lookup_of_mem_nodup t.primaryKey hr] at h
  cases h

/-- `INSERT` or `UPDATE` of one row. -/
def put (t : Keyed key) (r : ρ) : Keyed key :=
  match h : t.find? (key r) with
  | some _ =>
      { rows := Rows.modify key t.rows (key r) fun _ => r
        primaryKey := by
          rw [map_key_modify]
          exact t.primaryKey }
  | none =>
      { rows := t.rows ++ [r]
        primaryKey := by
          rw [List.map_append, List.map_singleton, List.nodup_append]
          refine ⟨t.primaryKey, List.nodup_singleton _, ?_⟩
          rintro k hk k' hk' rfl
          rw [List.mem_singleton.mp hk'] at hk
          exact not_mem_of_find? h hk }

variable {t : Keyed key} {r r' : ρ} {k : κ}

@[simp] theorem find?_empty : (empty : Keyed key).find? k = none := rfl

theorem key_of_find? (h : t.find? k = some r) : key r = k := Rows.key_of_lookup h

theorem mem_of_find? (h : t.find? k = some r) : r ∈ t.rows := Rows.mem_of_lookup h

theorem find?_of_mem (h : r ∈ t.rows) : t.find? (key r) = some r :=
  Rows.lookup_of_mem_nodup t.primaryKey h

/-- A row of the table is the one that was put, or an older one with another key. -/
theorem mem_put : r' ∈ (t.put r).rows ↔ r' = r ∨ r' ∈ t.rows ∧ key r' ≠ key r := by
  unfold put
  split
  · rename_i old hold
    have hmem := mem_of_find? hold
    have hkey := key_of_find? hold
    constructor
    · intro h
      obtain ⟨s, hs, rfl⟩ := List.mem_map.mp h
      by_cases hsame : key s = key r
      · rw [if_pos hsame]
        exact .inl rfl
      · rw [if_neg hsame]
        exact .inr ⟨hs, hsame⟩
    · rintro (rfl | ⟨hr', hne⟩)
      · exact List.mem_map.mpr ⟨old, hmem, if_pos hkey⟩
      · exact List.mem_map.mpr ⟨r', hr', if_neg hne⟩
  · rename_i hnone
    have hfresh := not_mem_of_find? hnone
    simp only [List.mem_append, List.mem_singleton]
    constructor
    · rintro (hr' | rfl)
      · exact .inr ⟨hr', fun hsame => hfresh (hsame ▸ List.mem_map_of_mem hr')⟩
      · exact .inl rfl
    · rintro (rfl | ⟨hr', -⟩)
      · exact .inr rfl
      · exact .inl hr'

theorem find?_put_self : (t.put r).find? (key r) = some r :=
  find?_of_mem (mem_put.mpr (.inl rfl))

/-- Rows of other keys are left alone. -/
theorem find?_put_of_ne (h : k ≠ key r) : (t.put r).find? k = t.find? k := by
  cases hk : t.find? k with
  | some old =>
      have hkey := key_of_find? hk
      rw [← hkey]
      exact find?_of_mem (mem_put.mpr (.inr ⟨mem_of_find? hk, by rwa [hkey]⟩))
  | none =>
      cases hput : (t.put r).find? k with
      | none => rfl
      | some s =>
          have hkey := key_of_find? hput
          rcases mem_put.mp (mem_of_find? hput) with rfl | ⟨hs, -⟩
          · exact absurd hkey.symm h
          · exact absurd (hkey ▸ List.mem_map_of_mem hs) (not_mem_of_find? hk)

theorem forall_put {P : ρ → Prop} :
    (∀ r' ∈ (t.put r).rows, P r') ↔ P r ∧ ∀ r' ∈ t.rows, key r' ≠ key r → P r' := by
  constructor
  · intro h
    exact ⟨h r (mem_put.mpr (.inl rfl)), fun r' hr' hne => h r' (mem_put.mpr (.inr ⟨hr', hne⟩))⟩
  · rintro ⟨hr, hothers⟩ r' hr'
    rcases mem_put.mp hr' with rfl | ⟨hmem, hne⟩
    · exact hr
    · exact hothers r' hmem hne

end Keyed

end Kin.Lib
