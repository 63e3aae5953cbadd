import Mathlib.Data.List.Basic

/-!
Connections to a database. A statement runs in the open transaction, or in one that is opened for
it; a script commits what is open and then runs its statements one by one, each on its own. So a
rollback after a script undoes nothing of it, wherever the script came to its end.
-/

namespace Kin.Lib

variable {δ σ : Type}

/-- What is committed, and the state inside the open transaction. -/
structure Connection (δ : Type) where
  committed : δ
  transaction : Option δ

namespace Connection

variable (c : Connection δ)

def current : δ := c.transaction.getD c.committed

/-- `BEGIN`, which raises inside a transaction. -/
def begin? : Option (Connection δ) :=
  match c.transaction with
  | some _ => none
  | none => some ⟨c.committed, some c.committed⟩

def commit : Connection δ := ⟨c.current, none⟩

def rollback : Connection δ := ⟨c.committed, none⟩

/-- One statement; `none` when it raises. -/
def execute? (f : δ → Option δ) : Option (Connection δ) :=
  (f c.current).map fun d => ⟨c.committed, some d⟩

variable (exec : δ → σ → Option δ)

/-- Statements that are each committed, up to the first that raises; whether all went through. -/
def autocommit : δ → List σ → δ × Bool
  | d, [] => (d, true)
  | d, statement :: statements =>
      match exec d statement with
      | none => (d, false)
      | some d => autocommit d statements

def executescript (script : List σ) : Connection δ × Bool :=
  let result := autocommit exec c.commit.committed script
  (⟨result.1, none⟩, result.2)

@[simp] theorem rollback_idle (d : δ) : rollback ⟨d, none⟩ = ⟨d, none⟩ := rfl

@[simp] theorem begin?_idle (d : δ) : begin? ⟨d, none⟩ = some ⟨d, some d⟩ := rfl

/-- What was begun before the script is committed by it, and nothing is open afterwards. -/
@[simp] theorem executescript_begun (d : δ) (script : List σ) :
    executescript ⟨d, some d⟩ exec script =
      (⟨(autocommit exec d script).1, none⟩, (autocommit exec d script).2) := rfl

variable {exec} {d d' : δ} {done script rest : List σ}

/-- `done` is what runs of the script: all of it, or up to a statement that raises. -/
structure Ran (exec : δ → σ → Option δ) (d : δ) (script done : List σ) (d' : δ) : Prop where
  front : ∃ rest, script = done ++ rest ∧ ∀ s ∈ rest.head?, exec d' s = none
  effect : done.foldlM exec d = some d'

/-- Some part of the script runs, and the state is what it leads to. -/
theorem ran_autocommit (exec : δ → σ → Option δ) (d : δ) (script : List σ) :
    ∃ done, Ran exec d script done (autocommit exec d script).1 := by
  induction script generalizing d with
  | nil => exact ⟨[], ⟨[], rfl, by simp⟩, rfl⟩
  | cons s script ih =>
      cases hs : exec d s with
      | none =>
          have hauto : autocommit exec d (s :: script) = (d, false) := by
            simp only [autocommit, hs]
          refine ⟨[], ⟨s :: script, rfl, ?_⟩, ?_⟩
          · rw [hauto]
            simpa using hs
          · rw [hauto]
            rfl
      | some next =>
          obtain ⟨done, ⟨rest, hrest, hraises⟩, heffect⟩ := ih next
          have hauto : autocommit exec d (s :: script) = autocommit exec next script := by
            simp only [autocommit, hs]
          rw [hauto]
          refine ⟨s :: done, ⟨rest, by rw [hrest, List.cons_append], hraises⟩, ?_⟩
          rw [List.foldlM_cons, hs]
          exact heffect

/-- And only one part does. -/
theorem Ran.autocommit_eq (h : Ran exec d script done d') :
    (autocommit exec d script).1 = d' := by
  obtain ⟨⟨rest, rfl, hraises⟩, heffect⟩ := h
  induction done generalizing d with
  | nil =>
      cases heffect
      cases rest with
      | nil => rfl
      | cons s rest => simp only [List.nil_append, autocommit, hraises s (by simp)]
  | cons s done ih =>
      rw [List.foldlM_cons, Option.bind_eq_bind, Option.bind_eq_some_iff] at heffect
      obtain ⟨next, hs, hnext⟩ := heffect
      simp only [List.cons_append, autocommit, hs]
      exact ih hnext

end Connection

end Kin.Lib
