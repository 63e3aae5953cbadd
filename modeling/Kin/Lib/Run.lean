import Mathlib.Data.List.Basic

/-!
Runs of a machine with a total step function, and the two rules that carry a
fact about one step to a whole run: an invariant of the states, and a condition
on the steps that were taken.
-/

namespace Kin.Lib

variable {σ ο : Type}

def run (step : σ → ο → σ) (s : σ) (ops : List ο) : σ := ops.foldl step s

/-- Every operation of the run satisfies `C` in the state it is applied to. -/
def Along (step : σ → ο → σ) (C : σ → ο → Prop) : σ → List ο → Prop
  | _, [] => True
  | s, op :: ops => C s op ∧ Along step C (step s op) ops

instance Along.decidable (step : σ → ο → σ) (C : σ → ο → Prop) [∀ s op, Decidable (C s op)] :
    (s : σ) → (ops : List ο) → Decidable (Along step C s ops)
  | _, [] => .isTrue trivial
  | s, op :: ops =>
      have := Along.decidable step C (step s op) ops
      inferInstanceAs (Decidable (C s op ∧ Along step C (step s op) ops))

/-- How many operations of the run satisfy `p` in the state they are applied to. -/
def countAlong (step : σ → ο → σ) (p : σ → ο → Bool) : σ → List ο → Nat
  | _, [] => 0
  | s, op :: ops => (if p s op then 1 else 0) + countAlong step p (step s op) ops

section

variable {step : σ → ο → σ}

@[simp] theorem run_nil (s : σ) : run step s [] = s := rfl

@[simp] theorem run_cons (s : σ) (op : ο) (ops : List ο) :
    run step s (op :: ops) = run step (step s op) ops := rfl

theorem run_append (s : σ) (ops ops' : List ο) :
    run step s (ops ++ ops') = run step (run step s ops) ops' := by
  simp [run, List.foldl_append]

variable {I : σ → Prop} {C D : σ → ο → Prop}

theorem along_append {s : σ} {ops ops' : List ο} :
    Along step C s (ops ++ ops') ↔ Along step C s ops ∧ Along step C (run step s ops) ops' := by
  induction ops generalizing s with
  | nil => simp [Along]
  | cons op ops ih => simp [Along, ih, and_assoc]

/-- The condition of every step, by what was taken before it. -/
theorem along_iff_prefix {s : σ} {ops : List ο} :
    Along step C s ops ↔ ∀ before op, before ++ [op] <+: ops → C (run step s before) op := by
  constructor
  · intro h before op hprefix
    obtain ⟨rest, rfl⟩ := hprefix
    rw [along_append, along_append] at h
    exact h.1.2.1
  · intro h
    induction ops generalizing s with
    | nil => trivial
    | cons op ops ih =>
        refine ⟨h [] op ⟨ops, rfl⟩, ih fun before op' hprefix => ?_⟩
        obtain ⟨rest, rfl⟩ := hprefix
        exact h (op :: before) op' ⟨rest, rfl⟩

/-- A condition on the operations alone. -/
theorem along_of_mem {P : ο → Prop} (s : σ) {ops : List ο} (h : ∀ op ∈ ops, P op) :
    Along step (fun _ op => P op) s ops := by
  induction ops generalizing s with
  | nil => trivial
  | cons op ops ih =>
      exact ⟨h op List.mem_cons_self, ih _ fun op' hop' => h op' (List.mem_cons_of_mem op hop')⟩

/-- An invariant that every step satisfying `C` keeps holds after a run of such steps. -/
theorem run_of_along (hstep : ∀ s op, I s → C s op → I (step s op)) {s : σ} (hs : I s)
    {ops : List ο} (h : Along step C s ops) : I (run step s ops) := by
  induction ops generalizing s with
  | nil => exact hs
  | cons op ops ih => exact ih (hstep s op hs h.1) h.2

theorem run_invariant (hstep : ∀ s op, I s → I (step s op)) {s : σ} (hs : I s)
    (ops : List ο) : I (run step s ops) := by
  induction ops generalizing s with
  | nil => exact hs
  | cons op ops ih => exact ih (hstep s op hs)

/-- Where one step keeps the invariant exactly when it meets the condition, the invariant
holds of every state reached exactly when every step meets it. -/
theorem forall_prefix_iff_along (hstep : ∀ s op, I s → (I (step s op) ↔ C s op)) {s : σ}
    (hs : I s) {ops : List ο} :
    (∀ before, before <+: ops → I (run step s before)) ↔ Along step C s ops := by
  constructor
  · intro h
    refine along_iff_prefix.mpr fun before op hprefix => ?_
    have hbefore := h before ((List.prefix_append before [op]).trans hprefix)
    have hafter := h (before ++ [op]) hprefix
    rw [run_append, run_cons, run_nil] at hafter
    exact (hstep _ op hbefore).mp hafter
  · rintro h before ⟨rest, rfl⟩
    exact run_of_along (fun s op hs hC => (hstep s op hs).mpr hC) hs (along_append.mp h).1

/-- What `C` gives at one step, given the invariant, it gives along a run. -/
theorem along_of_invariant (hstep : ∀ s op, I s → C s op → I (step s op))
    (hD : ∀ s op, I s → C s op → D s op) {s : σ} (hs : I s) {ops : List ο}
    (h : Along step C s ops) : Along step D s ops := by
  induction ops generalizing s with
  | nil => trivial
  | cons op ops ih => exact ⟨hD s op hs h.1, ih (hstep s op hs h.1) h.2⟩

/-- A condition that every step satisfies. -/
theorem along_of_forall (h : ∀ s op, C s op) (s : σ) (ops : List ο) : Along step C s ops := by
  induction ops generalizing s with
  | nil => trivial
  | cons op ops ih => exact ⟨h s op, ih _⟩

theorem Along.mono (hCD : ∀ s op, C s op → D s op) {s : σ} {ops : List ο}
    (h : Along step C s ops) : Along step D s ops :=
  along_of_invariant (I := fun _ => True) (fun _ _ _ _ => trivial)
    (fun s op _ hC => hCD s op hC) trivial h

theorem Along.and {s : σ} {ops : List ο} (hC : Along step C s ops) (hD : Along step D s ops) :
    Along step (fun s op => C s op ∧ D s op) s ops := by
  induction ops generalizing s with
  | nil => trivial
  | cons op ops ih => exact ⟨⟨hC.1, hD.1⟩, ih hC.2 hD.2⟩

end

end Kin.Lib
