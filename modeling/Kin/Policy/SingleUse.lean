import Kin.Lib.Run
import Kin.Policy.Authority

/-!
Concurrent calls of `evaluate_action_for_session` on connections to one database.
A call is two statements, the `SELECT` that finds the approval and the `UPDATE` that
marks it, and another connection may run its own in between. The `UPDATE` has no
condition on `consumed_at`, so that what the `SELECT` saw is all that keeps a
single-use approval single.
-/

namespace Kin.Policy

open Kin.Py Kin.Lib Kin.Schemas Kin.Session Kin.Storage

/-- How far a call has come. `account` is the single-use approval on account of which
it was allowed. -/
inductive CallPhase
  | idle
  | marking (approvalId now : String) (result : PolicyResult)
  | returned (result : Except PyExc PolicyResult) (account : Option String)

/-- The table, and the calls by number. -/
structure Evaluations where
  approvals : List ApprovalRow
  calls : Nat → CallPhase

inductive Statement
  | select (call : Nat) (e : Evaluation)
  | update (call : Nat)

/-- What a call does on the answer to its `SELECT`. -/
def CallPhase.afterSelect (e : Evaluation) (row : Option ApprovalRow) : CallPhase :=
  match verdict e row with
  | .error err => .returned (.error err) none
  | .ok result =>
      match spent result row with
      | some approvalId => .marking approvalId e.now result
      | none => .returned (.ok result) none

def Evaluations.step (s : Evaluations) : Statement → Evaluations
  | .select call e =>
      match s.calls call with
      | .idle =>
          { s with
            calls := Function.update s.calls call
              (.afterSelect e (selectApproval e s.approvals)) }
      | _ => s
  | .update call =>
      match s.calls call with
      | .marking approvalId now result =>
          { approvals := markConsumed s.approvals approvalId now
            calls := Function.update s.calls call (.returned (.ok result) (some approvalId)) }
      | _ => s

def Evaluations.start (approvals : List ApprovalRow) : Evaluations :=
  { approvals, calls := fun _ => .idle }

/-- A call on its own is `evaluate_action_for_session`. -/
theorem calls_of_select_update (e : Evaluation) (s : Evaluations) (call : Nat)
    (hidle : s.calls call = .idle) :
    (run Evaluations.step s [.select call e, .update call]).approvals =
        (evaluateActionForSession e s.approvals).1 ∧
      ∃ account, (run Evaluations.step s [.select call e, .update call]).calls call =
        .returned (evaluateActionForSession e s.approvals).2 account := by
  simp only [run_cons, run_nil, Evaluations.step, hidle, Function.update_self,
    CallPhase.afterSelect, evaluateActionForSession]
  cases hverdict : verdict e (selectApproval e s.approvals) with
  | error err => simp
  | ok result =>
      cases hspent : spent result (selectApproval e s.approvals) with
      | none => simp [hspent]
      | some approvalId => simp [hspent]

/-- The call returned `ALLOW` on account of the approval. -/
def Evaluations.AllowedBy (s : Evaluations) (approvalId : String) (call : Nat) : Prop :=
  ∃ result, s.calls call = .returned (.ok result) (some approvalId) ∧ result.decision = .allow

def Evaluations.SingleUse (s : Evaluations) : Prop :=
  ∀ approvalId call other, s.AllowedBy approvalId call → s.AllowedBy approvalId other →
    call = other

/-- A call that begins does not find a single-use approval that another call has found
and not marked yet, unless the card forbids the action anyway. -/
def Evaluations.Alone (s : Evaluations) : Statement → Prop
  | .select call e => s.calls call = .idle → hardBoundary e.card e.actionClass = none →
      ∀ row, selectApproval e s.approvals = some row → row.decision = some "approve_once" →
        ∀ other now result, s.calls other ≠ .marking row.approvalId now result
  | .update _ => True

/-! ### The invariant -/

inductive CallPhase.Holds (approvalId : String) : CallPhase → Prop
  | marking (now : String) (result : PolicyResult) : Holds approvalId (.marking approvalId now result)
  | returned (result : Except PyExc PolicyResult) : Holds approvalId (.returned result (some approvalId))

structure Evaluations.Exclusive (s : Evaluations) : Prop where
  one : ∀ approvalId call other, (s.calls call).Holds approvalId →
    (s.calls other).Holds approvalId → call = other
  marked : ∀ approvalId call result, s.calls call = .returned result (some approvalId) →
    ∀ row ∈ s.approvals, row.approvalId = approvalId → row.consumedAt ≠ none

theorem exclusive_start (approvals : List ApprovalRow) : (Evaluations.start approvals).Exclusive where
  one _ _ _ h _ := nomatch h
  marked _ _ _ h := nomatch h

theorem spent_eq_some {result : PolicyResult} {row : Option ApprovalRow} {approvalId : String}
    (h : spent result row = some approvalId) :
    result.decision = .allow ∧ ∃ r, row = some r ∧ r.approvalId = approvalId ∧
      r.decision = some "approve_once" := by
  unfold spent at h
  split at h
  · rename_i hallow
    obtain ⟨r, hr, rfl⟩ := Option.map_eq_some_iff.mp h
    obtain ⟨hrow, honce⟩ := Option.filter_eq_some_iff.mp hr
    exact ⟨hallow, r, hrow, rfl, beq_iff_eq.mp honce⟩
  · cases h

/-- A call that holds an approval after its `SELECT` found it unmarked, and the card
does not forbid the action. -/
theorem found_of_afterSelect {e : Evaluation} {approvals : List ApprovalRow} {approvalId : String}
    (h : (CallPhase.afterSelect e (selectApproval e approvals)).Holds approvalId) :
    hardBoundary e.card e.actionClass = none ∧
      ∃ row ∈ approvals, selectApproval e approvals = some row ∧ row.approvalId = approvalId ∧
        row.decision = some "approve_once" ∧ row.consumedAt = none := by
  unfold CallPhase.afterSelect at h
  split at h
  · cases h
  · rename_i result hverdict
    split at h
    · rename_i found hspent
      obtain ⟨hallow, row, hrow, hid, honce⟩ := spent_eq_some hspent
      cases h
      have hgrants := authorises_of_select hrow (.inl honce)
      refine ⟨(allow_of_verdict hverdict hallow).1, row, hgrants.mem, hrow, hid, honce, ?_⟩
      rcases hgrants.grants with ⟨-, hunused⟩ | halways
      · exact hunused
      · rw [honce] at halways
        exact absurd (Option.some.inj halways) (by decide)
    · cases h

theorem Evaluations.Exclusive.select {s : Evaluations} {call : Nat} {e : Evaluation}
    (h : s.Exclusive) (hidle : s.calls call = .idle) (halone : s.Alone (.select call e)) :
    ({ s with
       calls := Function.update s.calls call
         (.afterSelect e (selectApproval e s.approvals)) } : Evaluations).Exclusive := by
  -- the approval the call finds is held by no other call
  have hfree : ∀ approvalId other, other ≠ call →
      (CallPhase.afterSelect e (selectApproval e s.approvals)).Holds approvalId →
      ¬(s.calls other).Holds approvalId := by
    intro approvalId other hother hfound hholds
    obtain ⟨hboundary, row, hmem, hrow, rfl, honce, hunused⟩ := found_of_afterSelect hfound
    cases hphase : s.calls other with
    | idle => rw [hphase] at hholds; cases hholds
    | marking id now result =>
        rw [hphase] at hholds
        cases hholds
        exact halone hidle hboundary row hrow honce other now result hphase
    | returned result account =>
        rw [hphase] at hholds
        cases hholds
        exact h.marked _ other result hphase row hmem rfl hunused
  constructor
  · intro approvalId i j hi hj
    simp only [Function.update_apply] at hi hj
    split at hi <;> split at hj
    · rename_i hi' hj'
      rw [hi', hj']
    · rename_i hj'
      exact absurd hj (hfree approvalId j hj' hi)
    · rename_i hi' hj'
      exact absurd hi (hfree approvalId i hi' hj)
    · exact h.one approvalId i j hi hj
  · intro approvalId i result hi row hmem hid
    simp only [Function.update_apply] at hi
    split at hi
    · -- a call that returns at its `SELECT` was allowed on account of no approval
      unfold CallPhase.afterSelect at hi
      split at hi
      · cases hi
      · split at hi <;> cases hi
    · exact h.marked approvalId i result hi row hmem hid

theorem Evaluations.Exclusive.update {s : Evaluations} {call : Nat} {approvalId now : String}
    {result : PolicyResult} (h : s.Exclusive)
    (hphase : s.calls call = .marking approvalId now result) :
    ({ approvals := markConsumed s.approvals approvalId now
       calls := Function.update s.calls call (.returned (.ok result) (some approvalId)) } :
      Evaluations).Exclusive := by
  have hheld : ∀ id i, (Function.update s.calls call (.returned (.ok result) (some approvalId)) i).Holds id →
      (s.calls i).Holds id := by
    intro id i hi
    rw [Function.update_apply] at hi
    split at hi
    · rename_i hcall
      cases hi
      rw [hcall, hphase]
      exact .marking now result
    · exact hi
  constructor
  · intro id i j hi hj
    exact h.one id i j (hheld id i hi) (hheld id j hj)
  · intro id i res hi row hmem hid
    obtain ⟨old, hold, rfl⟩ := List.mem_map.mp hmem
    by_cases hmarked : old.approvalId = approvalId
    · rw [if_pos hmarked]
      exact Option.some_ne_none now
    · rw [if_neg hmarked] at hid ⊢
      simp only [Function.update_apply] at hi
      split at hi
      · cases hi
        exact absurd hid hmarked
      · exact h.marked id i res hi old hold hid

theorem Evaluations.Exclusive.step {s : Evaluations} {statement : Statement} (h : s.Exclusive)
    (halone : s.Alone statement) : (s.step statement).Exclusive := by
  cases statement with
  | select call e =>
      unfold Evaluations.step
      dsimp only
      split
      · rename_i hidle
        exact h.select hidle halone
      · exact h
  | update call =>
      unfold Evaluations.step
      dsimp only
      split
      · rename_i hphase
        exact h.update hphase
      · exact h

theorem Evaluations.Exclusive.singleUse {s : Evaluations} (h : s.Exclusive) : s.SingleUse := by
  rintro approvalId call other ⟨result, hcall, -⟩ ⟨result', hother, -⟩
  refine h.one approvalId call other ?_ ?_
  · rw [hcall]
    exact .returned _
  · rw [hother]
    exact .returned _

/-- In every run in which no call finds a single-use approval between the two
statements of another, each such approval allows one call at most. -/
theorem single_use_of_alone (approvals : List ApprovalRow) (statements : List Statement)
    (h : Along Evaluations.step Evaluations.Alone (.start approvals) statements) :
    (run Evaluations.step (.start approvals) statements).SingleUse :=
  (run_of_along (fun _ _ hs halone => Evaluations.Exclusive.step hs halone)
    (exclusive_start approvals) h).singleUse

theorem single_use_of_two_writes :
    (run Evaluations.step (.start [writeOnce])
      [.select 0 write, .update 0, .select 1 write, .update 1]).SingleUse := by
  apply single_use_of_alone
  refine ⟨fun _ _ _ _ _ other now result h => ?_, trivial, fun _ _ row hrow => ?_, trivial, trivial⟩
  · cases h
  · -- the second call finds no row
    cases hrow

/-- Two calls that both read before either marks are both allowed. -/
theorem write_allowed_twice :
    ¬(run Evaluations.step (.start [writeOnce])
      [.select 0 write, .select 1 write, .update 0, .update 1]).SingleUse := by
  intro h
  have hboth := h "req-1" 0 1 ⟨_, rfl, rfl⟩ ⟨_, rfl, rfl⟩
  cases hboth

end Kin.Policy
