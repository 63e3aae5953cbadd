import Kin.Policy.Evaluator
import Kin.Policy.Persistence

/-!
`evaluate_action_for_session` of `kin/policy/persistence.py`: the approval that
speaks for an action is the most recently decided one that has not expired, and a
single-use approval that was used is left out of the choice. The `WHERE` clause is
three-valued: a pending row has no decision, and the comparison with
`approve_once` is unknown there.
-/

namespace Kin.Policy

open Kin.Py Kin.Lib Kin.Schemas Kin.Session Kin.Storage

/-- The arguments of `evaluate_action_for_session`, with the order in which the
query comes across the rows of the table. -/
structure Evaluation where
  card : AgentCard
  actionClass : ActionClass
  sessionContext : Fields
  sessionId : String
  now : String
  order : List ApprovalRow → List ApprovalRow := id
  order_perm : ∀ rows, (order rows).Perm rows := by exact fun rows => List.Perm.refl rows

def Evaluation.concerns (e : Evaluation) (row : ApprovalRow) : Bool :=
  row.sessionId == e.sessionId && row.agentId == some e.card.id &&
    row.actionClass == e.actionClass.value

/-- `decision != 'approve_once' OR consumed_at IS NULL`. -/
def unused (row : ApprovalRow) : Bool :=
  row.decision.any (· != "approve_once") || row.consumedAt.isNone

/-- The `WHERE` clause. -/
def Evaluation.selects (e : Evaluation) (row : ApprovalRow) : Bool :=
  e.concerns row && decide (e.now < row.expiresAt) && unused row

/-- `a` is after `b` in time, where `NULL` is before everything. -/
def decidedAfter : Option String → Option String → Bool
  | some a, some b => decide (b < a)
  | some _, none => true
  | none, _ => false

/-- `ORDER BY decided_at DESC LIMIT 1`. -/
def latest : List ApprovalRow → Option ApprovalRow
  | [] => none
  | row :: rows =>
      match latest rows with
      | none => some row
      | some best => if decidedAfter best.decidedAt row.decidedAt then some best else some row

def selectApproval (e : Evaluation) (approvals : List ApprovalRow) : Option ApprovalRow :=
  latest ((e.order approvals).filter e.selects)

/-- The `ApprovalDecision` of a row; without a known decision or a timestamp it does
not validate. -/
def priorApproval (e : Evaluation) (row : ApprovalRow) : Except PyExc PriorApproval :=
  match row.decision.bind decisionOfText with
  | none => .error .validationError
  | some decision =>
      if timestampRegex (textOr row.decidedAt e.now) then
        .ok { decision, expiresAt := some row.expiresAt }
      else .error .validationError

def verdict (e : Evaluation) : Option ApprovalRow → Except PyExc PolicyResult
  | none => evaluateAction e.card e.actionClass e.sessionContext e.now none
  | some row =>
      match priorApproval e row with
      | .error err => .error err
      | .ok prior => evaluateAction e.card e.actionClass e.sessionContext e.now (some prior)

/-- The single-use approval on account of which the action is allowed. -/
def spent (result : PolicyResult) (row : Option ApprovalRow) : Option String :=
  if result.decision = .allow then
    (row.filter fun r => r.decision == some "approve_once").map (·.approvalId)
  else none

/-- `UPDATE approvals SET consumed_at = ? WHERE approval_id = ?`. -/
def markConsumed (approvals : List ApprovalRow) (approvalId now : String) : List ApprovalRow :=
  Rows.modify ApprovalRow.approvalId approvals approvalId fun row =>
    { row with consumedAt := some now }

def evaluateActionForSession (e : Evaluation) (approvals : List ApprovalRow) :
    List ApprovalRow × Except PyExc PolicyResult :=
  let row := selectApproval e approvals
  match verdict e row with
  | .error err => (approvals, .error err)
  | .ok result =>
      match spent result row with
      | some approvalId => (markConsumed approvals approvalId e.now, .ok result)
      | none => (approvals, .ok result)

/-! ### The selected row -/

theorem decidedAfter_trans {a b c : Option String} (hab : decidedAfter a b = false)
    (hbc : decidedAfter b c = false) : decidedAfter a c = false := by
  cases a with
  | none => rfl
  | some a =>
      cases b with
      | none => cases hab
      | some b =>
          cases c with
          | none => cases hbc
          | some c =>
              simp only [decidedAfter, decide_eq_false_iff_not, not_lt] at hab hbc ⊢
              exact le_trans hab hbc

theorem decidedAfter_asymm {a b : Option String} (h : decidedAfter a b = true) :
    decidedAfter b a = false := by
  cases a with
  | none => cases h
  | some a =>
      cases b with
      | none => rfl
      | some b =>
          simp only [decidedAfter, decide_eq_true_eq, decide_eq_false_iff_not, not_lt] at h ⊢
          exact le_of_lt h

theorem latest_eq_none {rows : List ApprovalRow} (h : latest rows = none) : rows = [] := by
  cases rows with
  | nil => rfl
  | cons row rows =>
      unfold latest at h
      split at h
      · cases h
      · split at h <;> cases h

theorem latest_spec {rows : List ApprovalRow} {row : ApprovalRow} (h : latest rows = some row) :
    row ∈ rows ∧ ∀ other ∈ rows, decidedAfter other.decidedAt row.decidedAt = false := by
  induction rows generalizing row with
  | nil => cases h
  | cons first rows ih =>
      have hself : ∀ r : ApprovalRow, decidedAfter r.decidedAt r.decidedAt = false := by
        intro r
        cases hafter : decidedAfter r.decidedAt r.decidedAt with
        | false => rfl
        | true => exact (decidedAfter_asymm hafter).symm.trans hafter |>.symm
      unfold latest at h
      split at h
      · rename_i hnone
        cases h
        rw [latest_eq_none hnone]
        refine ⟨List.mem_singleton_self _, fun other hmem => ?_⟩
        rw [List.mem_singleton.mp hmem]
        exact hself _
      · rename_i best hbest
        obtain ⟨hmem, hmax⟩ := ih hbest
        split at h
        · rename_i hafter
          cases h
          refine ⟨List.mem_cons_of_mem _ hmem, fun other hother => ?_⟩
          rcases List.mem_cons.mp hother with rfl | hrest
          · exact decidedAfter_asymm hafter
          · exact hmax other hrest
        · rename_i hafter
          cases h
          refine ⟨List.mem_cons_self, fun other hother => ?_⟩
          rcases List.mem_cons.mp hother with rfl | hrest
          · exact hself _
          · exact decidedAfter_trans (hmax other hrest) (Bool.eq_false_iff.mpr hafter)

theorem selectApproval_spec {e : Evaluation} {approvals : List ApprovalRow} {row : ApprovalRow}
    (h : selectApproval e approvals = some row) :
    row ∈ approvals ∧ e.selects row = true ∧
      ∀ other ∈ approvals, e.selects other = true →
        decidedAfter other.decidedAt row.decidedAt = false := by
  obtain ⟨hmem, hmax⟩ := latest_spec h
  obtain ⟨hrow, hselects⟩ := List.mem_filter.mp hmem
  refine ⟨(e.order_perm approvals).mem_iff.mp hrow, hselects, fun other hother hselected => ?_⟩
  exact hmax other (List.mem_filter.mpr ⟨(e.order_perm approvals).mem_iff.mpr hother, hselected⟩)

/-! ### What allows an action -/

/-- The approval carries the owner's authority for the action, and nothing the owner
decided after it takes the authority back. -/
structure Evaluation.Authorises (e : Evaluation) (approvals : List ApprovalRow)
    (row : ApprovalRow) : Prop where
  mem : row ∈ approvals
  concerns : e.concerns row = true
  grants : row.decision = some "approve_once" ∧ row.consumedAt = none ∨
    row.decision = some "always_allow_bounded"
  unexpired : e.now < row.expiresAt
  standing : ∀ other ∈ approvals, e.concerns other = true → e.now < other.expiresAt →
    decidedAfter other.decidedAt row.decidedAt = true →
      other.decision ≠ some "deny" ∧ other.decision ≠ some "edit_constraints"

theorem decision_of_text {text : Option String} {kind : DecisionKind}
    (h : text.bind decisionOfText = some kind) : text = some kind.value := by
  obtain ⟨s, rfl, hs⟩ := Option.bind_eq_some_iff.mp h
  unfold decisionOfText at hs
  have hvalue := List.find?_some hs
  rw [of_decide_eq_true hvalue]

theorem decision_of_priorApproval {e : Evaluation} {row : ApprovalRow} {prior : PriorApproval}
    (h : priorApproval e row = .ok prior) : row.decision = some prior.decision.value := by
  unfold priorApproval at h
  split at h
  · cases h
  · rename_i kind hkind
    split at h
    · cases h
      exact decision_of_text hkind
    · cases h

/-- What a call returns is the verdict on the row it selected. -/
theorem verdict_of_evaluate {e : Evaluation} {approvals approvals' : List ApprovalRow}
    {result : PolicyResult}
    (h : evaluateActionForSession e approvals = (approvals', .ok result)) :
    verdict e (selectApproval e approvals) = .ok result := by
  unfold evaluateActionForSession at h
  dsimp only at h
  split at h
  · cases h
  · rename_i hverdict
    split at h
    · cases h
      exact hverdict
    · cases h
      exact hverdict

/-- An allowing verdict keeps to the hard boundary and, outside relaying, is about a
row that grants. -/
theorem allow_of_verdict {e : Evaluation} {row : Option ApprovalRow} {result : PolicyResult}
    (h : verdict e row = .ok result) (hallow : result.decision = .allow) :
    hardBoundary e.card e.actionClass = none ∧
      (e.actionClass ≠ .informationalRelay → ∃ r, row = some r ∧
        (r.decision = some "approve_once" ∨ r.decision = some "always_allow_bounded")) := by
  cases row with
  | none =>
      obtain ⟨hboundary, hprior⟩ := prior_of_allow h hallow
      refine ⟨hboundary, fun hclass => ?_⟩
      obtain ⟨p, hp, -⟩ := hprior hclass
      cases hp
  | some r =>
      unfold verdict at h
      dsimp only at h
      split at h
      · cases h
      · rename_i prior hok
        obtain ⟨hboundary, hprior⟩ := prior_of_allow h hallow
        refine ⟨hboundary, fun hclass => ⟨r, rfl, ?_⟩⟩
        obtain ⟨p, hp, hgrants⟩ := hprior hclass
        cases hp
        rw [decision_of_priorApproval hok]
        rcases hgrants with hgrants | hgrants
        · rw [hgrants]
          exact .inl rfl
        · rw [hgrants]
          exact .inr rfl

/-- A selected row that grants is authority: a later refusal would have been selected
in its place. -/
theorem authorises_of_select {e : Evaluation} {approvals : List ApprovalRow} {row : ApprovalRow}
    (h : selectApproval e approvals = some row)
    (hgrants : row.decision = some "approve_once" ∨
      row.decision = some "always_allow_bounded") : e.Authorises approvals row := by
  obtain ⟨hmem, hselects, hmax⟩ := selectApproval_spec h
  simp only [Evaluation.selects, Bool.and_eq_true, decide_eq_true_eq] at hselects
  obtain ⟨⟨hconcerns, hexpires⟩, hunused⟩ := hselects
  refine ⟨hmem, hconcerns, ?_, hexpires, fun other hother hother_concerns hlive hafter => ?_⟩
  · rcases hgrants with honce | halways
    · left
      refine ⟨honce, ?_⟩
      simpa [unused, honce] using hunused
    · exact .inr halways
  · -- A row decided otherwise than `approve_once` is never left out of the choice.
    have hout : ∀ text : String, text ≠ "approve_once" → other.decision ≠ some text := by
      intro text htext hdecision
      have hselected : e.selects other = true := by
        simp [Evaluation.selects, hother_concerns, hlive, unused, hdecision, htext]
      rw [hmax other hother hselected] at hafter
      cases hafter
    exact ⟨hout _ (by decide), hout _ (by decide)⟩

/-- `evaluate_action_for_session` allows an action only inside the hard boundary of
the card and, outside relaying, only on an approval that still stands. -/
theorem allowed_only_with_authority (e : Evaluation) (approvals approvals' : List ApprovalRow)
    (result : PolicyResult)
    (h : evaluateActionForSession e approvals = (approvals', .ok result))
    (hallow : result.decision = .allow) :
    e.card.Permits e.actionClass ∧
      (e.actionClass ≠ .informationalRelay → ∃ row, e.Authorises approvals row) := by
  obtain ⟨hboundary, hrow⟩ := allow_of_verdict (verdict_of_evaluate h) hallow
  refine ⟨permits_of_hardBoundary hboundary, fun hclass => ?_⟩
  obtain ⟨row, hselect, hgrants⟩ := hrow hclass
  exact ⟨row, authorises_of_select hselect hgrants⟩

def writerCard : AgentCard := { id := "agent-a", filesystem := .workspaceReadWriteWithApproval }

def writeOnce : ApprovalRow :=
  { approvalId := "req-1", sessionId := "s1", agentId := some "agent-a"
    actionClass := "workspace_write", decision := some "approve_once"
    decidedAt := some "2026-07-29T12:05:00Z", expiresAt := "2026-07-30T12:00:00Z"
    consumedAt := none }

def write : Evaluation :=
  { card := writerCard, actionClass := .workspaceWrite, sessionContext := [], sessionId := "s1"
    now := "2026-07-29T12:10:00Z" }

theorem write_allowed_with_authority :
    write.card.Permits .workspaceWrite ∧ ∃ row, write.Authorises [writeOnce] row := by
  have h := allowed_only_with_authority write [writeOnce]
    [{ writeOnce with consumedAt := some "2026-07-29T12:10:00Z" }]
    { decision := .allow
      reason := "Action permitted by valid non-expired bounded prior approval." } (by rfl) rfl
  exact ⟨h.1, h.2 (by decide)⟩

end Kin.Policy
