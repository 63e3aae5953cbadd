import Kin.Lib.Run
import Kin.Policy.Authority
import Kin.Transport.Outbound

/-!
Undecided approvals in the table that `evaluate_action_for_session` reads. The
`WHERE` clause lets them through, and the `ORDER BY` puts them behind every decided
row, so that one comes to the front only where no decided row answers the query; the
`ApprovalDecision` of such a row does not validate.
-/

namespace Kin.Policy

open Kin.Py Kin.Lib Kin.Schemas Kin.Session Kin.Storage Kin.Audit

/-! ### What fills the table -/

/-- A validated `ApprovalDecision`. -/
structure ApprovalDecision where
  approvalId : String
  sessionId : String
  decision : DecisionKind
  decidedBy : String
  decidedAt : String
  decidedAt_valid : timestampRegex decidedAt = true

/-- `record_approval_decision`: an update of the row with that id, else an insert, for
which the session is a foreign key. -/
def upsertApprovalDecision (db : Db) (d : ApprovalDecision) (agentId : String)
    (actionClass : ActionClass) (expiresAt : String) : Except PyExc Db :=
  let audit := fun db : Db => db.writeAuditEvent "approval_decision"
    ("Approval decision '" ++ d.decision.value ++ "' recorded for agent '" ++ agentId ++
      "' action '" ++ actionClass.value ++ "'") (some d.sessionId) (some d.decidedBy)
  if (Rows.lookup ApprovalRow.approvalId db.approvals d.approvalId).isSome then
    .ok (audit { db with
      approvals := Rows.modify ApprovalRow.approvalId db.approvals d.approvalId fun row =>
        { row with decision := some d.decision.value, decidedAt := some d.decidedAt } })
  else if (db.session? d.sessionId).isNone then .error .integrityError
  else
    let row : ApprovalRow :=
      { approvalId := d.approvalId, sessionId := d.sessionId, agentId := some agentId
        actionClass := actionClass.value, decision := some d.decision.value
        decidedAt := some d.decidedAt, expiresAt, consumedAt := none }
    .ok (audit { db with approvals := db.approvals ++ [row] })

/-- The call inside `decide_approval` is the update. -/
theorem upsertApprovalDecision_eq (db : Db) (args : ApprovalArgs) (kind : DecisionKind)
    (agentId : String) (actionClass : ActionClass) (expiresAt : String)
    (hstored : (Rows.lookup ApprovalRow.approvalId db.approvals args.approvalId).isSome = true)
    (hnow : timestampRegex args.now = true) :
    upsertApprovalDecision db
        ⟨args.approvalId, args.sessionId, kind, args.ownerUsername, args.now, hnow⟩ agentId
        actionClass expiresAt =
      .ok (recordApprovalDecision db args kind (some agentId) actionClass.value) := by
  unfold upsertApprovalDecision recordApprovalDecision
  simp [hstored]

/-- What happens to a profile, as far as it can touch the approvals. -/
inductive ApprovalStep
  | create (approvalId sessionId agentId : String) (actionClass : ActionClass) (expiresAt : String)
  | record (d : ApprovalDecision) (agentId : String) (actionClass : ActionClass) (expiresAt : String)
  | decide (args : ApprovalArgs)
  | evaluate (e : Evaluation)
  | other (db : Db)

/-- A call that raises `IntegrityError` leaves the database alone. -/
def approvalStep (ext : Externals) (db : Db) : ApprovalStep → Db
  | .create approvalId sessionId agentId actionClass expiresAt =>
      (createPendingApproval db approvalId sessionId agentId actionClass.value expiresAt).toOption.getD
        db
  | .record d agentId actionClass expiresAt =>
      (upsertApprovalDecision db d agentId actionClass expiresAt).toOption.getD db
  | .decide args => (decideApproval ext db args).1
  | .evaluate e => { db with approvals := (evaluateActionForSession e db.approvals).1 }
  | .other db' => { db' with approvals := db.approvals }

/-- A row has a known decision and its time, or neither. -/
def Recorded (row : ApprovalRow) : Prop :=
  row.decision = none ∧ row.decidedAt = none ∨
    ∃ (kind : DecisionKind) (decidedAt : String), row.decision = some kind.value ∧
      row.decidedAt = some decidedAt ∧ timestampRegex decidedAt = true

def AllRecorded (approvals : List ApprovalRow) : Prop := ∀ row ∈ approvals, Recorded row

theorem AllRecorded.append {approvals : List ApprovalRow} (h : AllRecorded approvals)
    {row : ApprovalRow} (hrow : Recorded row) : AllRecorded (approvals ++ [row]) := by
  intro other hmem
  rcases List.mem_append.mp hmem with hold | hnew
  · exact h other hold
  · rw [List.mem_singleton.mp hnew]
    exact hrow

theorem AllRecorded.modify {approvals : List ApprovalRow} (h : AllRecorded approvals)
    {f : ApprovalRow → ApprovalRow} (hf : ∀ row, Recorded row → Recorded (f row))
    (approvalId : String) :
    AllRecorded (Rows.modify ApprovalRow.approvalId approvals approvalId f) := by
  intro row hmem
  obtain ⟨old, hold, rfl⟩ := List.mem_map.mp hmem
  split
  · exact hf old (h old hold)
  · exact h old hold

theorem allRecorded_modify_decision {approvals : List ApprovalRow} (h : AllRecorded approvals)
    (approvalId : String) (kind : DecisionKind) {decidedAt : String}
    (hvalid : timestampRegex decidedAt = true) :
    AllRecorded (Rows.modify ApprovalRow.approvalId approvals approvalId fun row =>
      { row with decision := some kind.value, decidedAt := some decidedAt }) :=
  h.modify (fun _ _ => .inr ⟨kind, decidedAt, rfl, rfl, hvalid⟩) approvalId

theorem approvals_createPendingApproval {db : Db}
    {approvalId sessionId agentId actionClass expiresAt : String} (h : AllRecorded db.approvals) :
    AllRecorded ((createPendingApproval db approvalId sessionId agentId actionClass
      expiresAt).toOption.getD db).approvals := by
  unfold createPendingApproval
  split
  · exact h
  · exact h.append (.inl ⟨rfl, rfl⟩)

theorem approvals_upsertApprovalDecision {db : Db} {d : ApprovalDecision} {agentId : String}
    {actionClass : ActionClass} {expiresAt : String} (h : AllRecorded db.approvals) :
    AllRecorded ((upsertApprovalDecision db d agentId actionClass expiresAt).toOption.getD
      db).approvals := by
  unfold upsertApprovalDecision
  dsimp only
  split
  · exact allRecorded_modify_decision h d.approvalId d.decision d.decidedAt_valid
  · split
    · exact h
    · exact h.append (.inr ⟨d.decision, d.decidedAt, rfl, rfl, d.decidedAt_valid⟩)

theorem approvals_of_statusWritten {db written : Db} {sessionId : String} {status : Status}
    {now : Instant} (h : StatusWritten db sessionId status now written) :
    written.approvals = db.approvals := by
  rw [SameTables.approvals h, approvals_updateSession]

theorem approvals_decideApproval {ext : Externals} {db : Db} {args : ApprovalArgs}
    (h : AllRecorded db.approvals) : AllRecorded (decideApproval ext db args).1.approvals := by
  rcases decideApproval_outcome ext db args with
    ⟨e, heq, -⟩ | ⟨kind, row, session, written, hdecides, hwritten, heq⟩
  · rw [heq]
    exact h
  · rw [← approvals_of_statusWritten hwritten] at h
    rw [heq]
    split
    · have hvalid : timestampRegex args.now = true :=
        hdecides.validates
      exact allRecorded_modify_decision h args.approvalId kind hvalid
    · exact h

theorem approvals_evaluateActionForSession {e : Evaluation} {approvals : List ApprovalRow}
    (h : AllRecorded approvals) : AllRecorded (evaluateActionForSession e approvals).1 := by
  unfold evaluateActionForSession
  dsimp only
  split
  · exact h
  · split
    · have hconsumed : ∀ row, Recorded row → Recorded { row with consumedAt := some e.now } :=
        fun _ hrow => hrow
      exact h.modify hconsumed _
    · exact h

/-- Every step keeps decisions and times together. -/
theorem allRecorded_step {ext : Externals} {db : Db} (s : ApprovalStep)
    (h : AllRecorded db.approvals) : AllRecorded (approvalStep ext db s).approvals := by
  cases s with
  | create approvalId sessionId agentId actionClass expiresAt =>
      exact approvals_createPendingApproval h
  | record d agentId actionClass expiresAt => exact approvals_upsertApprovalDecision h
  | decide args => exact approvals_decideApproval h
  | evaluate e => exact approvals_evaluateActionForSession h
  | other db' => exact h

theorem allRecorded_run (ext : Externals) (db : Db) (steps : List ApprovalStep) :
    AllRecorded (run (approvalStep ext) { db with approvals := [] } steps).approvals :=
  run_invariant (I := fun db : Db => AllRecorded db.approvals) (fun _ s h => allRecorded_step s h)
    (fun _ hmem => absurd hmem List.not_mem_nil) steps

/-! ### The choice among decided and undecided rows -/

def isDecided (row : ApprovalRow) : Bool := row.decision.isSome

theorem decidedAt_of_decided {row : ApprovalRow} (h : Recorded row) :
    if isDecided row then ∃ decidedAt, row.decidedAt = some decidedAt else row.decidedAt = none := by
  rcases h with ⟨hdecision, hnone⟩ | ⟨kind, decidedAt, hdecision, hsome, -⟩
  · simp [isDecided, hdecision, hnone]
  · simp [isDecided, hdecision, hsome]

/-- Leaving the undecided rows out leaves the choice as it is, unless it is one of
them. -/
theorem latest_filter_isDecided {rows : List ApprovalRow} (h : AllRecorded rows) :
    latest (rows.filter isDecided) = (latest rows).filter isDecided := by
  induction rows with
  | nil => rfl
  | cons row rows ih =>
      have hrow := decidedAt_of_decided (h row List.mem_cons_self)
      have hrows : AllRecorded rows := fun other hmem => h other (List.mem_cons_of_mem _ hmem)
      have ih := ih hrows
      cases hlatest : latest rows with
      | none =>
          rw [hlatest] at ih
          by_cases hdecided : isDecided row = true
          · simp [latest, hlatest, hdecided, ih, Option.filter]
          · simp [latest, hlatest, hdecided, ih, Option.filter]
      | some best =>
          have hbest := decidedAt_of_decided (hrows best (latest_spec hlatest).1)
          rw [hlatest] at ih
          by_cases hdecided : isDecided row = true <;> by_cases hfirst : isDecided best = true
          · simp only [List.filter_cons, hdecided, if_true, latest, ih, hlatest, Option.filter,
              hfirst]
            split <;> simp [hdecided, hfirst]
          · obtain ⟨a, ha⟩ : ∃ a, row.decidedAt = some a := by simpa [hdecided] using hrow
            have hb : best.decidedAt = none := by simpa [hfirst] using hbest
            simp [latest, hlatest, ih, hdecided, hfirst, ha, hb, decidedAfter, Option.filter]
          · have ha : row.decidedAt = none := by simpa [hdecided] using hrow
            obtain ⟨b, hb⟩ : ∃ b, best.decidedAt = some b := by simpa [hfirst] using hbest
            simp [latest, hlatest, ih, hdecided, hfirst, ha, hb, decidedAfter, Option.filter]
          · have ha : row.decidedAt = none := by simpa [hdecided] using hrow
            have hb : best.decidedAt = none := by simpa [hfirst] using hbest
            simp [latest, hlatest, ih, hdecided, hfirst, ha, hb, decidedAfter, Option.filter]

/-- The order in which the query comes across the rows does not depend on the rows that
are left out. -/
def Evaluation.Stable (e : Evaluation) : Prop :=
  ∀ (p : ApprovalRow → Bool) (rows : List ApprovalRow),
    e.order (rows.filter p) = (e.order rows).filter p

theorem selectApproval_filter {e : Evaluation} (hstable : e.Stable) {approvals : List ApprovalRow}
    (h : AllRecorded approvals) : selectApproval e (approvals.filter isDecided) =
      (selectApproval e approvals).filter isDecided := by
  have hsub : AllRecorded ((e.order approvals).filter e.selects) := fun row hmem =>
    h row ((e.order_perm approvals).mem_iff.mp (List.mem_of_mem_filter hmem))
  rw [selectApproval, selectApproval, hstable isDecided approvals, List.filter_comm,
    latest_filter_isDecided hsub]

/-! ### What the evaluation makes of the choice -/

/-- The verdict of the table's choice is what a call returns. -/
theorem result_evaluateActionForSession (e : Evaluation) (approvals : List ApprovalRow) :
    (evaluateActionForSession e approvals).2 = verdict e (selectApproval e approvals) := by
  unfold evaluateActionForSession
  dsimp only
  split
  · rename_i hverdict
    exact hverdict.symm
  · rename_i hverdict
    split <;> exact hverdict.symm

theorem decisionOfText_value (kind : DecisionKind) : decisionOfText kind.value = some kind := by
  cases kind <;> rfl

theorem priorApproval_of_recorded {e : Evaluation} {row : ApprovalRow} {kind : DecisionKind}
    {decidedAt : String} (hdecision : row.decision = some kind.value)
    (hdecidedAt : row.decidedAt = some decidedAt) (hvalid : timestampRegex decidedAt = true) :
    priorApproval e row = .ok { decision := kind, expiresAt := some row.expiresAt } := by
  have htext : textOr row.decidedAt e.now = decidedAt := by
    have hne : decidedAt ≠ "" := by
      rintro rfl
      cases hvalid
    simp [textOr, hdecidedAt, hne]
  simp [priorApproval, hdecision, decisionOfText_value, htext, hvalid]

/-- The evaluation ends before its default, or the default finds a string for the session. -/
def Evaluation.Ends (e : Evaluation) (prior : Option PriorApproval) : Prop :=
  (hardBoundary e.card e.actionClass).isSome ∨
    ((prior.bind (priorVerdict e.now)).or (autonomyVerdict e.card e.actionClass)).isSome ∨
    (asStr (e.sessionContext.getD "session_id" (.text "sess-unknown"))).isSome

theorem evaluateAction_ok_iff (e : Evaluation) (prior : Option PriorApproval) :
    (∃ result, evaluateAction e.card e.actionClass e.sessionContext e.now prior = .ok result) ↔
      e.Ends prior := by
  unfold evaluateAction Evaluation.Ends requiresApproval
  cases hardBoundary e.card e.actionClass with
  | some reason => simp
  | none =>
      cases (prior.bind (priorVerdict e.now)).or (autonomyVerdict e.card e.actionClass) with
      | some result => simp
      | none =>
          cases asStr (e.sessionContext.getD "session_id" (.text "sess-unknown")) with
          | some sessionId => simp
          | none => simp

/-! ### The law -/

/-- The evaluation returns, and what it returns is what it returns without the undecided
rows. -/
def Evaluation.IgnoresUndecided (e : Evaluation) (approvals : List ApprovalRow) : Prop :=
  ∃ result, (evaluateActionForSession e approvals).2 = .ok result ∧
    (evaluateActionForSession e (approvals.filter isDecided)).2 = .ok result

/-- A decided row answers the query, or no undecided one does. -/
def Evaluation.Unhindered (e : Evaluation) (approvals : List ApprovalRow) : Prop :=
  (∃ row ∈ approvals, e.selects row = true ∧ isDecided row = true) ∨
    ∀ row ∈ approvals, e.selects row = true → isDecided row = true

/-- The session of the context is a string, or the evaluation has no use for it: a hard
boundary, the autonomy of the card or a decided row other than `edit_constraints` settles
the action. -/
def Evaluation.Settled (e : Evaluation) (approvals : List ApprovalRow) : Prop :=
  (asStr (e.sessionContext.getD "session_id" (.text "sess-unknown"))).isSome ∨
    (hardBoundary e.card e.actionClass).isSome ∨
    (autonomyVerdict e.card e.actionClass).isSome ∨
    ∃ row, selectApproval e approvals = some row ∧ isDecided row = true ∧
      row.decision ≠ some "edit_constraints"

theorem priorVerdict_isSome {now expiresAt : String} (hlive : now < expiresAt)
    (kind : DecisionKind) :
    (priorVerdict now { decision := kind, expiresAt := some expiresAt }).isSome = true ↔
      some kind.value ≠ some "edit_constraints" := by
  have hall : (some expiresAt).all (fun expiry => decide (now < expiry)) = true :=
    decide_eq_true hlive
  cases kind <;> simp only [priorVerdict, hall, if_true, DecisionKind.value] <;> simp

theorem settled_of_none {e : Evaluation} {approvals : List ApprovalRow}
    (h : selectApproval e approvals = none) : e.Settled approvals ↔ e.Ends none := by
  simp only [Evaluation.Settled, Evaluation.Ends, h, Option.bind_none, Option.none_or]
  constructor
  · rintro (htext | hboundary | hautonomy | ⟨row, hrow, -⟩)
    · exact .inr (.inr htext)
    · exact .inl hboundary
    · exact .inr (.inl hautonomy)
    · cases hrow
  · rintro (hboundary | hautonomy | htext)
    · exact .inr (.inl hboundary)
    · exact .inr (.inr (.inl hautonomy))
    · exact .inl htext

theorem settled_of_some {e : Evaluation} {approvals : List ApprovalRow} {row : ApprovalRow}
    {kind : DecisionKind} (h : selectApproval e approvals = some row)
    (hdecision : row.decision = some kind.value) : e.Settled approvals ↔
      e.Ends (some { decision := kind, expiresAt := some row.expiresAt }) := by
  have hlive : e.now < row.expiresAt := by
    have hselects := (selectApproval_spec h).2.1
    simp only [Evaluation.selects, Bool.and_eq_true, decide_eq_true_eq] at hselects
    exact hselects.1.2
  have hverdict := priorVerdict_isSome hlive kind
  have hdecided : isDecided row = true := by simp [isDecided, hdecision]
  simp only [Evaluation.Settled, Evaluation.Ends, Option.bind_some, Option.isSome_or, hverdict,
    Bool.or_eq_true]
  constructor
  · rintro (htext | hboundary | hautonomy | ⟨other, hother, -, hkind⟩)
    · exact .inr (.inr htext)
    · exact .inl hboundary
    · exact .inr (.inl (.inr hautonomy))
    · rw [h] at hother
      cases hother
      rw [hdecision] at hkind
      exact .inr (.inl (.inl hkind))
  · rintro (hboundary | (hkind | hautonomy) | htext)
    · exact .inr (.inl hboundary)
    · exact .inr (.inr (.inr ⟨row, h, hdecided, hdecision ▸ hkind⟩))
    · exact .inr (.inr (.inl hautonomy))
    · exact .inl htext

/-- What the choice says about the rows that answer the query. -/
theorem unhindered_iff {e : Evaluation} {approvals : List ApprovalRow}
    (h : AllRecorded approvals) :
    e.Unhindered approvals ↔ ∀ row, selectApproval e approvals = some row → isDecided row = true := by
  constructor
  · rintro hopen row hrow
    obtain ⟨hmem, hselects, hmax⟩ := selectApproval_spec hrow
    rcases hopen with ⟨other, hother, hselected, hdecided⟩ | hall
    · -- A decided row is after every undecided one.
      by_contra hundecided
      have hnone := decidedAt_of_decided (h row hmem)
      have hsome := decidedAt_of_decided (h other hother)
      rw [if_neg hundecided] at hnone
      rw [if_pos hdecided] at hsome
      obtain ⟨decidedAt, hdecidedAt⟩ := hsome
      have hafter := hmax other hother hselected
      rw [hnone, hdecidedAt] at hafter
      cases hafter
    · exact hall row hmem hselects
  · intro hchoice
    cases hrow : selectApproval e approvals with
    | none =>
        right
        intro row hmem hselects
        have hnone : (e.order approvals).filter e.selects = [] := latest_eq_none hrow
        have hin : row ∈ (e.order approvals).filter e.selects :=
          List.mem_filter.mpr ⟨(e.order_perm approvals).mem_iff.mpr hmem, hselects⟩
        rw [hnone] at hin
        cases hin
    | some row =>
        obtain ⟨hmem, hselects, -⟩ := selectApproval_spec hrow
        exact .inl ⟨row, hmem, hselects, hchoice row hrow⟩

theorem ignoresUndecided_iff {e : Evaluation} {approvals : List ApprovalRow}
    (hstable : e.Stable) (h : AllRecorded approvals) :
    e.IgnoresUndecided approvals ↔ e.Unhindered approvals ∧ e.Settled approvals := by
  rw [unhindered_iff h]
  unfold Evaluation.IgnoresUndecided
  simp only [result_evaluateActionForSession, selectApproval_filter hstable h]
  cases hrow : selectApproval e approvals with
  | none =>
      rw [settled_of_none hrow, ← evaluateAction_ok_iff]
      simp [verdict, Option.filter]
  | some row =>
      rcases h row (selectApproval_spec hrow).1 with ⟨hnone, -⟩ | ⟨kind, decidedAt, hkind, hat, hvalid⟩
      · -- The `ApprovalDecision` of an undecided row does not validate.
        have hundecided : isDecided row = false := by simp [isDecided, hnone]
        simp [verdict, priorApproval, hnone, hundecided]
      · have hdecided : isDecided row = true := by simp [isDecided, hkind]
        rw [settled_of_some hrow hkind, ← evaluateAction_ok_iff]
        simp [verdict, priorApproval_of_recorded hkind hat hvalid, Option.filter, hdecided]

/-- In every table that requests and decisions build up, undecided rows have no
influence on an evaluation, which returns, exactly if a decided row answers its query or
no undecided one does. -/
theorem undecided_ignored_iff (ext : Externals) (db : Db) (steps : List ApprovalStep)
    (e : Evaluation) (hstable : e.Stable) :
    e.IgnoresUndecided (run (approvalStep ext) { db with approvals := [] } steps).approvals ↔
      e.Unhindered (run (approvalStep ext) { db with approvals := [] } steps).approvals ∧
        e.Settled (run (approvalStep ext) { db with approvals := [] } steps).approvals :=
  ignoresUndecided_iff hstable (allRecorded_run ext db steps)

/-! ### A lone request -/

open Transport.Sample (externals)

def oneSession : Db :=
  { Db.fresh (some "alice") [] [] with
    sessions :=
      [{ sessionId := "s1", sessionType := .buildPipeline, initiatorUsername := "alice"
         receiverUsername := "bob", status := .active, objective := none
         senderAgentId := some "agent-a", receiverAgentId := some "bot", turnLimit := 12
         runtimeBudgetSeconds := .null, artifactBytesBudget := .null, cumulativeArtifactBytes := 0
         costBudgetEstimate := .null, cumulativeCostEstimate := 0, createdAt := 0, updatedAt := 0
         expiresAt := none }] }

def requestWrite : ApprovalStep :=
  .create "req-2" "s1" "agent-a" .workspaceWrite "2026-07-30T12:00:00Z"

def recordWrite : ApprovalStep :=
  .record
    { approvalId := "req-1", sessionId := "s1", decision := .alwaysAllowBounded
      decidedBy := "alice", decidedAt := "2026-07-29T12:05:00Z", decidedAt_valid := by decide }
    "agent-a" .workspaceWrite "2026-07-30T12:00:00Z"

theorem write_ignores_request_behind_decision :
    write.IgnoresUndecided
      (run (approvalStep externals) { oneSession with approvals := [] }
        [recordWrite, requestWrite]).approvals := by
  refine (undecided_ignored_iff externals oneSession [recordWrite, requestWrite] write
    fun _ _ => rfl).mpr ⟨.inl ⟨_, List.mem_cons_self, ?_, ?_⟩, .inl rfl⟩
  · rfl
  · rfl

/-- A lone request makes the evaluation of its own action raise. -/
theorem write_raises_on_lone_request :
    ¬ write.IgnoresUndecided
      (run (approvalStep externals) { oneSession with approvals := [] }
        [requestWrite]).approvals := by
  rintro ⟨result, hresult, -⟩
  have hraises : (evaluateActionForSession write (run (approvalStep externals)
      { oneSession with approvals := [] } [requestWrite]).approvals).2 = .error .validationError := by
    rfl
  rw [hraises] at hresult
  cases hresult

end Kin.Policy
