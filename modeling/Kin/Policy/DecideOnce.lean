import Kin.Policy.PendingApprovals

/-!
`decide_approval` as a transaction. All its checks but one come before its first write;
the one left is on the class that the row stores, which is a member of `ActionClass` for
every writer of the table. What a row has once decided, no later step takes away, and a
decided row refuses every later decision.
-/

namespace Kin.Policy

open Kin.Py Kin.Lib Kin.Schemas Kin.Session Kin.Storage Kin.Audit

variable {ext : Externals} {db : Db} {args : ApprovalArgs}

/-! ### What a decision changes -/

/-- What `process_owner_command` makes of the decision. -/
def trialOf (ext : Externals) (db : Db) (args : ApprovalArgs) (kind : DecisionKind)
    (session : SessionRow) : ReducerResult :=
  processOwnerCommand (stateOf ext session (db.eventsOf args.sessionId)) args.ownerUsername
    (.ownerApprovalDecision (some kind.value))

/-- One approval got its decision and its time, and one session the status of the trial;
the two tables are the same otherwise. -/
structure Applied (ext : Externals) (db : Db) (args : ApprovalArgs) (db' : Db)
    (kind : DecisionKind) (session : SessionRow) : Prop where
  decision : decisionOfText args.decision = some kind
  known : db.session? args.sessionId = some session
  approvals : db'.approvals =
    Rows.modify ApprovalRow.approvalId db.approvals args.approvalId fun row =>
      { row with decision := some kind.value, decidedAt := some args.now }
  sessions : db'.sessions =
    Rows.modify SessionRow.sessionId db.sessions args.sessionId
      (setStatus (trialOf ext db args kind session).newState.status args.clock)
  status : (trialOf ext db args kind session).newState.status = .active ∨
    (trialOf ext db args kind session).newState.status = .paused

theorem status_of_trial {kind : DecisionKind} {session : SessionRow}
    (h : (trialOf ext db args kind session).success = true) :
    (trialOf ext db args kind session).newState.status = statusAfter kind := by
  unfold trialOf at *
  rcases processOwnerCommand_cases (stateOf ext session (db.eventsOf args.sessionId))
    args.ownerUsername (.ownerApprovalDecision (some kind.value)) with
    ⟨target, last, htarget, -, -, -, heq⟩ | ⟨r, heq⟩
  · rw [target_ownerApprovalDecision] at htarget
    cases htarget
    rw [heq]
    rfl
  · rw [heq] at h
    cases h

theorem sessions_of_statusWritten {written : Db} {sessionId : String} {status : Status}
    {now : Instant} (h : StatusWritten db sessionId status now written) :
    written.sessions =
      Rows.modify SessionRow.sessionId db.sessions sessionId (setStatus status now) := by
  rw [SameTables.sessions h]
  rfl

/-- A call that passes its checks, for a row of a known class, does the whole of its
work. -/
theorem applied_of_decides {kind : DecisionKind} {row : ApprovalRow} {session : SessionRow}
    {written : Db} (h : Decides ext db args kind row session)
    (hwritten : StatusWritten db args.sessionId (statusAfter kind) args.clock written) :
    Applied ext db args (recordApprovalDecision written args kind row.agentId row.actionClass)
      kind session := by
  have hstatus := status_of_trial h.trial
  refine ⟨h.decision, h.known, ?_, ?_, ?_⟩
  · rw [recordApprovalDecision, approvals_writeAuditEvent, approvals_of_statusWritten hwritten]
  · rw [recordApprovalDecision, sessions_writeAuditEvent, hstatus]
    change written.sessions = _
    exact sessions_of_statusWritten hwritten
  · rw [hstatus]
    cases kind with
    | deny => exact .inr rfl
    | approveOnce => exact .inl rfl
    | editConstraints => exact .inl rfl
    | alwaysAllowBounded => exact .inl rfl

/-! ### Once decided -/

def HasDecision (approvalId : String) (db : Db) : Prop :=
  ∃ row, Rows.lookup ApprovalRow.approvalId db.approvals approvalId = some row ∧
    row.decision.isSome = true

theorem HasDecision.append {approvalId : String} (h : HasDecision approvalId db)
    (row : ApprovalRow) : HasDecision approvalId { db with approvals := db.approvals ++ [row] } := by
  obtain ⟨stored, hstored, hdecided⟩ := h
  refine ⟨stored, ?_, hdecided⟩
  change Rows.lookup _ (db.approvals ++ [row]) _ = _
  rw [Rows.lookup_append, hstored, Option.some_or]

theorem HasDecision.modify {approvalId : String} (h : HasDecision approvalId db) (other : String)
    {f : ApprovalRow → ApprovalRow} (hid : ∀ row, (f row).approvalId = row.approvalId)
    (hf : ∀ row, row.decision.isSome = true → (f row).decision.isSome = true) :
    HasDecision approvalId
      { db with approvals := Rows.modify ApprovalRow.approvalId db.approvals other f } := by
  obtain ⟨stored, hstored, hdecided⟩ := h
  unfold HasDecision
  dsimp only
  by_cases heq : approvalId = other
  · subst heq
    rw [Rows.lookup_modify_self hid, hstored]
    exact ⟨f stored, rfl, hf stored hdecided⟩
  · rw [Rows.lookup_modify_of_ne hid heq]
    exact ⟨stored, hstored, hdecided⟩

theorem hasDecision_congr {db' : Db} {approvalId : String} (h : HasDecision approvalId db)
    (heq : db'.approvals = db.approvals) : HasDecision approvalId db' := by
  unfold HasDecision
  rw [heq]
  exact h

theorem hasDecision_of_applied {db' : Db} {kind : DecisionKind} {session : SessionRow}
    {row : ApprovalRow} (h : Applied ext db args db' kind session)
    (hstored : Rows.lookup ApprovalRow.approvalId db.approvals args.approvalId = some row) :
    HasDecision args.approvalId db' := by
  refine ⟨{ row with decision := some kind.value, decidedAt := some args.now }, ?_, rfl⟩
  rw [h.approvals, Rows.lookup_modify_self (f := fun row : ApprovalRow =>
    { row with decision := some kind.value, decidedAt := some args.now }) fun _ => rfl, hstored]
  rfl

theorem hasDecision_decideApproval {approvalId : String} (h : HasDecision approvalId db) :
    HasDecision approvalId (decideApproval ext db args).1 := by
  rcases decideApproval_outcome ext db args with
    ⟨_, heq, -⟩ | ⟨kind, row, session, written, hdecides, hwritten, heq⟩
  · rw [heq]
    exact h
  · have hkept := hasDecision_congr h (approvals_of_statusWritten hwritten)
    rw [heq]
    split
    · have hmodified := hkept.modify args.approvalId (f := fun row =>
        { row with decision := some kind.value, decidedAt := some args.now })
        (fun _ => rfl) (fun _ _ => rfl)
      exact hasDecision_congr hmodified rfl
    · exact hkept

theorem hasDecision_createPendingApproval {approvalId newId sessionId agentId actionClass
    expiresAt : String} (h : HasDecision approvalId db) :
    HasDecision approvalId ((createPendingApproval db newId sessionId agentId actionClass
      expiresAt).toOption.getD db) := by
  unfold createPendingApproval
  split
  · exact h
  · exact hasDecision_congr (h.append _) rfl

theorem hasDecision_upsertApprovalDecision {approvalId : String} {d : ApprovalDecision}
    {agentId : String} {actionClass : ActionClass} {expiresAt : String}
    (h : HasDecision approvalId db) :
    HasDecision approvalId ((upsertApprovalDecision db d agentId actionClass
      expiresAt).toOption.getD db) := by
  unfold upsertApprovalDecision
  dsimp only
  split
  · have hmodified := h.modify d.approvalId (f := fun row =>
      { row with decision := some d.decision.value, decidedAt := some d.decidedAt })
      (fun _ => rfl) (fun _ _ => rfl)
    exact hasDecision_congr hmodified rfl
  · split
    · exact h
    · exact hasDecision_congr (h.append _) rfl

theorem hasDecision_evaluateActionForSession {approvalId : String} {e : Evaluation}
    (h : HasDecision approvalId db) :
    HasDecision approvalId
      { db with approvals := (evaluateActionForSession e db.approvals).1 } := by
  unfold evaluateActionForSession
  dsimp only
  split
  · exact h
  · split
    · exact h.modify _ (fun _ => rfl) (fun _ hdecided => hdecided)
    · exact h

theorem hasDecision_step (ext : Externals) {approvalId : String} (s : ApprovalStep)
    (h : HasDecision approvalId db) : HasDecision approvalId (approvalStep ext db s) := by
  cases s with
  | create newId sessionId agentId actionClass expiresAt =>
      exact hasDecision_createPendingApproval h
  | record d agentId actionClass expiresAt => exact hasDecision_upsertApprovalDecision h
  | decide args => exact hasDecision_decideApproval h
  | evaluate e => exact hasDecision_evaluateActionForSession h
  | other db' => exact hasDecision_congr h rfl

theorem refused_of_hasDecision {later : ApprovalArgs} (h : HasDecision later.approvalId db) :
    ∃ e, decideApproval ext db later = (db, .error e) ∧
      (e = .approvalAlreadyDecided ∨ e = .approvalNotFound ∨
        e = .valueError ∧ decisionOfText later.decision = none) := by
  obtain ⟨row, hrow, hdecided⟩ := h
  unfold decideApproval
  cases hkind : decisionOfText later.decision with
  | none => exact ⟨_, rfl, .inr (.inr ⟨rfl, rfl⟩)⟩
  | some kind =>
      rw [hrow]
      dsimp only
      split
      · exact ⟨_, rfl, .inr (.inl rfl)⟩
      · exact ⟨_, rfl, .inl rfl⟩

/-! ### The law -/

/-- For an approval of a known class `decide_approval` is all or nothing: it raises and
leaves the approvals and the sessions as they are, or it returns and has done the whole
of its work. After that, whatever else happens to the profile, every decision on the
approval is refused without a change. -/
theorem decide_approval_all_or_nothing (ext : Externals) (db : Db) (args : ApprovalArgs)
    (hclass : ∀ row, Rows.lookup ApprovalRow.approvalId db.approvals args.approvalId = some row →
      row.actionClass ∈ actionClasses) :
    ((∃ e, (decideApproval ext db args).2 = .error e) →
      (decideApproval ext db args).1.approvals = db.approvals ∧
        (decideApproval ext db args).1.sessions = db.sessions) ∧
    ((decideApproval ext db args).2 = .ok () →
      (∃ kind session, Applied ext db args (decideApproval ext db args).1 kind session) ∧
      ∀ (steps : List ApprovalStep) (later : ApprovalArgs), later.approvalId = args.approvalId →
        ∃ e, decideApproval ext (run (approvalStep ext) (decideApproval ext db args).1 steps) later =
            (run (approvalStep ext) (decideApproval ext db args).1 steps, .error e) ∧
          (e = .approvalAlreadyDecided ∨ e = .approvalNotFound ∨
            e = .valueError ∧ decisionOfText later.decision = none)) := by
  rcases decideApproval_outcome ext db args with
    ⟨e, heq, -⟩ | ⟨kind, row, session, written, hdecides, hwritten, heq⟩
  · rw [heq]
    exact ⟨fun _ => ⟨rfl, rfl⟩, fun hok => nomatch hok⟩
  · rw [if_pos (hclass row hdecides.stored)] at heq
    rw [heq]
    have happlied := applied_of_decides hdecides hwritten
    refine ⟨?_, fun _ => ⟨⟨kind, session, happlied⟩, ?_⟩⟩
    · rintro ⟨e, he⟩
      cases he
    intro steps later hid
    have hdecided := hasDecision_of_applied happlied hdecides.stored
    have hlater := run_invariant (fun _ s h => hasDecision_step ext s h) hdecided steps
    rw [← hid] at hlater
    exact refused_of_hasDecision hlater

/-! ### A decision that is none -/

open Transport.Sample (externals)

/-- A profile with one request that waits for its owner. -/
def askedDb : Db := approvalStep externals { oneSession with approvals := [] } requestWrite

def approveWrite : ApprovalArgs where
  approvalId := "req-2"
  sessionId := "s1"
  decision := "approve_once"
  ownerUsername := "alice"
  now := "2026-07-30T11:00:00Z"
  clock := 0

theorem approveWrite_all_or_nothing :
    ((∃ e, (decideApproval externals askedDb approveWrite).2 = .error e) →
      (decideApproval externals askedDb approveWrite).1.approvals = askedDb.approvals ∧
        (decideApproval externals askedDb approveWrite).1.sessions = askedDb.sessions) ∧
    (decideApproval externals askedDb approveWrite).2 = .ok () := by
  have h := decide_approval_all_or_nothing externals askedDb approveWrite fun row hrow => by
    obtain rfl := Option.some.inj hrow
    exact List.mem_of_elem_eq_true rfl
  exact ⟨h.1, rfl⟩

/-- A later decision that is no `DecisionKind` is refused as such, not as one on a
decided approval. -/
theorem later_maybe_raises_valueError :
    (decideApproval externals askedDb approveWrite).2 = .ok () ∧
    (decideApproval externals (decideApproval externals askedDb approveWrite).1
      { approveWrite with decision := "maybe" }).2 = .error .valueError :=
  ⟨rfl, rfl⟩

end Kin.Policy
