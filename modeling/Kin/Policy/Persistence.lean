import Kin.Session.History

/-!
`create_pending_approval` and `decide_approval` of `kin/policy/persistence.py`: a
request that waits for the owner, and the owner's decision on it, persisted together
with the session transition it causes.
-/

namespace Kin.Policy

open Kin.Py Kin.Lib Kin.Schemas Kin.Session Kin.Storage Kin.Audit

inductive ApprovalError
  | approvalNotFound
  | approvalAlreadyDecided
  | approvalExpired
  | invalidDecisionValue
  | runtimeError
  | validationError
  | valueError
  deriving DecidableEq

/-- The values of `ActionClass`. -/
def actionClasses : List String :=
  ["informational_relay", "session_participation", "artifact_receipt", "workspace_read",
   "workspace_write", "shell_network_external"]

/-- `DecisionKind(s)`. -/
def decisionOfText (s : String) : Option DecisionKind :=
  [DecisionKind.approveOnce, .deny, .editConstraints, .alwaysAllowBounded].find? fun d =>
    decide (d.value = s)

/-- The arguments of `decide_approval`. `clock` is the time the transition helper
reads, since it is called without one. -/
structure ApprovalArgs where
  approvalId : String
  sessionId : String
  decision : String
  ownerUsername : String
  now : String
  reason : Option PyStr := none
  constraints : Option Fields := none
  clock : Instant

def validDecision (args : ApprovalArgs) : DecisionKind → Bool
  | .deny => args.reason.any fun r => !(strip r).codePoints.isEmpty
  | .editConstraints => args.constraints.any fun c => !c.isEmpty
  | .approveOnce | .alwaysAllowBounded => true

/-- The `ApprovalDecision` of the arguments validates: the time has the format. Its
constraints may be any dictionary, and are not stored. -/
def validatesDecision (args : ApprovalArgs) : Bool :=
  timestampRegex args.now

/-- `create_pending_approval`: the id is a primary key, and the session a foreign key. -/
def createPendingApproval (db : Db) (approvalId sessionId agentId actionClass expiresAt : String) :
    Except PyExc Db :=
  if (Rows.lookup ApprovalRow.approvalId db.approvals approvalId).isSome ||
      (db.session? sessionId).isNone then .error .integrityError
  else
    let row : ApprovalRow :=
      { approvalId, sessionId, agentId := some agentId, actionClass, decision := none,
        decidedAt := none, expiresAt, consumedAt := none }
    let db : Db := { db with approvals := db.approvals ++ [row] }
    .ok (db.writeAuditEvent "approval_request"
      ("Pending approval request created for agent '" ++ agentId ++ "' action '" ++ actionClass ++ "'")
      (some sessionId) (some agentId))

/-- `record_approval_decision` for an approval that exists. -/
def recordApprovalDecision (db : Db) (args : ApprovalArgs) (kind : DecisionKind)
    (agentId : Option String) (actionClass : String) : Db :=
  ({ db with
    approvals := Rows.modify ApprovalRow.approvalId db.approvals args.approvalId fun row =>
      { row with decision := some kind.value, decidedAt := some args.now } }).writeAuditEvent
    "approval_decision"
    ("Approval decision '" ++ kind.value ++ "' recorded for agent '" ++ agentId.getD "None" ++
      "' action '" ++ actionClass ++ "'")
    (some args.sessionId) (some args.ownerUsername)

def decideApproval (ext : Externals) (db : Db) (args : ApprovalArgs) :
    Db × Except ApprovalError Unit :=
  match decisionOfText args.decision with
  | none => (db, .error .valueError)
  | some kind =>
  match Rows.lookup ApprovalRow.approvalId db.approvals args.approvalId with
  | none => (db, .error .approvalNotFound)
  | some row =>
  if row.sessionId ≠ args.sessionId then (db, .error .approvalNotFound)
  else if row.decision.isSome then (db, .error .approvalAlreadyDecided)
  else if row.expiresAt ≤ args.now then (db, .error .approvalExpired)
  else if validDecision args kind = false then (db, .error .invalidDecisionValue)
  else
  match reconstructSessionState ext db args.sessionId with
  | none => (db, .error .approvalNotFound)
  | some state =>
  let action := OwnerAction.ownerApprovalDecision (some kind.value)
  if (processOwnerCommand state args.ownerUsername action).success = false then
    (db, .error .runtimeError)
  else if validatesDecision args = false then (db, .error .validationError)
  else
  match applyOwnerCommandTransition ext db args.sessionId args.ownerUsername action args.clock with
  | (db, none) => (db, .error .runtimeError)
  | (db, some _) =>
      if row.actionClass ∈ actionClasses then
        (recordApprovalDecision db args kind row.agentId row.actionClass, .ok ())
      else (db, .error .valueError)

/-! ### What a decision does -/

def statusAfter : DecisionKind → Status
  | .deny => .paused
  | .approveOnce | .editConstraints | .alwaysAllowBounded => .active

theorem target_ownerApprovalDecision (kind : DecisionKind) :
    (OwnerAction.ownerApprovalDecision (some kind.value)).target = .ok (statusAfter kind) := by
  cases kind <;> rfl

/-- Everything that `decide_approval` checks before its first write. -/
structure Decides (ext : Externals) (db : Db) (args : ApprovalArgs) (kind : DecisionKind)
    (row : ApprovalRow) (session : SessionRow) : Prop where
  decision : decisionOfText args.decision = some kind
  stored : Rows.lookup ApprovalRow.approvalId db.approvals args.approvalId = some row
  own : row.sessionId = args.sessionId
  undecided : row.decision = none
  unexpired : args.now < row.expiresAt
  valid : validDecision args kind = true
  known : db.session? args.sessionId = some session
  trial : (processOwnerCommand (stateOf ext session (db.eventsOf args.sessionId))
    args.ownerUsername (.ownerApprovalDecision (some kind.value))).success = true
  validates : validatesDecision args = true

/-- The transition comes to what the trial came to. -/
theorem transition_of_decides {ext : Externals} {db : Db} {args : ApprovalArgs}
    {kind : DecisionKind} {row : ApprovalRow} {session : SessionRow}
    (h : Decides ext db args kind row session) :
    StatusWritten db args.sessionId (statusAfter kind) args.clock
        (applyOwnerCommandTransition ext db args.sessionId args.ownerUsername
          (.ownerApprovalDecision (some kind.value)) args.clock).1 ∧
      (applyOwnerCommandTransition ext db args.sessionId args.ownerUsername
        (.ownerApprovalDecision (some kind.value)) args.clock).2.isSome = true := by
  rcases applyOwnerCommandTransition_cases ext db args.sessionId args.ownerUsername
    (.ownerApprovalDecision (some kind.value)) args.clock with
    ⟨_, target, -, htarget, -, -, hwritten, hsome⟩ | ⟨-, hnone⟩
  · rw [target_ownerApprovalDecision] at htarget
    cases htarget
    exact ⟨hwritten, hsome⟩
  · simp [applyOwnerCommandTransition, reconstructSessionState, h.known, persistTransition,
      h.trial] at hnone

/-- `decide_approval` raises before its first write, or it passes every check and makes
its transition; a stored class that is none is noticed after that. -/
theorem decideApproval_outcome (ext : Externals) (db : Db) (args : ApprovalArgs) :
    (∃ e, decideApproval ext db args = (db, .error e) ∧
      ∀ kind row session, ¬Decides ext db args kind row session) ∨
    ∃ kind row session written, Decides ext db args kind row session ∧
      StatusWritten db args.sessionId (statusAfter kind) args.clock written ∧
      decideApproval ext db args =
        if row.actionClass ∈ actionClasses then
          (recordApprovalDecision written args kind row.agentId row.actionClass, .ok ())
        else (written, .error .valueError) := by
  unfold decideApproval
  cases hdecision : decisionOfText args.decision with
  | none =>
      refine .inl ⟨_, rfl, fun kind row session h => ?_⟩
      rw [h.decision] at hdecision
      cases hdecision
  | some kind =>
  cases hstored : Rows.lookup ApprovalRow.approvalId db.approvals args.approvalId with
  | none =>
      refine .inl ⟨_, rfl, fun kind row session h => ?_⟩
      rw [h.stored] at hstored
      cases hstored
  | some row =>
  -- Every check is about the row, the kind and the session that a decision has.
  have hsame : ∀ {kind' row' session}, Decides ext db args kind' row' session →
      kind' = kind ∧ row' = row := by
    intro kind' row' session h
    exact ⟨Option.some.inj (h.decision.symm.trans hdecision),
      Option.some.inj (h.stored.symm.trans hstored)⟩
  dsimp only
  split
  · rename_i hother
    refine .inl ⟨_, rfl, fun kind' row' session h => hother ?_⟩
    obtain ⟨-, rfl⟩ := hsame h
    exact h.own
  rename_i hown
  split
  · rename_i hdecided
    refine .inl ⟨_, rfl, fun kind' row' session h => ?_⟩
    obtain ⟨-, rfl⟩ := hsame h
    rw [h.undecided] at hdecided
    cases hdecided
  rename_i hundecided
  split
  · rename_i hexpired
    refine .inl ⟨_, rfl, fun kind' row' session h => ?_⟩
    obtain ⟨-, rfl⟩ := hsame h
    exact absurd h.unexpired (not_lt_of_ge hexpired)
  rename_i hunexpired
  split
  · rename_i hinvalid
    refine .inl ⟨_, rfl, fun kind' row' session h => ?_⟩
    obtain ⟨rfl, -⟩ := hsame h
    rw [h.valid] at hinvalid
    cases hinvalid
  rename_i hvalid
  cases hknown : db.session? args.sessionId with
  | none =>
      simp only [reconstructSessionState, hknown, Option.map_none]
      refine .inl ⟨_, rfl, fun kind' row' session h => ?_⟩
      rw [h.known] at hknown
      cases hknown
  | some session =>
  simp only [reconstructSessionState, hknown, Option.map_some]
  split
  · rename_i hrefused
    refine .inl ⟨_, rfl, fun kind' row' session' h => ?_⟩
    obtain ⟨rfl, -⟩ := hsame h
    obtain rfl : session' = session := Option.some.inj (h.known.symm.trans hknown)
    rw [h.trial] at hrefused
    cases hrefused
  rename_i htrial
  split
  · rename_i hinvalid
    refine .inl ⟨_, rfl, fun kind' row' session h => ?_⟩
    obtain ⟨rfl, -⟩ := hsame h
    rw [h.validates] at hinvalid
    cases hinvalid
  rename_i hvalidates
  have h : Decides ext db args kind row session :=
    ⟨hdecision, hstored, not_ne_iff.mp hown, Option.not_isSome_iff_eq_none.mp hundecided,
      not_le.mp hunexpired, Bool.not_eq_false _ ▸ hvalid, hknown, Bool.not_eq_false _ ▸ htrial,
      Bool.not_eq_false _ ▸ hvalidates⟩
  obtain ⟨hwritten, hsome⟩ := transition_of_decides h
  refine .inr ⟨kind, row, session, _, h, hwritten, ?_⟩
  split
  · rename_i htransition
    rw [htransition] at hsome
    cases hsome
  · rename_i htransition
    rw [htransition]

def SameSessions (db db' : Db) : Prop :=
  ∃ approvals, SameTables { db with approvals } db'

theorem sameSessions_of_sameTables {db db' : Db} (h : SameTables db db') : SameSessions db db' :=
  ⟨db.approvals, h⟩

theorem decideApproval_cases (ext : Externals) (db : Db) (args : ApprovalArgs) :
    (decideApproval ext db args).1 = db ∨
    ∃ kind : DecisionKind, SameSessions
      (applyOwnerCommandTransition ext db args.sessionId args.ownerUsername
        (.ownerApprovalDecision (some kind.value)) args.clock).1 (decideApproval ext db args).1 := by
  unfold decideApproval
  split
  · exact .inl rfl
  rename_i kind _
  split
  · exact .inl rfl
  split
  · exact .inl rfl
  split
  · exact .inl rfl
  split
  · exact .inl rfl
  split
  · exact .inl rfl
  split
  · exact .inl rfl
  simp only
  split
  · exact .inl rfl
  split
  · exact .inl rfl
  right
  refine ⟨kind, ?_⟩
  split
  · rename_i h
    rw [h]
    exact sameSessions_of_sameTables (.refl _)
  · rename_i h
    rw [h]
    split
    · exact ⟨_, sameTables_writeAuditEvent ..⟩
    · exact sameSessions_of_sameTables (.refl _)

end Kin.Policy
