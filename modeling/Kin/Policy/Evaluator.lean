import Kin.Session.Reducer

/-!
`kin/policy/evaluator.py`: the verdict on an action of a local agent. The hard
boundaries of the card come first and end the evaluation; then the owner's prior
decision; then the autonomy of the card, which speaks about one class only.
-/

namespace Kin.Policy

open Kin.Py Kin.Schemas Kin.Session

inductive PolicyDecision
  | allow
  | deny
  | requiresApproval
  deriving DecidableEq, Repr

inductive ActionClass
  | informationalRelay
  | sessionParticipation
  | artifactReceipt
  | workspaceRead
  | workspaceWrite
  | shellNetworkExternal
  deriving DecidableEq, Repr

def ActionClass.value : ActionClass → String
  | .informationalRelay => "informational_relay"
  | .sessionParticipation => "session_participation"
  | .artifactReceipt => "artifact_receipt"
  | .workspaceRead => "workspace_read"
  | .workspaceWrite => "workspace_write"
  | .shellNetworkExternal => "shell_network_external"

inductive RiskLabel
  | low
  | medium
  | high
  | critical
  deriving DecidableEq, Repr

/-- `ACTION_CLASS_RISK_MAP`. -/
def actionClassRisk : ActionClass → RiskLabel
  | .informationalRelay => .low
  | .sessionParticipation => .medium
  | .artifactReceipt => .low
  | .workspaceRead => .medium
  | .workspaceWrite => .high
  | .shellNetworkExternal => .critical

/-! ### Cards -/

inductive NetworkAccess
  | deny
  | allow
  deriving DecidableEq, Repr

inductive Filesystem
  | none
  | workspaceRead
  | workspaceReadWriteWithApproval
  deriving DecidableEq, Repr

def Filesystem.value : Filesystem → String
  | .none => "none"
  | .workspaceRead => "workspace_read"
  | .workspaceReadWriteWithApproval => "workspace_read_write_with_approval"

inductive Shell
  | deny
  | approvalRequired
  deriving DecidableEq, Repr

inductive AutonomyLevel
  | never
  | alwaysAsk
  | alwaysAllow
  deriving DecidableEq, Repr

def AutonomyLevel.value : AutonomyLevel → String
  | .never => "never"
  | .alwaysAsk => "always_ask"
  | .alwaysAllow => "always_allow"

/-- What the evaluation reads of an `AgentCard`. -/
structure AgentCard where
  id : String
  networkAccess : NetworkAccess := .deny
  filesystem : Filesystem := .none
  shell : Shell := .deny
  relayInformation : AutonomyLevel := .alwaysAsk

/-- `ACTION_CLASS_TO_AUTONOMY_FIELD`, with the card's level. -/
def AgentCard.autonomyFor (card : AgentCard) : ActionClass → Option AutonomyLevel
  | .informationalRelay => some card.relayInformation
  | _ => none

/-! ### The evaluation -/

structure ApprovalRequest where
  approvalId : PyStr
  sessionId : PyStr
  agentId : String
  actionClass : ActionClass
  summary : String
  reason : String
  riskLabel : RiskLabel
  requestedScope : Fields
  expiresAt : String

structure PolicyResult where
  decision : PolicyDecision
  approvalRequest : Option ApprovalRequest := none
  reason : String := ""

/-- The owner's decision on an earlier request, with its expiry. -/
structure PriorApproval where
  decision : DecisionKind
  expiresAt : Option String

/-- Step 1: the reason of a hard boundary that forbids the class. -/
def hardBoundary (card : AgentCard) : ActionClass → Option String
  | .shellNetworkExternal =>
      if card.shell = .deny ∧ card.networkAccess = .deny then
        some "Hard boundary denial: agent boundaries forbid both shell and network access."
      else none
  | .workspaceWrite =>
      if card.filesystem = .none ∨ card.filesystem = .workspaceRead then
        some ("Hard boundary denial: filesystem boundary '" ++ card.filesystem.value ++
          "' forbids workspace writes.")
      else none
  | .workspaceRead =>
      if card.filesystem = .none then
        some "Hard boundary denial: filesystem boundary is set to 'none'."
      else none
  | _ => none

def priorVerdict (now : String) (prior : PriorApproval) : Option PolicyResult :=
  match prior.decision with
  | .alwaysAllowBounded | .approveOnce =>
      if prior.expiresAt.all (fun expiry => decide (now < expiry)) then
        some { decision := .allow
               reason := "Action permitted by valid non-expired bounded prior approval." }
      else none
  | .deny =>
      some { decision := .deny, reason := "Action explicitly denied by prior approval decision." }
  | .editConstraints => none

/-- Step 3: the verdict of the card's autonomy. -/
def autonomyVerdict (card : AgentCard) (actionClass : ActionClass) : Option PolicyResult :=
  match card.autonomyFor actionClass with
  | some .alwaysAllow =>
      some { decision := .allow
             reason := "Action permitted by card autonomy level '" ++
               AutonomyLevel.alwaysAllow.value ++ "'." }
  | some .never =>
      some { decision := .deny
             reason := "Action denied by card autonomy level '" ++ AutonomyLevel.never.value ++ "'." }
  | _ => none

/-- The default: an approval is required. A session id that is no string does not
validate. -/
def requiresApproval (card : AgentCard) (actionClass : ActionClass) (sessionContext : Fields)
    (now : String) : Except PyExc PolicyResult :=
  match asStr (sessionContext.getD "session_id" (.text "sess-unknown")) with
  | none => .error .validationError
  | some sessionId =>
      .ok
        { decision := .requiresApproval
          approvalRequest := some
            { approvalId := .text "req-" ++ sessionId ++ .text ("-" ++ actionClass.value)
              sessionId
              agentId := card.id
              actionClass
              summary := "Approval request for action '" ++ actionClass.value ++ "'"
              reason := "Action '" ++ actionClass.value ++ "' requires owner approval."
              riskLabel := actionClassRisk actionClass
              requestedScope := [(.text "session_context", .obj sessionContext)]
              expiresAt := if timestampRegex now then now else "2026-07-23T12:00:00.000Z" }
          reason := "Action '" ++ actionClass.value ++ "' requires owner approval." }

def evaluateAction (card : AgentCard) (actionClass : ActionClass) (sessionContext : Fields)
    (now : String) (prior : Option PriorApproval) : Except PyExc PolicyResult :=
  match hardBoundary card actionClass with
  | some reason => .ok { decision := .deny, reason }
  | none =>
      match (prior.bind (priorVerdict now)).or (autonomyVerdict card actionClass) with
      | some result => .ok result
      | none => requiresApproval card actionClass sessionContext now

def AgentCard.Permits (card : AgentCard) : ActionClass → Prop
  | .shellNetworkExternal => card.shell ≠ .deny ∨ card.networkAccess ≠ .deny
  | .workspaceWrite => card.filesystem = .workspaceReadWriteWithApproval
  | .workspaceRead => card.filesystem ≠ .none
  | .informationalRelay | .sessionParticipation | .artifactReceipt => True

theorem permits_of_hardBoundary {card : AgentCard} {actionClass : ActionClass}
    (h : hardBoundary card actionClass = none) : card.Permits actionClass := by
  cases actionClass with
  | shellNetworkExternal =>
      by_cases hshell : card.shell = .deny
      · right
        intro hnetwork
        simp [hardBoundary, hshell, hnetwork] at h
      · exact .inl hshell
  | workspaceWrite =>
      change card.filesystem = .workspaceReadWriteWithApproval
      cases hfilesystem : card.filesystem <;> simp [hardBoundary, hfilesystem] at h ⊢
  | workspaceRead =>
      intro hfilesystem
      simp [hardBoundary, hfilesystem] at h
  | informationalRelay => trivial
  | sessionParticipation => trivial
  | artifactReceipt => trivial

theorem prior_of_allow {card : AgentCard} {actionClass : ActionClass} {sessionContext : Fields}
    {now : String} {prior : Option PriorApproval} {result : PolicyResult}
    (h : evaluateAction card actionClass sessionContext now prior = .ok result)
    (hallow : result.decision = .allow) :
    hardBoundary card actionClass = none ∧
      (actionClass ≠ .informationalRelay → ∃ p, prior = some p ∧
        (p.decision = .approveOnce ∨ p.decision = .alwaysAllowBounded)) := by
  unfold evaluateAction at h
  split at h
  · cases h
    cases hallow
  rename_i hboundary
  refine ⟨hboundary, fun hclass => ?_⟩
  have hautonomy : autonomyVerdict card actionClass = none := by
    cases actionClass <;> first | rfl | exact absurd rfl hclass
  rw [hautonomy, Option.or_none] at h
  split at h
  · rename_i verdict hverdict
    cases h
    obtain ⟨p, hp, hprior⟩ := Option.bind_eq_some_iff.mp hverdict
    refine ⟨p, hp, ?_⟩
    unfold priorVerdict at hprior
    split at hprior
    · rename_i hdecision
      exact .inr hdecision
    · rename_i hdecision
      exact .inl hdecision
    · cases hprior
      cases hallow
    · cases hprior
  · unfold requiresApproval at h
    split at h
    · cases h
    · cases h
      cases hallow

end Kin.Policy
