import Kin.Policy.Evaluator
import Kin.Policy.Persistence
import Kin.Session.AdapterRequest

/-!
`advance_session_turn` of `kin/session/orchestrator.py`: one turn of the local
agent. The adapter's answer, the verdict of its validation and the policy
evaluation are arguments of the model; everything the turn does with them to the
session, its log and the outbound queue is here.
-/

namespace Kin.Session

open Kin.Py Kin.Lib Kin.Schemas Kin.Storage Kin.Audit Kin.Artifacts Kin.Policy Kin.Transport

/-! ### What a turn gets from outside -/

inductive AdapterEvent
  | activity (label : PyStr)
  | approvalRequest (approvalId sessionId actionClass : String) (expiresAt : Option String)
  | other

structure AdapterArtifact where
  bytes : Bytes
  mimeType : String
  /-- The uuid-based id `store_artifact` makes up. -/
  generatedId : String

structure AdapterError where
  code : String
  message : String
  deriving DecidableEq

structure AdapterResponse where
  events : List AdapterEvent := []
  message : Option (MessageKind × String) := none
  artifacts : List AdapterArtifact := []
  error : Option AdapterError := none

/-- The arguments of a turn beyond the owner's: the adapter's response to the request
it gets, whether `validate_adapter_output` passes it, `evaluate_action_for_session`
with the approvals it leaves, the id of an approval the turn may create, and
`get_public_key_fn`. -/
structure Turn where
  response : AdapterResponse
  valid : Bool := true
  evaluate : Db → String → List ApprovalRow × Except PyExc PolicyDecision
  approvalId : String := ""
  getPublicKey : Option (Json → Option PublicKey) := none

inductive TurnStatus
  | paused (reason : String)
  | retryableError (error : AdapterError)
  | failed
  | awaitingOwnerApproval (approvalId : String)
  | sent (status : AckStatus) (sequence : Nat) (kind : MessageKind)
  | advanced
  deriving DecidableEq

structure TurnResult where
  db : Db
  exit : Except PyExc TurnStatus

/-! ### Budgets -/

/-- `budget is not None and used >= budget`; a number is not comparable with text. -/
def exhausts (used : ℚ) : SqlValue → Except PyExc Bool
  | .null => .ok false
  | .integer n => .ok (decide ((n : ℚ) ≤ used))
  | .real (.finite q) => .ok (decide (q ≤ used))
  | .real .negZero => .ok (decide (0 ≤ used))
  | .real .nan => .ok false
  | .real (.inf negative) => .ok negative
  | .text _ => .error .typeError

def formatSql (ext : Externals) : SqlValue → String
  | .null => "None"
  | .integer n => ext.strOf (.int n)
  | .real x => ext.strOf (.float x)
  | .text s => s

def exhaustedReason (ext : Externals) (row : SessionRow) (currentTurn : Int) (now : Instant) :
    Except PyExc (Option String) := do
  let reached := fun (dimension : String) => "Session budget exhausted: " ++ dimension ++ " reached."
  if row.turnLimit ≤ currentTurn then
    return some (reached ("turn_limit (" ++ toString row.turnLimit ++ ")"))
  let elapsed : ℚ := ((now - row.createdAt : Int) : ℚ) / 1000000
  if ← exhausts elapsed row.runtimeBudgetSeconds then
    return some (reached
      ("runtime_budget_seconds (" ++ formatSql ext row.runtimeBudgetSeconds ++ "s)"))
  if ← exhausts row.cumulativeArtifactBytes row.artifactBytesBudget then
    return some (reached
      ("artifact_bytes_budget (" ++ formatSql ext row.artifactBytesBudget ++ " bytes)"))
  if ← exhausts row.cumulativeCostEstimate row.costBudgetEstimate then
    return some (reached ("cost_budget_estimate (" ++ formatSql ext row.costBudgetEstimate ++ ")"))
  return none

/-! ### The stages of a turn -/

section Stages

variable (sender : Sender) (sessionId agentId : String) (turn : Turn)

/-- `_apply_node_command_transition` of the turn. -/
def turnCommand (db : Db) (command : NodeCommand) : Db :=
  (applyNodeCommandTransition sender.ext db sessionId command sender.now).1

def activityEvent (label : PyStr) : NewEvent where
  sessionId := sessionId
  actorUsername := sender.username
  actorAgentId := some agentId
  kind := .internal .activity
  visibility := .localOnly
  payload := some (.obj [(.text "label", .str label)])
  createdAt := sender.now

def appendActivities : Db → List AdapterEvent → Db × Except PyExc Unit
  | db, [] => (db, .ok ())
  | db, .activity label :: events =>
      match appendSessionEvent sender.ext db (activityEvent sender sessionId agentId label) with
      | (db, .error e) => (db, .error e)
      | (db, .ok _) => appendActivities db events
  | db, _ :: events => appendActivities db events

/-- The wait for the owner: the approval row, for the session that the request names,
then the node command, whose refusal nobody reads. -/
def awaitApproval (db : Db) (approvalId requestSession actionClass expiresAt : String) :
    TurnResult :=
  match createPendingApproval db approvalId requestSession agentId actionClass expiresAt with
  | .error e => { db, exit := .error e }
  | .ok db => { db := turnCommand sender sessionId db .markAwaitingOwnerApproval,
                exit := .ok (.awaitingOwnerApproval approvalId) }

/-- `evaluate_action_for_session`: the decision, with the approvals it leaves. -/
def evaluateAction (db : Db) (actionClass : String) : Db × Except PyExc PolicyDecision :=
  let (approvals, decision) := turn.evaluate db actionClass
  ({ db with approvals }, decision)

/-- A day from now, as an expiry. -/
def tomorrow : String := isoNow (sender.now.addSeconds 86400)

/-- The approval requests of a response: `.ok db` when none of them ends the turn. -/
def gateApprovals : Db → List AdapterEvent → Except TurnResult Db
  | db, [] => .ok db
  | db, .approvalRequest approvalId requestSession actionClass expiresAt :: events =>
      let (db, decision) := evaluateAction turn db actionClass
      match decision with
      | .error e => .error { db, exit := .error e }
      | .ok .allow => gateApprovals db events
      | .ok .deny =>
          gateApprovals (db.writeAuditEvent "security_rejection"
            ("Action '" ++ actionClass ++ "' denied by local policy.") (some sessionId)
            (some sender.username)) events
      | .ok .requiresApproval =>
          .error (awaitApproval sender sessionId agentId db approvalId requestSession actionClass
            (textOr expiresAt (tomorrow sender)))
  | db, _ :: events => gateApprovals db events

def gateMessage (db : Db) : Except TurnResult Db :=
  match turn.response.message with
  | none => .ok db
  | some (kind, _) =>
      let (db, decision) := evaluateAction turn db "informational_relay"
      match decision with
      | .error e => .error { db, exit := .error e }
      | .ok .allow => .ok db
      | .ok .deny =>
          .error
            { db := turnCommand sender sessionId (db.writeAuditEvent "security_rejection"
                ("Outbound message '" ++ kind.value ++ "' denied by policy.") (some sessionId)
                (some sender.username)) .markFailed
              exit := .ok .failed }
      | .ok .requiresApproval =>
          .error (awaitApproval sender sessionId agentId db turn.approvalId sessionId
            "informational_relay" (tomorrow sender))

/-- `card.boundaries.max_artifact_bytes or 1_048_576`. -/
def cardMaxBytes (card : AgentRow) : Int := (card.maxArtifactBytes.filter (· ≠ 0)).getD 1048576

/-- The artifacts of a response go to the vault; one that is too large fails the
session. -/
def storeArtifacts (maxBytes : Int) : Db → List AdapterArtifact → Except TurnResult Db
  | db, [] => .ok db
  | db, art :: arts =>
      match storeArtifact sender.ext db
          { sessionId, rawBytes := art.bytes, mimeType := art.mimeType,
            offeredBy := sender.username, previewPolicy := "auto", maxBytes, now := sender.now,
            generatedId := art.generatedId } with
      | .ok (db, _) =>
          storeArtifacts maxBytes (incrementSessionArtifactBytes db sessionId art.bytes.length) arts
      | .error _ =>
          .error
            { db := turnCommand sender sessionId (db.writeAuditEvent "security_rejection"
                ("Artifact size " ++ toString art.bytes.length ++
                  " bytes exceeds card max_artifact_bytes (" ++ toString maxBytes ++ ").")
                (some sessionId) (some sender.username)) .markFailed
              exit := .error .orchestratorError }

def turnContext : IngestContext where
  ext := sender.ext
  getPublicKey :=
    turn.getPublicKey.getD fun _ => some (sender.ext.publicKeyOf sender.identityKey)
  now := sender.now
  http := sender.http

/-- The outbound message: ingested here, and queued whatever the acknowledgement
says. -/
def sendTurnMessage (db : Db) (peer : String) (kind : MessageKind) (content : String) :
    TurnResult :=
  let sequence := nextSequence db sessionId sender.username
  let payload : Fields := [(.text "content", .text content)]
  match computeContentHash sender.ext payload with
  | none => { db, exit := .error .valueError }
  | some contentHash =>
  let envelope := signedEnvelope sender sessionId agentId contentHash sequence kind payload
  let result := ingestEnvelope (turnContext sender turn) db envelope
  match result.exit with
  | .error e => { db := result.db, exit := .error e }
  | .ok ack =>
      match enqueue result.db (pendingRow sender sessionId peer sequence kind envelope) with
      | .error e => { db := result.db, exit := .error e }
      | .ok db => { db, exit := .ok (.sent ack.status sequence kind) }

def handleResponse (db : Db) (card : AgentRow) (peer : String) : TurnResult :=
  match turn.response.error with
  | some error =>
      let db := db.writeAuditEvent "adapter_error"
        ("Adapter error code " ++ error.code ++ ": " ++ error.message) (some sessionId)
        (some sender.username)
      if error.code ∈ ["ADAPTER_TIMEOUT", "RATE_LIMITED", "PROCESS_TIMEOUT_KILLED"] then
        { db, exit := .ok (.retryableError error) }
      else { db := turnCommand sender sessionId db .markFailed, exit := .ok .failed }
  | none =>
  if turn.valid = false then
    { db := turnCommand sender sessionId db .markFailed, exit := .error .orchestratorError }
  else
  match appendActivities sender sessionId agentId db turn.response.events with
  | (db, .error e) => { db, exit := .error e }
  | (db, .ok ()) =>
  match gateApprovals sender sessionId agentId turn db turn.response.events with
  | .error result => result
  | .ok db =>
  match gateMessage sender sessionId agentId turn db with
  | .error result => result
  | .ok db =>
  match storeArtifacts sender sessionId (cardMaxBytes card) db turn.response.artifacts with
  | .error result => result
  | .ok db =>
  match turn.response.message with
  | none => { db, exit := .ok .advanced }
  | some (kind, content) => sendTurnMessage sender sessionId agentId turn db peer kind content

end Stages

def refusesTurn (status : Status) : Bool :=
  isTerminalState status || decide (status = .awaitingOwnerApproval) || decide (status = .paused)

/-- `cumulative_cost_estimate + 1.0`, in a `REAL` column that starts at zero: adding
one to `2 ^ 53` gives a number between two doubles, which is rounded to `2 ^ 53`. -/
def addCost (row : SessionRow) : SessionRow :=
  { row with
    cumulativeCostEstimate :=
      if row.cumulativeCostEstimate < 2 ^ 53 then row.cumulativeCostEstimate + 1
      else row.cumulativeCostEstimate }

@[simp] theorem addCost_sessionId (row : SessionRow) : (addCost row).sessionId = row.sessionId := rfl

def advanceSessionTurn (sender : Sender) (db : Db) (sessionId : String) (turn : Turn) : TurnResult :=
  match db.session? sessionId with
  | none => { db, exit := .error .orchestratorError }
  | some row =>
  let state := stateOf sender.ext row (db.eventsOf sessionId)
  if refusesTurn state.status then { db, exit := .error .orchestratorError }
  else
  match state.participants.get? sender.username with
  | none => { db, exit := .error .orchestratorError }
  | some info =>
  match db.getCard info.agentId with
  | none => { db, exit := .error .orchestratorError }
  | some card =>
  match exhaustedReason sender.ext row state.currentTurn sender.now with
  | .error e => { db, exit := .error e }
  | .ok (some reason) =>
      let paused := pauseSession sender db sessionId reason
      match paused.exit with
      | .error e => { db := paused.db, exit := .error e }
      | .ok () =>
          { db := paused.db.writeAuditEvent "budget_exhausted" reason (some sessionId)
              (some sender.username)
            exit := .ok (.paused reason) }
  | .ok none =>
      handleResponse sender sessionId info.agentId turn (db.updateSession sessionId addCost) card
        (peerOf sender row)

end Kin.Session
