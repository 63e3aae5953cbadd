import Kin.Schemas
import Kin.Session.TransitionMatrix

/-!
The session state machine of `kin/session/reducer.py`: peer envelopes, node
commands and owner commands, each a function from a session state to a reducer
result. A peer envelope can also make Python raise, in two places: an acceptance
whose agent id is not a string, and a transition check on a state without
participants, where a local variable was never assigned.
-/

namespace Kin.Session

open Kin.Py Kin.Lib Kin.Schemas

inductive Role
  | owner
  | agent
  | receiver
  | other (name : String)
  deriving DecidableEq, Repr

structure ParticipantInfo where
  agentId : String
  role : Role
  deriving DecidableEq, Repr

inductive Visibility
  | peerVisible
  | localOnly
  deriving DecidableEq, Repr

/-- An entry of `SessionState.events`: a stored event, or an envelope dump,
which has no event id and no visibility. -/
structure EventEntry where
  eventId : Option Nat
  sequence : Option Nat
  actorUsername : String
  kind : EventKind
  visibility : Option Visibility
  payload : Json

structure SessionState where
  sessionId : String
  initiatorUsername : String
  receiverUsername : String
  status : Status := .draft
  currentTurn : Int := 0
  maxTurns : Int := 12
  actorSequences : Dict String Int := .empty
  participants : Dict String ParticipantInfo := .empty
  lastResumableStatus : Option Status := none
  events : List EventEntry := []

/-- Membership in `owner_usernames`. -/
def SessionState.isOwner (state : SessionState) (username : String) : Bool :=
  username == state.initiatorUsername || username == state.receiverUsername ||
    state.participants.entries.any fun e => e.1 == username && e.2.role == .owner

structure ReducerResult where
  success : Bool
  newState : SessionState
  errorCode : Option ErrorCode := none
  errorMessage : Option String := none

def ReducerResult.accept (state : SessionState) : ReducerResult :=
  { success := true, newState := state }

def ReducerResult.refuse (state : SessionState) (r : Rejection) : ReducerResult :=
  { success := false, newState := state, errorCode := some r.code, errorMessage := some r.message }

/-! ### Tables keyed by message kind -/

/-- `PEER_KIND_TRANSITION_MAP`; `none` keeps the status. -/
def peerKindTransition : MessageKind → Option Status
  | .taskRequest => some .sent
  | .acceptance => some .accepted
  | .decline => some .declined
  | .clarification => some .needsClarification
  | .proposal => some .active
  | .counterproposal => some .active
  | .finding => some .active
  | .question => some .active
  | .answer => some .active
  | .artifactOffer => some .active
  | .artifactAccept => some .active
  | .approvalRequest => some .awaitingOwnerApproval
  | .finalResult => some .completed
  | .cancel => some .cancelled
  | .statusEvent => none
  | .plan => some .active
  | .participantChanged => none
  | .approvalDecision => none

/-- `TURN_CONSUMING_KINDS`. -/
def turnConsuming : MessageKind → Bool
  | .taskRequest | .proposal | .counterproposal | .finding | .question | .answer
  | .artifactOffer | .artifactAccept => true
  | _ => false

/-- `OWNER_ONLY_KINDS`. -/
def ownerOnly : MessageKind → Bool
  | .cancel | .approvalDecision => true
  | _ => false

/-! ### Peer envelopes -/

/-- The states in which the receiver may still accept with an agent of its choice. -/
def preAcceptance : Status → Bool
  | .draft | .sent | .queued | .delivered | .peerReview => true
  | _ => false

/-- `is_unaccepted_receiver_accept`, assigned only when there are participants. -/
def isUnacceptedReceiverAccept (state : SessionState) (envelope : SessionEnvelope) : Option Bool :=
  if state.participants.isEmpty then none
  else some (envelope.kind == .acceptance && envelope.actorUsername == state.receiverUsername &&
    preAcceptance state.status)

/-- Stages 3 and 4: participant, agent and role. -/
def authorizeActor (state : SessionState) (envelope : SessionEnvelope) : Option Rejection :=
  if state.participants.isEmpty then none
  else match state.participants.get? envelope.actorUsername with
  | none => some ⟨.unauthorizedActor, "Actor '" ++ envelope.actorUsername ++
      "' is not a registered session participant."⟩
  | some info =>
      if envelope.actorAgentId ≠ info.agentId ∧
          isUnacceptedReceiverAccept state envelope ≠ some true then
        some ⟨.unauthorizedAgent, "Actor agent ID '" ++ envelope.actorAgentId ++
          "' does not match registered agent '" ++ info.agentId ++ "'."⟩
      else if ownerOnly envelope.kind ∧ info.role ≠ .owner then
        some ⟨.unauthorizedRoleAction, "Kind '" ++ envelope.kind.value ++
          "' requires human owner authority and cannot be issued by agent '" ++
          envelope.actorAgentId ++ "'."⟩
      else none

/-- `state.actor_sequences.get(actor, 0)`. -/
def SessionState.lastSequence (state : SessionState) (username : String) : Int :=
  (state.actorSequences.get? username).getD 0

/-- Stage 5: the sequence must be the actor's next one. -/
def checkSequence (state : SessionState) (envelope : SessionEnvelope) : Option Rejection :=
  let lastSeq := state.lastSequence envelope.actorUsername
  if envelope.sequence = lastSeq then
    some ⟨.duplicateSequence, "Duplicate sequence number " ++ toString envelope.sequence ++
      " from actor '" ++ envelope.actorUsername ++ "'."⟩
  else if envelope.sequence ≠ lastSeq + 1 then
    some ⟨.outOfOrderSequence, "Out of order sequence " ++ toString envelope.sequence ++
      " from actor '" ++ envelope.actorUsername ++ "' (expected " ++ toString (lastSeq + 1) ++ ")."⟩
  else none

def targetStatus (state : SessionState) (kind : MessageKind) : Status :=
  (peerKindTransition kind).getD state.status

/-- Stage 6: the matrix, with the receiver's acceptance exempt. The exemption
is only looked at when the matrix refuses, and is unbound without participants. -/
def checkTransition (state : SessionState) (envelope : SessionEnvelope) :
    Except PyExc (Option Rejection) :=
  let target := targetStatus state envelope.kind
  if target = state.status ∨ isValidTransition state.status target = true then .ok none
  else match isUnacceptedReceiverAccept state envelope with
  | none => .error .unboundLocalError
  | some true => .ok none
  | some false => .ok (some ⟨.invalidStateTransition, "Cannot transition from '" ++
      state.status.value ++ "' to '" ++ target.value ++ "' via envelope kind '" ++
      envelope.kind.name ++ "'."⟩)

/-- Stage 7: the turn limit. -/
def checkTurn (state : SessionState) (kind : MessageKind) : Option Rejection :=
  if turnConsuming kind ∧ state.maxTurns ≤ state.currentTurn ∧
      isTerminalState (targetStatus state kind) = false then
    some ⟨.turnLimitExceeded,
      "Session reached maximum turn limit (" ++ toString state.maxTurns ++ ")."⟩
  else none

/-- `payload.get("accepting_agent_id") or payload.get("receiver_agent_id") or actor_agent_id`. -/
def acceptingAgentId (envelope : SessionEnvelope) : Json :=
  Fields.firstTruthy (envelope.payload.getD "accepting_agent_id" .null)
    (Fields.firstTruthy (envelope.payload.getD "receiver_agent_id" .null)
      (.text envelope.actorAgentId))

/-- The participants after an accepted envelope. `ParticipantInfo` is strict, so
an accepting agent id that is not a string raises. -/
def participantsAfter (state : SessionState) (envelope : SessionEnvelope) :
    Except PyExc (Dict String ParticipantInfo) :=
  if envelope.kind = .acceptance then
    match asText (acceptingAgentId envelope) with
    | none => .error .validationError
    | some agentId =>
        let role := if envelope.actorUsername = state.receiverUsername then .receiver else .owner
        .ok (state.participants.set envelope.actorUsername ⟨agentId, role⟩)
  else .ok state.participants

/-- `envelope.model_dump(mode="json")`. -/
def dumpEnvelope (envelope : SessionEnvelope) : EventEntry where
  eventId := none
  sequence := some envelope.sequence
  actorUsername := envelope.actorUsername
  kind := .message envelope.kind
  visibility := none
  payload := .obj envelope.payload

def applyEnvelope (state : SessionState) (envelope : SessionEnvelope)
    (participants : Dict String ParticipantInfo) : SessionState :=
  let target := targetStatus state envelope.kind
  { state with
    status := target
    currentTurn := if turnConsuming envelope.kind then state.currentTurn + 1 else state.currentTurn
    actorSequences := state.actorSequences.set envelope.actorUsername envelope.sequence
    participants
    lastResumableStatus :=
      if isResumable target && !isResumable state.status then some state.status
      else state.lastResumableStatus
    events := state.events ++ [dumpEnvelope envelope] }

def processPeerEnvelope (state : SessionState) (envelope : SessionEnvelope) :
    Except PyExc ReducerResult :=
  -- 1. terminal states are immutable
  if isTerminalState state.status then
    .ok (.refuse state ⟨.terminalStateImmutable, "Session is in terminal state '" ++
      state.status.value ++ "' and cannot accept new events."⟩)
  -- 2. session id
  else if envelope.sessionId ≠ state.sessionId then
    .ok (.refuse state ⟨.sessionIdMismatch, "Envelope session_id '" ++ envelope.sessionId ++
      "' does not match state '" ++ state.sessionId ++ "'."⟩)
  else match authorizeActor state envelope with
  | some r => .ok (.refuse state r)
  | none =>
  match checkSequence state envelope with
  | some r => .ok (.refuse state r)
  | none =>
  match checkTransition state envelope with
  | .error e => .error e
  | .ok (some r) => .ok (.refuse state r)
  | .ok none =>
  match checkTurn state envelope.kind with
  | some r => .ok (.refuse state r)
  | none =>
  match participantsAfter state envelope with
  | .error e => .error e
  | .ok participants => .ok (.accept (applyEnvelope state envelope participants))

/-! ### Node commands -/

inductive NodeCommand
  | markQueued
  | markDelivered
  | markPeerReview
  | markActive
  | markExpired
  | markFailed
  | markAwaitingPeer
  | markAwaitingOwnerApproval
  | unknown (name : String)
  deriving DecidableEq, Repr

def NodeCommand.name : NodeCommand → String
  | .markQueued => "mark_queued"
  | .markDelivered => "mark_delivered"
  | .markPeerReview => "mark_peer_review"
  | .markActive => "mark_active"
  | .markExpired => "mark_expired"
  | .markFailed => "mark_failed"
  | .markAwaitingPeer => "mark_awaiting_peer"
  | .markAwaitingOwnerApproval => "mark_awaiting_owner_approval"
  | .unknown name => name

/-- `NODE_COMMAND_MAP`. -/
def NodeCommand.target : NodeCommand → Option Status
  | .markQueued => some .queued
  | .markDelivered => some .delivered
  | .markPeerReview => some .peerReview
  | .markActive => some .active
  | .markExpired => some .expired
  | .markFailed => some .failed
  | .markAwaitingPeer => some .awaitingPeer
  | .markAwaitingOwnerApproval => some .awaitingOwnerApproval
  | .unknown _ => none

def processNodeCommand (state : SessionState) (command : NodeCommand) : ReducerResult :=
  if isTerminalState state.status then
    .refuse state ⟨.terminalStateImmutable,
      "Session is in terminal state '" ++ state.status.value ++ "'."⟩
  else match command.target with
  | none => .refuse state ⟨.unknownNodeCommand,
      "Unknown local node command '" ++ command.name ++ "'."⟩
  | some target =>
      if isValidTransition state.status target = false then
        .refuse state ⟨.invalidStateTransition, "Node command '" ++ command.name ++
          "' cannot transition from '" ++ state.status.value ++ "' to '" ++ target.value ++ "'."⟩
      else .accept { state with status := target }

/-! ### Owner commands -/

inductive DecisionKind
  | approveOnce
  | deny
  | editConstraints
  | alwaysAllowBounded
  deriving DecidableEq, Repr

def DecisionKind.value : DecisionKind → String
  | .approveOnce => "approve_once"
  | .deny => "deny"
  | .editConstraints => "edit_constraints"
  | .alwaysAllowBounded => "always_allow_bounded"

inductive OwnerAction
  | ownerPause
  | ownerResume
  | ownerCancel
  | ownerApprovalDecision (decision : Option String)
  | unknown (name : String)
  deriving DecidableEq, Repr

def OwnerAction.name : OwnerAction → String
  | .ownerPause => "owner_pause"
  | .ownerResume => "owner_resume"
  | .ownerCancel => "owner_cancel"
  | .ownerApprovalDecision _ => "owner_approval_decision"
  | .unknown name => name

/-- The status an owner action aims at, or why it is refused. -/
def OwnerAction.target : OwnerAction → Except Rejection Status
  | .ownerPause => .ok .paused
  | .ownerResume => .ok .active
  | .ownerCancel => .ok .cancelled
  | .ownerApprovalDecision decision =>
      if decision ∈ [some "approve_once", some "always_allow_bounded", some "edit_constraints"] then
        .ok .active
      else if decision = some "deny" then .ok .paused
      else .error ⟨.invalidApprovalDecision,
        "Invalid approval decision '" ++ decision.getD "None" ++ "'."⟩
  | .unknown name => .error ⟨.unknownOwnerAction, "Unknown owner action '" ++ name ++ "'."⟩

def processOwnerCommand (state : SessionState) (ownerUsername : String) (action : OwnerAction) :
    ReducerResult :=
  if state.isOwner ownerUsername = false then
    .refuse state ⟨.unauthorizedOwner,
      "User '" ++ ownerUsername ++ "' is not a recognized human owner of this session."⟩
  else if isTerminalState state.status then
    .refuse state ⟨.terminalStateImmutable,
      "Session is in terminal state '" ++ state.status.value ++ "'."⟩
  else match action.target with
  | .error r => .refuse state r
  | .ok target =>
      if target ≠ state.status ∧ isValidTransition state.status target = false then
        .refuse state ⟨.invalidStateTransition, "Owner action '" ++ action.name ++
          "' cannot transition from '" ++ state.status.value ++ "' to '" ++ target.value ++ "'."⟩
      else
        .accept { state with
          status := target
          lastResumableStatus :=
            if isResumable target then some state.status else state.lastResumableStatus }

/-! ### What an accepted envelope says

One statement collects every guard of `processPeerEnvelope`; the later proofs
take a reducer run apart through it and never unfold the function. -/

/-- Every check of `processPeerEnvelope` passes, and `participants` is the map
the new state gets. -/
structure Admitted (state : SessionState) (envelope : SessionEnvelope)
    (participants : Dict String ParticipantInfo) : Prop where
  live : isTerminalState state.status = false
  session : envelope.sessionId = state.sessionId
  actor : authorizeActor state envelope = none
  sequence : checkSequence state envelope = none
  transition : checkTransition state envelope = .ok none
  turn : checkTurn state envelope.kind = none
  after : participantsAfter state envelope = .ok participants

theorem processPeerEnvelope_of_admitted {state : SessionState} {envelope : SessionEnvelope}
    {participants : Dict String ParticipantInfo} (h : Admitted state envelope participants) :
    processPeerEnvelope state envelope =
      .ok (.accept (applyEnvelope state envelope participants)) := by
  simp [processPeerEnvelope, h.live, h.session, h.actor, h.sequence, h.transition, h.turn, h.after]

theorem admitted_of_processPeerEnvelope {state : SessionState} {envelope : SessionEnvelope}
    {result : ReducerResult} (h : processPeerEnvelope state envelope = .ok result)
    (hs : result.success = true) :
    ∃ participants, Admitted state envelope participants ∧
      result = .accept (applyEnvelope state envelope participants) := by
  unfold processPeerEnvelope at h
  split at h
  · cases h; cases hs
  rename_i hlive
  split at h
  · cases h; cases hs
  rename_i hsession
  split at h
  · cases h; cases hs
  rename_i hactor
  split at h
  · cases h; cases hs
  rename_i hsequence
  split at h
  · cases h
  · cases h; cases hs
  rename_i htransition
  split at h
  · cases h; cases hs
  rename_i hturn
  split at h
  · cases h
  rename_i participants hafter
  cases h
  exact ⟨participants, ⟨by simpa using hlive, by simpa using hsession, hactor, hsequence,
    htransition, hturn, hafter⟩, rfl⟩

theorem processPeerEnvelope_refused {state : SessionState} {envelope : SessionEnvelope}
    {result : ReducerResult} (h : processPeerEnvelope state envelope = .ok result)
    (hs : result.success = false) :
    ∃ r, result = .refuse state r := by
  unfold processPeerEnvelope at h
  split at h
  · exact ⟨_, (Except.ok.inj h).symm⟩
  split at h
  · exact ⟨_, (Except.ok.inj h).symm⟩
  split at h
  · exact ⟨_, (Except.ok.inj h).symm⟩
  split at h
  · exact ⟨_, (Except.ok.inj h).symm⟩
  split at h
  · cases h
  · exact ⟨_, (Except.ok.inj h).symm⟩
  split at h
  · exact ⟨_, (Except.ok.inj h).symm⟩
  split at h
  · cases h
  · cases h; cases hs

theorem checkSequence_eq_none {state : SessionState} {envelope : SessionEnvelope} :
    checkSequence state envelope = none ↔
      envelope.sequence = state.lastSequence envelope.actorUsername + 1 := by
  simp only [checkSequence]
  split
  · simp; omega
  · split <;> simp_all

/-- The transition check passes when the target is the current status, an edge
of the matrix, or the receiver's own acceptance. -/
theorem checkTransition_eq_none {state : SessionState} {envelope : SessionEnvelope} :
    checkTransition state envelope = .ok none ↔
      targetStatus state envelope.kind = state.status ∨
      isValidTransition state.status (targetStatus state envelope.kind) = true ∨
      isUnacceptedReceiverAccept state envelope = some true := by
  simp only [checkTransition]
  split
  · simp_all only [true_iff]
    rename_i h
    tauto
  · rename_i h
    rw [not_or] at h
    rcases hu : isUnacceptedReceiverAccept state envelope with _ | _ | _ <;> simp [h]

theorem checkTurn_eq_none {state : SessionState} {kind : MessageKind} :
    checkTurn state kind = none ↔
      (turnConsuming kind = true → state.currentTurn < state.maxTurns ∨
        isTerminalState (targetStatus state kind) = true) := by
  unfold checkTurn
  split
  · rename_i h
    simp [h.1, h.2.2]
    omega
  · rename_i h
    simp only [true_iff]
    intro hk
    by_contra hc
    rw [not_or] at hc
    exact h ⟨hk, by omega, by simpa using hc.2⟩

theorem isUnacceptedReceiverAccept_eq_some_true {state : SessionState}
    {envelope : SessionEnvelope} :
    isUnacceptedReceiverAccept state envelope = some true ↔
      state.participants.isEmpty = false ∧ envelope.kind = .acceptance ∧
        envelope.actorUsername = state.receiverUsername ∧ preAcceptance state.status = true := by
  unfold isUnacceptedReceiverAccept
  split
  · simp_all
  · simp_all [and_assoc]

/-! ### Commands -/

/-- A node command succeeds exactly on an edge of the matrix, and changes
nothing but the status. -/
theorem processNodeCommand_cases (state : SessionState) (command : NodeCommand) :
    (∃ target, command.target = some target ∧ isValidTransition state.status target = true ∧
      processNodeCommand state command = .accept { state with status := target }) ∨
    (∃ r, processNodeCommand state command = .refuse state r) ∧
      ∀ target, command.target = some target → isValidTransition state.status target = false := by
  unfold processNodeCommand
  split
  · rename_i ht
    exact .inr ⟨⟨_, rfl⟩, fun t _ => isValidTransition_of_terminal ht t⟩
  · split
    · exact .inr ⟨⟨_, rfl⟩, by simp_all⟩
    · rename_i target htarget
      split
      · rename_i hv
        exact .inr ⟨⟨_, rfl⟩, by simp_all⟩
      · rename_i hv
        exact .inl ⟨target, htarget, by simpa using hv, rfl⟩

/-- An owner command succeeds only for an owner, outside the terminal states,
towards its target, and changes nothing but the status and the checkpoint. -/
theorem processOwnerCommand_cases (state : SessionState) (owner : String) (action : OwnerAction) :
    (∃ target last, action.target = .ok target ∧
      isTerminalState state.status = false ∧ state.isOwner owner = true ∧
      (target = state.status ∨ isValidTransition state.status target = true) ∧
      processOwnerCommand state owner action =
        .accept { state with status := target, lastResumableStatus := last }) ∨
    ∃ r, processOwnerCommand state owner action = .refuse state r := by
  unfold processOwnerCommand
  split
  · exact .inr ⟨_, rfl⟩
  · rename_i howner
    split
    · exact .inr ⟨_, rfl⟩
    · rename_i hlive
      split
      · exact .inr ⟨_, rfl⟩
      · rename_i target htarget
        split
        · exact .inr ⟨_, rfl⟩
        · rename_i hv
          refine .inl ⟨target, _, htarget, by simpa using hlive, by simpa using howner, ?_, rfl⟩
          by_cases he : target = state.status
          · exact .inl he
          · exact .inr (by simpa [he] using hv)

end Kin.Session
