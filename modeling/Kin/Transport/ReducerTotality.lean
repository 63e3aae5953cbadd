import Kin.Transport.Answers

/-!
The three functions of the reducer as one function from a state and an input, and where it
returns a result. Node commands and owner commands always do. A peer envelope raises in two
places: the exemption of the receiver's acceptance is looked up without having been assigned,
and an acceptance names an agent that is no text.
-/

namespace Kin.Session

open Kin.Py Kin.Lib Kin.Schemas

def nodeCommands : List NodeCommand :=
  [.markQueued, .markDelivered, .markPeerReview, .markActive, .markExpired, .markFailed,
   .markAwaitingPeer, .markAwaitingOwnerApproval]

def NodeCommand.ofName (name : String) : NodeCommand :=
  (nodeCommands.find? fun command => decide (command.name = name)).getD (.unknown name)

/-- `(payload or {}).get("decision")`, as the message prints it: a value that is no text
prints as none of the four decisions. -/
def decisionOf (ext : Externals) (payload : Option Fields) : Option String :=
  match (payload.getD []).getD "decision" .null with
  | .null => none
  | .str (.text s) => some s
  | v => some (ext.strOf v)

def OwnerAction.ofCall (ext : Externals) (name : String) (payload : Option Fields) : OwnerAction :=
  if name = "owner_pause" then .ownerPause
  else if name = "owner_resume" then .ownerResume
  else if name = "owner_cancel" then .ownerCancel
  else if name = "owner_approval_decision" then .ownerApprovalDecision (decisionOf ext payload)
  else .unknown name

inductive ReducerInput
  | peerEnvelope (envelope : SessionEnvelope)
  | nodeCommand (command : String)
  | ownerCommand (ownerUsername action : String) (payload : Option Fields)

/-- `process_peer_envelope`, `process_node_command` or `process_owner_command`. -/
def ReducerInput.process (ext : Externals) (state : SessionState) :
    ReducerInput → Except PyExc ReducerResult
  | .peerEnvelope envelope => processPeerEnvelope state envelope
  | .nodeCommand command => .ok (processNodeCommand state (.ofName command))
  | .ownerCommand ownerUsername action payload =>
      .ok (processOwnerCommand state ownerUsername (.ofCall ext action payload))

/-- The call returns a result, and one without success has the state it was given. -/
def ReducerInput.Transparent (ext : Externals) (state : SessionState) (input : ReducerInput) :
    Prop :=
  ∃ result, input.process ext state = .ok result ∧
    (result.success = false → result.newState = state)

end Kin.Session

namespace Kin.Transport

open Kin.Py Kin.Lib Kin.Schemas Kin.Session

/-- The envelope gets to the transition check: the session is its own and live, its actor and
role are allowed, and its number is the next. -/
def reachesTransition (state : SessionState) (envelope : SessionEnvelope) : Bool :=
  decide (envelope.sessionId = state.sessionId) && inOrder state envelope

/-- The reducer can answer: no envelope that gets to the transition check asks for a transition
that the matrix lacks in a state without participants, or is a permitted acceptance that names
no text for its agent. -/
def answerable (state : SessionState) : ReducerInput → Bool
  | .peerEnvelope envelope =>
      !(reachesTransition state envelope &&
        (!permitted state envelope && state.participants.isEmpty ||
          permitted state envelope && lacksAgent envelope))
  | .nodeCommand _ => true
  | .ownerCommand _ _ _ => true

section

variable {ext : Externals} {state : SessionState}

theorem transparent_of_refuse {input : ReducerInput} {r : Rejection}
    (h : input.process ext state = .ok (.refuse state r)) : input.Transparent ext state :=
  ⟨_, h, fun _ => rfl⟩

theorem transparent_of_accept {input : ReducerInput} {next : SessionState}
    (h : input.process ext state = .ok (.accept next)) : input.Transparent ext state :=
  ⟨_, h, fun hno => Bool.noConfusion hno⟩

theorem not_transparent_of_error {input : ReducerInput} {e : PyExc}
    (h : input.process ext state = .error e) : ¬input.Transparent ext state := by
  rintro ⟨result, hresult, -⟩
  rw [h] at hresult
  cases hresult

theorem transparent_nodeCommand (command : String) :
    (ReducerInput.nodeCommand command).Transparent ext state := by
  rcases processNodeCommand_cases state (.ofName command) with ⟨_, -, -, h⟩ | ⟨⟨_, h⟩, -⟩
  · exact transparent_of_accept (congrArg Except.ok h)
  · exact transparent_of_refuse (congrArg Except.ok h)

theorem transparent_ownerCommand (ownerUsername action : String) (payload : Option Fields) :
    (ReducerInput.ownerCommand ownerUsername action payload).Transparent ext state := by
  rcases processOwnerCommand_cases state ownerUsername (.ofCall ext action payload) with
    ⟨_, _, -, -, -, -, h⟩ | ⟨_, h⟩
  · exact transparent_of_accept (congrArg Except.ok h)
  · exact transparent_of_refuse (congrArg Except.ok h)

/-- An envelope of another session is refused before anything can raise. -/
theorem refuse_of_otherSession {envelope : SessionEnvelope}
    (hsid : envelope.sessionId ≠ state.sessionId) :
    ∃ r, processPeerEnvelope state envelope = .ok (.refuse state r) := by
  unfold processPeerEnvelope
  by_cases hterminal : isTerminalState state.status = true
  · rw [if_pos hterminal]
    exact ⟨_, rfl⟩
  · rw [if_neg hterminal, if_pos hsid]
    exact ⟨_, rfl⟩

/-- A permitted acceptance takes no turn. -/
theorem checkTurn_of_lacksAgent {envelope : SessionEnvelope} (h : lacksAgent envelope = true) :
    checkTurn state envelope.kind = none := by
  rw [lacksAgent, Bool.and_eq_true, decide_eq_true_eq] at h
  rw [checkTurn_eq_none, h.1]
  exact fun hturn => Bool.noConfusion hturn

theorem transparent_peerEnvelope_iff (envelope : SessionEnvelope) :
    (ReducerInput.peerEnvelope envelope).Transparent ext state ↔
      answerable state (.peerEnvelope envelope) = true := by
  by_cases hsid : envelope.sessionId = state.sessionId
  · rcases processPeerEnvelope_cases hsid with
      ⟨⟨participants, hadmitted⟩, -, hpermitted, -, hagent⟩ | ⟨⟨r, hr⟩, hwhy⟩ |
        ⟨⟨e, he⟩, horder, hwhy⟩
    · refine iff_of_true
        (transparent_of_accept (processPeerEnvelope_of_admitted hadmitted)) ?_
      simp [answerable, hpermitted, hagent]
    · refine iff_of_true (transparent_of_refuse hr) ?_
      rcases hwhy with horder | ⟨hpermitted, hsome⟩ | ⟨hpermitted, hturn⟩
      · simp [answerable, reachesTransition, horder]
      · simp [answerable, hpermitted, hsome]
      · have hagent : lacksAgent envelope = false := by
          by_contra hlacks
          rw [checkTurn_of_lacksAgent (Bool.not_eq_false _ ▸ hlacks)] at hturn
          cases hturn
        simp [answerable, hpermitted, hagent]
    · refine iff_of_false (not_transparent_of_error he) ?_
      rcases hwhy with ⟨hpermitted, hempty⟩ | ⟨hpermitted, -, hagent⟩
      · simp [answerable, reachesTransition, hsid, horder, hpermitted, hempty]
      · simp [answerable, reachesTransition, hsid, horder, hpermitted, hagent]
  · obtain ⟨r, hr⟩ := refuse_of_otherSession hsid
    refine iff_of_true (transparent_of_refuse hr) ?_
    simp [answerable, reachesTransition, hsid]

end

/-- Every call of the reducer returns, and keeps the state where it refuses, exactly if it is
answerable. -/
theorem reducer_transparent_iff (ext : Externals) (state : SessionState) (input : ReducerInput) :
    input.Transparent ext state ↔ answerable state input = true := by
  cases input with
  | peerEnvelope envelope => exact transparent_peerEnvelope_iff envelope
  | nodeCommand command => exact iff_of_true (transparent_nodeCommand command) rfl
  | ownerCommand ownerUsername action payload =>
      exact iff_of_true (transparent_ownerCommand ownerUsername action payload) rfl

namespace Sample

def draft : SessionState :=
  { sessionId := "s1", initiatorUsername := "alice", receiverUsername := "bob" }

/-- `alice`'s first envelope is a proposal. -/
def proposed : SessionEnvelope where
  sessionId := "s1"
  sequence := 1
  sequence_pos := Nat.le_refl 1
  actorUsername := "alice"
  actorAgentId := "scout"
  timestamp := "2026-01-01T00:00:00Z"
  kind := .proposal
  contentHash := "hash"
  payload := [(.text "text", .text "first")]
  signature := none

end Sample

/-- The proposal asks for `active` from `draft`, and there are no participants. -/
theorem draft_proposal_raises :
    ¬(ReducerInput.peerEnvelope Sample.proposed).Transparent Sample.externals Sample.draft := by
  have hraises : processPeerEnvelope Sample.draft Sample.proposed = .error .unboundLocalError := by
    rfl
  exact not_transparent_of_error hraises

end Kin.Transport
