import Mathlib.Data.List.Basic

/-!
The session lifecycle: `VALID_TRANSITIONS`, `TERMINAL_STATES` and
`RESUMABLE_STATES` of `kin/session/transition_matrix.py`. The status column is
free text in the database; a text outside the sixteen lifecycle states is kept
as `other`.
-/

namespace Kin.Session

inductive Status
  | draft
  | sent
  | queued
  | delivered
  | peerReview
  | needsClarification
  | accepted
  | active
  | awaitingOwnerApproval
  | awaitingPeer
  | paused
  | completed
  | failed
  | cancelled
  | expired
  | declined
  | other (name : String)
  deriving DecidableEq, Repr

namespace Status

/-- The text of the status column. -/
def value : Status → String
  | .draft => "draft"
  | .sent => "sent"
  | .queued => "queued"
  | .delivered => "delivered"
  | .peerReview => "peer_review"
  | .needsClarification => "needs_clarification"
  | .accepted => "accepted"
  | .active => "active"
  | .awaitingOwnerApproval => "awaiting_owner_approval"
  | .awaitingPeer => "awaiting_peer"
  | .paused => "paused"
  | .completed => "completed"
  | .failed => "failed"
  | .cancelled => "cancelled"
  | .expired => "expired"
  | .declined => "declined"
  | .other name => name

end Status

/-- `VALID_TRANSITIONS.get(current, set())`. -/
def validTransitions : Status → List Status
  | .draft => [.sent, .cancelled, .expired]
  | .sent => [.queued, .delivered, .accepted, .failed, .expired]
  | .queued => [.delivered, .accepted, .failed, .expired]
  | .delivered => [.peerReview, .accepted, .failed, .expired]
  | .peerReview => [.accepted, .declined, .needsClarification, .cancelled, .expired]
  | .needsClarification => [.peerReview, .cancelled, .failed, .expired]
  | .accepted => [.active, .cancelled, .expired]
  | .active =>
      [.awaitingOwnerApproval, .awaitingPeer, .paused, .completed, .failed, .cancelled, .expired]
  | .awaitingOwnerApproval => [.active, .paused, .failed, .cancelled, .expired]
  | .awaitingPeer => [.active, .paused, .failed, .cancelled, .expired]
  | .paused => [.active, .cancelled, .failed, .expired]
  | .completed | .failed | .cancelled | .expired | .declined => []
  | .other _ => []

def isValidTransition (current next : Status) : Bool := decide (next ∈ validTransitions current)

/-- Membership in `TERMINAL_STATES`. -/
def isTerminalState : Status → Bool
  | .completed | .failed | .cancelled | .expired | .declined => true
  | _ => false

/-- Membership in `RESUMABLE_STATES`. -/
def isResumable : Status → Bool
  | .awaitingOwnerApproval | .awaitingPeer | .paused => true
  | _ => false

/-- No edge of the matrix leaves a terminal state. -/
theorem isValidTransition_of_terminal {s : Status} (h : isTerminalState s = true) (t : Status) :
    isValidTransition s t = false := by
  cases s <;> first | rfl | simp [isTerminalState] at h

end Kin.Session
