import Kin.Session.Orchestrator

/-!
The part of `advance_session_turn` before the adapter answers: whether the turn
gets to its adapter, and the request it then hands over.
-/

namespace Kin.Session

open Kin.Py Kin.Lib Kin.Schemas Kin.Storage Kin.Audit Kin.Artifacts Kin.Transport

structure Invocation where
  row : SessionRow
  agentId : String
  card : AgentRow

/-- A turn that gets to its adapter: the checks before the call, in order, of the
session, its status, the owner's participant, the agent's card and the budgets. -/
def invocation? (sender : Sender) (db : Db) (sessionId : String) : Option Invocation := do
  let row ← db.session? sessionId
  let state := stateOf sender.ext row (db.eventsOf sessionId)
  if refusesTurn state.status then none
  else
    let info ← state.participants.get? sender.username
    let card ← db.getCard info.agentId
    match exhaustedReason sender.ext row state.currentTurn sender.now with
    | .ok none => some ⟨row, info.agentId, card⟩
    | _ => none

def invokedRequest? (sender : Sender) (readCard : AgentRow → CardView) (db : Db)
    (sessionId : String) : Option AdapterRequest :=
  (invocation? sender db sessionId).map fun i =>
    adapterRequest sender db i.row (stateOf sender.ext i.row (db.eventsOf sessionId)) i.agentId
      (readCard i.card)

variable {sender : Sender} {db : Db} {sid : String} {i : Invocation}

/-- A turn that gets to its adapter pays for the call first, and then handles the
answer. -/
theorem advanceSessionTurn_of_some {turn : Turn} (h : invocation? sender db sid = some i) :
    advanceSessionTurn sender db sid turn =
      handleResponse sender sid i.agentId turn (db.updateSession sid addCost) i.card
        (peerOf sender i.row) := by
  unfold invocation? at h
  unfold advanceSessionTurn
  cases hrow : db.session? sid with
  | none => simp [hrow] at h
  | some row =>
  simp only [hrow, Option.bind_eq_bind, Option.bind_some] at h ⊢
  split at h
  · cases h
  rename_i hrefuses
  rw [if_neg hrefuses]
  cases hinfo : (stateOf sender.ext row (db.eventsOf sid)).participants.get? sender.username with
  | none => simp [hinfo] at h
  | some info =>
  simp only [hinfo, Option.bind_some] at h ⊢
  cases hcard : db.getCard info.agentId with
  | none => simp [hcard] at h
  | some card =>
  simp only [hcard, Option.bind_some] at h ⊢
  split at h
  · rename_i hreason
    cases h
    rewrite [hreason]
    rfl
  · cases h

def exhaustedTurn (sender : Sender) (db : Db) (sessionId reason : String) : TurnResult :=
  let paused := pauseSession sender db sessionId reason
  match paused.exit with
  | .error e => { db := paused.db, exit := .error e }
  | .ok () =>
      { db := paused.db.writeAuditEvent "budget_exhausted" reason (some sessionId)
          (some sender.username)
        exit := .ok (.paused reason) }

theorem exhaustedTurn_db (sender : Sender) (db : Db) (sid reason : String) :
    (exhaustedTurn sender db sid reason).db = (pauseSession sender db sid reason).db ∨
      (exhaustedTurn sender db sid reason).db =
        (pauseSession sender db sid reason).db.writeAuditEvent "budget_exhausted" reason
          (some sid) (some sender.username) := by
  unfold exhaustedTurn
  dsimp only
  split
  · exact .inl rfl
  · exact .inr rfl

/-- A turn that does not get there raises or is paused. -/
theorem advanceSessionTurn_of_none (h : invocation? sender db sid = none) (turn : Turn) :
    (∃ e, advanceSessionTurn sender db sid turn = { db, exit := .error e }) ∨
      ∃ reason, advanceSessionTurn sender db sid turn = exhaustedTurn sender db sid reason := by
  unfold invocation? at h
  unfold advanceSessionTurn
  cases hrow : db.session? sid with
  | none => exact .inl ⟨_, rfl⟩
  | some row =>
  simp only [hrow, Option.bind_eq_bind, Option.bind_some] at h ⊢
  split at h
  · rename_i hrefuses
    rw [if_pos hrefuses]
    exact .inl ⟨_, rfl⟩
  rename_i hrefuses
  rw [if_neg hrefuses]
  cases hinfo : (stateOf sender.ext row (db.eventsOf sid)).participants.get? sender.username with
  | none => exact .inl ⟨_, rfl⟩
  | some info =>
  simp only [hinfo, Option.bind_some] at h ⊢
  cases hcard : db.getCard info.agentId with
  | none => exact .inl ⟨_, rfl⟩
  | some card =>
  simp only [hcard, Option.bind_some] at h ⊢
  split at h
  · cases h
  rename_i hreason
  split
  · exact .inl ⟨_, rfl⟩
  · exact .inr ⟨_, rfl⟩
  · rename_i hnone
    exact absurd hnone hreason

end Kin.Session
