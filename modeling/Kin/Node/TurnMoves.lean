import Kin.Node.Run
import Kin.Session.Orchestrator

/-!
The stages of a turn as chains of moves: what the adapter answered is written to
the log, to the approvals and to the vault, and commands move the status. No
stage before the message commits an envelope.
-/

namespace Kin.Node

open Kin.Py Kin.Lib Kin.Schemas Kin.Session Kin.Storage Kin.Audit Kin.Artifacts Kin.Policy
  Kin.Transport

variable {envelopes : IngestContext → Db → SessionEnvelope → Prop} (sender : Sender)
  (sid agentId : String) (turn : Turn)

theorem Move.of_sameTables {db db' : Db} (h : SameTables db db') : Move envelopes db db' :=
  .quiet (sameSessions_of_sameTables h)

theorem Move.audit (db : Db) (category summary : String) (sid actor : Option String) :
    Move envelopes db (db.writeAuditEvent category summary sid actor) :=
  .of_sameTables (sameTables_writeAuditEvent ..)

theorem Move.command (db : Db) (command : NodeCommand) :
    Move envelopes db (turnCommand sender sid db command) :=
  nodeCommand_move ..

theorem Move.appendLocal (ext : Externals) (db : Db) {ev : NewEvent} (hseq : ev.sequence = none) :
    Move envelopes db (appendSessionEvent ext db ev).1 := by
  rcases appendSessionEvent_cases ext db ev with ⟨happ, hrow, -, -⟩ | ⟨hsame, -⟩
  · exact .append hseq hrow happ
  · exact .of_sameTables hsame

theorem appendActivities_moves (db : Db) (events : List AdapterEvent) :
    Relation.ReflTransGen (Move envelopes) db (appendActivities sender sid agentId db events).1 := by
  induction events generalizing db with
  | nil => exact .refl
  | cons event events ih =>
      cases event with
      | activity label =>
          have happend : Move envelopes db (appendSessionEvent sender.ext db
            (activityEvent sender sid agentId label)).1 := .appendLocal _ _ rfl
          unfold appendActivities
          split
          · rename_i heq
            rw [heq] at happend
            exact .single happend
          · rename_i db1 _ heq
            rw [heq] at happend
            exact .head happend (ih db1)
      | approvalRequest approvalId requestSession actionClass expiresAt => exact ih db
      | other => exact ih db

/-- The database a stage leaves, whether the turn goes on or not. -/
def stageDb : Except TurnResult Db → Db
  | .ok db => db
  | .error result => result.db

theorem awaitApproval_moves (db : Db) (approvalId requestSession actionClass expiresAt : String) :
    Relation.ReflTransGen (Move envelopes) db
      (awaitApproval sender sid agentId db approvalId requestSession actionClass expiresAt).db := by
  unfold awaitApproval createPendingApproval
  split
  · exact .refl
  · rename_i db1 hdb
    split at hdb
    · cases hdb
    · cases hdb
      exact .head (.quiet ⟨_, sameTables_writeAuditEvent ..⟩) (.single (.command ..))

theorem evaluateAction_move (db : Db) (actionClass : String) :
    Move envelopes db (evaluateAction turn db actionClass).1 :=
  .quiet ⟨_, .refl _⟩

theorem gateApprovals_moves (db : Db) (events : List AdapterEvent) :
    Relation.ReflTransGen (Move envelopes) db
      (stageDb (gateApprovals sender sid agentId turn db events)) := by
  induction events generalizing db with
  | nil => exact .refl
  | cons event events ih =>
      cases event with
      | activity label => exact ih db
      | other => exact ih db
      | approvalRequest approvalId requestSession actionClass expiresAt =>
          unfold gateApprovals
          simp only
          split
          · exact .single (evaluateAction_move turn db actionClass)
          · exact .head (evaluateAction_move turn db actionClass) (ih _)
          · exact .head (evaluateAction_move turn db actionClass) (.head (.audit ..) (ih _))
          · exact .head (evaluateAction_move turn db actionClass) (awaitApproval_moves ..)

theorem gateMessage_moves (db : Db) :
    Relation.ReflTransGen (Move envelopes) db
      (stageDb (gateMessage sender sid agentId turn db)) := by
  unfold gateMessage
  split
  · exact .refl
  refine .head (evaluateAction_move turn db "informational_relay") ?_
  simp only
  split
  · exact .refl
  · exact .refl
  · exact .head (.audit ..) (.single (.command ..))
  · exact awaitApproval_moves ..

theorem storeArtifacts_moves (maxBytes : Int) (db : Db) (arts : List AdapterArtifact) :
    Relation.ReflTransGen (Move envelopes) db
      (stageDb (storeArtifacts sender sid maxBytes db arts)) := by
  induction arts generalizing db with
  | nil => exact .refl
  | cons art arts ih =>
      unfold storeArtifacts
      split
      · rename_i db1 row hstore
        obtain ⟨artifacts, rfl⟩ := storeArtifact_ok hstore
        rw [incrementSessionArtifactBytes_eq]
        have hstores : Stores db sid
            ((db.withArtifacts artifacts).updateSession sid (addBytes art.bytes.length)) :=
          ⟨artifacts, _, .refl _⟩
        have hmove : Transport.Move sender.ext sender.now envelopes db _ := .store hstores
        exact .head (.ingest hmove) (ih _)
      · exact .head (.audit ..) (.single (.command ..))

/-- The database with which a turn is past its gates and its artifacts. -/
def cleared? (db : Db) (card : AgentRow) : Option Db :=
  if turn.response.error.isSome || !turn.valid then none
  else
  match appendActivities sender sid agentId db turn.response.events with
  | (_, .error _) => none
  | (db, .ok ()) =>
  match gateApprovals sender sid agentId turn db turn.response.events with
  | .error _ => none
  | .ok db =>
  match gateMessage sender sid agentId turn db with
  | .error _ => none
  | .ok db => (storeArtifacts sender sid (cardMaxBytes card) db turn.response.artifacts).toOption

def finishTurn (db : Db) (peer : String) : TurnResult :=
  match turn.response.message with
  | none => { db, exit := .ok .advanced }
  | some (kind, content) => sendTurnMessage sender sid agentId turn db peer kind content

/-- After the adapter's answer a turn makes moves, and what it does past its gates comes
after them. -/
theorem handleResponse_cleared (db : Db) (card : AgentRow) (peer : String) :
    (cleared? sender sid agentId turn db card = none ∧
      Relation.ReflTransGen (Move envelopes) db
        (handleResponse sender sid agentId turn db card peer).db) ∨
    ∃ db', cleared? sender sid agentId turn db card = some db' ∧
      Relation.ReflTransGen (Move envelopes) db db' ∧
      handleResponse sender sid agentId turn db card peer =
        finishTurn sender sid agentId turn db' peer := by
  unfold cleared? handleResponse
  cases turn.response.error with
  | some error =>
      refine .inl ⟨rfl, ?_⟩
      simp only
      split
      · exact .single (.audit ..)
      · exact .head (.audit ..) (.single (.command ..))
  | none =>
  cases turn.valid with
  | false => exact .inl ⟨rfl, .single (.command ..)⟩
  | true =>
  simp only [Option.isSome_none, Bool.not_true, Bool.or_self, Bool.false_eq_true, if_false,
    Bool.true_eq_false]
  have h1 : Relation.ReflTransGen (Move envelopes) db _ :=
    appendActivities_moves sender sid agentId db turn.response.events
  cases happend : appendActivities sender sid agentId db turn.response.events with
  | mk db1 exit =>
  rw [happend] at h1
  cases exit with
  | error e => exact .inl ⟨rfl, h1⟩
  | ok _ =>
  dsimp only
  have h2 := h1.trans (gateApprovals_moves sender sid agentId turn db1 turn.response.events)
  cases hrequests : gateApprovals sender sid agentId turn db1 turn.response.events with
  | error result =>
      rw [hrequests] at h2
      exact .inl ⟨rfl, h2⟩
  | ok db2 =>
  rw [hrequests] at h2
  dsimp only
  have h3 := h2.trans (gateMessage_moves sender sid agentId turn db2)
  cases hmessage : gateMessage sender sid agentId turn db2 with
  | error result =>
      rw [hmessage] at h3
      exact .inl ⟨rfl, h3⟩
  | ok db3 =>
  rw [hmessage] at h3
  dsimp only
  have h4 := h3.trans (storeArtifacts_moves sender sid (cardMaxBytes card) db3
    turn.response.artifacts)
  cases hstore : storeArtifacts sender sid (cardMaxBytes card) db3 turn.response.artifacts with
  | error result =>
      rw [hstore] at h4
      exact .inl ⟨rfl, h4⟩
  | ok db4 =>
      rw [hstore] at h4
      exact .inr ⟨db4, rfl, h4, rfl⟩

/-- After the adapter's answer a turn makes moves, and at most sends its message
after them. -/
theorem handleResponse_cases (db : Db) (card : AgentRow) (peer : String) :
    Relation.ReflTransGen (Move envelopes) db
        (handleResponse sender sid agentId turn db card peer).db ∨
      ∃ db' kind content, Relation.ReflTransGen (Move envelopes) db db' ∧
        turn.response.message = some (kind, content) ∧
        handleResponse sender sid agentId turn db card peer =
          sendTurnMessage sender sid agentId turn db' peer kind content := by
  rcases handleResponse_cleared sender sid agentId turn db card peer with
    ⟨-, hmoves⟩ | ⟨db', -, hmoves, heq⟩
  · exact .inl hmoves
  · rw [heq]
    unfold finishTurn
    split
    · exact .inl hmoves
    · rename_i kind content hmessage
      exact .inr ⟨db', kind, content, hmoves, hmessage, rfl⟩

end Kin.Node
