import Mathlib.Data.List.Induction
import Kin.Audit.Writer

/-!
`reconstruct_session_state` and the two helpers that persist a command:
the state a reducer step starts from is read back from the session row and the
event log, the step runs on it, and the new status is written to the row.
-/

namespace Kin.Session

open Kin.Py Kin.Lib Kin.Schemas Kin.Storage Kin.Audit

/-- `column or default` for a nullable text column. -/
def textOr (column : Option String) (default : String) : String :=
  match column with
  | some s => if s = "" then default else s
  | none => default

/-- The participants map of a session row: each non-empty username, as an owner. -/
def rowParticipants (row : SessionRow) : Dict String ParticipantInfo :=
  let initiator :=
    if row.initiatorUsername = "" then Dict.empty
    else Dict.empty.set row.initiatorUsername
      ⟨textOr row.senderAgentId row.initiatorUsername, .owner⟩
  if row.receiverUsername = "" then initiator
  else initiator.set row.receiverUsername ⟨textOr row.receiverAgentId row.receiverUsername, .owner⟩

/-- One row of `SELECT actor_username, MAX(sequence) ... GROUP BY actor_username`,
accumulated over the events; an empty username is dropped. -/
def recordSequence (sequences : Dict String Int) (event : SessionEventRow) : Dict String Int :=
  match event.sequence with
  | none => sequences
  | some n =>
      if event.actorUsername = "" then sequences
      else sequences.set event.actorUsername
        (max (n : Int) ((sequences.get? event.actorUsername).getD n))

def eventSequences (events : List SessionEventRow) : Dict String Int :=
  events.foldl recordSequence .empty

/-- Whether an event's kind is one of `TURN_CONSUMING_KINDS`. -/
def countsAsTurn (event : SessionEventRow) : Bool :=
  match event.kind with
  | .message kind => turnConsuming kind
  | .internal _ => false

/-- The entry of `SessionState.events` for a stored event. -/
def eventEntry (ext : Externals) (event : SessionEventRow) : EventEntry where
  eventId := some event.eventId
  sequence := event.sequence
  actorUsername := event.actorUsername
  kind := event.kind
  visibility := some event.visibility
  payload :=
    match event.payload with
    | none => .obj []
    | some (.str (.text s)) => (ext.loads s).getD (.obj [(.text "raw", .text s)])
    | some v => v

def stateOf (ext : Externals) (row : SessionRow) (events : List SessionEventRow) : SessionState where
  sessionId := row.sessionId
  initiatorUsername := row.initiatorUsername
  receiverUsername := row.receiverUsername
  status := row.status
  currentTurn := events.countP countsAsTurn
  maxTurns := if row.turnLimit = 0 then 12 else row.turnLimit
  actorSequences := eventSequences events
  participants := rowParticipants row
  events := events.map (eventEntry ext)

def reconstructSessionState (ext : Externals) (db : Db) (sessionId : String) :
    Option SessionState :=
  (db.session? sessionId).map fun row => stateOf ext row (db.eventsOf sessionId)

/-- `UPDATE sessions SET status = ?, updated_at = ?`. -/
def setStatus (status : Status) (now : Instant) (row : SessionRow) : SessionRow :=
  { row with status, updatedAt := now }

@[simp] theorem setStatus_sessionId (status : Status) (now : Instant) (row : SessionRow) :
    (setStatus status now row).sessionId = row.sessionId := rfl

/-- The common tail of the two transition helpers: persist an accepted result,
audit a refused one. `label` names the command in the audit record. -/
def persistTransition (db : Db) (sessionId : String) (state : SessionState)
    (result : ReducerResult) (kind label : String) (now : Instant) : Db × Option SessionState :=
  if result.success then
    ((db.updateSession sessionId (setStatus result.newState.status now)).writeAuditEvent
      "session_status_updated"
      ("Session status updated to '" ++ result.newState.status.value ++ "' via " ++ label)
      (some sessionId), some result.newState)
  else
    (db.writeAuditEvent "session_status_rejected"
      (kind ++ " rejected on state '" ++ state.status.value ++ "': " ++
        result.errorMessage.getD "None") (some sessionId), none)

def applyNodeCommandTransition (ext : Externals) (db : Db) (sessionId : String)
    (command : NodeCommand) (now : Instant) : Db × Option SessionState :=
  match reconstructSessionState ext db sessionId with
  | none => (db, none)
  | some state =>
      persistTransition db sessionId state (processNodeCommand state command)
        ("Node command transition '" ++ command.name ++ "'") ("command '" ++ command.name ++ "'") now

def applyOwnerCommandTransition (ext : Externals) (db : Db) (sessionId ownerUsername : String)
    (action : OwnerAction) (now : Instant) : Db × Option SessionState :=
  match reconstructSessionState ext db sessionId with
  | none => (db, none)
  | some state =>
      persistTransition db sessionId state (processOwnerCommand state ownerUsername action)
        ("Owner command transition '" ++ action.name ++ "'")
        ("owner action '" ++ action.name ++ "'") now

/-! ### Sequences read back -/

theorem eventSequences_concat (events : List SessionEventRow) (event : SessionEventRow) :
    eventSequences (events ++ [event]) = recordSequence (eventSequences events) event := by
  rw [eventSequences, List.foldl_append, List.foldl_cons, List.foldl_nil, ← eventSequences]

theorem get?_eventSequences_empty (events : List SessionEventRow) :
    (eventSequences events).get? "" = none := by
  induction events using List.reverseRecOn with
  | nil => rfl
  | append_singleton events e ih =>
      rw [eventSequences_concat]
      unfold recordSequence
      split
      · exact ih
      · split
        · exact ih
        · rename_i hne
          rw [Dict.get?_set_of_ne _ _ (Ne.symm hne)]
          exact ih

/-! ### What a persisted command does to the database -/

def StatusWritten (db : Db) (sessionId : String) (status : Status) (now : Instant) (db' : Db) :
    Prop :=
  SameTables (db.updateSession sessionId (setStatus status now)) db'

theorem status?_of_session? {db : Db} {sid : String} {row : SessionRow}
    (h : db.session? sid = some row) : db.status? sid = some row.status := by
  rw [Db.status?, h]
  rfl

theorem status?_congr {db db' : Db} {sid : String} (h : db'.session? sid = db.session? sid) :
    db'.status? sid = db.status? sid := by
  rw [Db.status?, h, Db.status?]

theorem status?_of_statusWritten {db db' : Db} {sid sid' : String} {status : Status}
    {now : Instant} (h : StatusWritten db sid status now db') :
    db'.status? sid' = if sid' = sid then (db.status? sid).map fun _ => status
      else db.status? sid' := by
  unfold Db.status?
  rw [SameTables.session? h]
  split
  · rename_i hsid
    rw [hsid, session?_updateSession_self (fun _ => setStatus_sessionId _ _ _), Option.map_map,
      Option.map_map]
    rfl
  · rename_i hsid
    rw [session?_updateSession_of_ne (fun _ => setStatus_sessionId _ _ _) hsid]

/-- A node command either writes a status the matrix allows from the stored one,
or changes nothing but the audit table; it returns a state exactly in the first case. -/
theorem applyNodeCommandTransition_cases (ext : Externals) (db : Db) (sid : String)
    (command : NodeCommand) (now : Instant) :
    (∃ row target, db.session? sid = some row ∧ command.target = some target ∧
      isValidTransition row.status target = true ∧
      StatusWritten db sid target now (applyNodeCommandTransition ext db sid command now).1 ∧
      (applyNodeCommandTransition ext db sid command now).2 =
        some { stateOf ext row (db.eventsOf sid) with status := target }) ∨
    (SameTables db (applyNodeCommandTransition ext db sid command now).1 ∧
      (applyNodeCommandTransition ext db sid command now).2 = none ∧
      ∀ row target, db.session? sid = some row → command.target = some target →
        isValidTransition row.status target = false) := by
  unfold applyNodeCommandTransition reconstructSessionState
  cases hrow : db.session? sid with
  | none => exact .inr ⟨.refl db, rfl, by simp⟩
  | some row =>
      rcases processNodeCommand_cases (stateOf ext row (db.eventsOf sid)) command with
        ⟨target, htarget, hvalid, heq⟩ | ⟨⟨r, heq⟩, hno⟩
      · left
        refine ⟨row, target, rfl, htarget, hvalid, ?_, ?_⟩
        · simp only [Option.map_some, heq, persistTransition, ReducerResult.accept]
          exact sameTables_writeAuditEvent ..
        · simp [heq, persistTransition, ReducerResult.accept]
      · right
        refine ⟨?_, ?_, ?_⟩
        · simp only [Option.map_some, heq, persistTransition, ReducerResult.refuse]
          exact sameTables_writeAuditEvent ..
        · simp [heq, persistTransition, ReducerResult.refuse]
        · intro row' target hr ht
          cases hr
          exact hno target ht

/-- An owner command either writes the status its action aims at, or changes
nothing but the audit table. -/
theorem applyOwnerCommandTransition_cases (ext : Externals) (db : Db) (sid owner : String)
    (action : OwnerAction) (now : Instant) :
    (∃ row target, db.session? sid = some row ∧ action.target = .ok target ∧
      isTerminalState row.status = false ∧
      (target = row.status ∨ isValidTransition row.status target = true) ∧
      StatusWritten db sid target now (applyOwnerCommandTransition ext db sid owner action now).1 ∧
      (applyOwnerCommandTransition ext db sid owner action now).2.isSome = true) ∨
    (SameTables db (applyOwnerCommandTransition ext db sid owner action now).1 ∧
      (applyOwnerCommandTransition ext db sid owner action now).2 = none) := by
  unfold applyOwnerCommandTransition reconstructSessionState
  cases hrow : db.session? sid with
  | none => exact .inr ⟨.refl db, rfl⟩
  | some row =>
      rcases processOwnerCommand_cases (stateOf ext row (db.eventsOf sid)) owner action with
        ⟨target, last, htarget, hlive, _, hvalid, heq⟩ | ⟨r, heq⟩
      · left
        refine ⟨row, target, rfl, htarget, hlive, hvalid, ?_, ?_⟩
        · simp only [Option.map_some, heq, persistTransition, ReducerResult.accept]
          exact sameTables_writeAuditEvent ..
        · simp [heq, persistTransition, ReducerResult.accept]
      · right
        refine ⟨?_, ?_⟩
        · simp only [Option.map_some, heq, persistTransition, ReducerResult.refuse]
          exact sameTables_writeAuditEvent ..
        · simp [heq, persistTransition, ReducerResult.refuse]

end Kin.Session
