import Kin.Lib.Run
import Kin.Policy.Persistence
import Kin.Transport.IngestMoves
import Kin.Transport.Outbound

/-!
A node as a state machine: the database, and the operations that change its
sessions. Every operation except the unsequenced append is a chain of moves of
ingestion and of status writes by commands.
-/

namespace Kin.Node

open Kin.Py Kin.Lib Kin.Schemas Kin.Session Kin.Storage Kin.Audit Kin.Policy Kin.Transport

/-- `append_session_event` without a sequence. -/
structure LocalEvent where
  sessionId : String
  actorUsername : String
  actorAgentId : Option String
  kind : EventKind
  visibility : Visibility
  payload : Option Json
  signature : Option String
  createdAt : Instant

def LocalEvent.toNewEvent (ev : LocalEvent) : NewEvent :=
  { ev with sequence := none }

inductive Operation
  | ingest (ctx : IngestContext) (raw : Fields)
  | nodeCommand (ext : Externals) (sessionId : String) (command : NodeCommand) (now : Instant)
  | ownerCommand (ext : Externals) (sessionId ownerUsername : String) (action : OwnerAction)
      (now : Instant)
  | pause (sender : Sender) (sessionId reason : String)
  | resume (sender : Sender) (sessionId reason : String)
  | decide (ext : Externals) (args : ApprovalArgs)
  | append (ext : Externals) (event : LocalEvent)

def step (db : Db) : Operation → Db
  | .ingest ctx raw => (ingestEnvelope ctx db raw).db
  | .nodeCommand ext sid command now => (applyNodeCommandTransition ext db sid command now).1
  | .ownerCommand ext sid owner action now =>
      (applyOwnerCommandTransition ext db sid owner action now).1
  | .pause sender sid reason => (pauseSession sender db sid reason).db
  | .resume sender sid reason => (resumeSession sender db sid reason).db
  | .decide ext args => (decideApproval ext db args).1
  | .append ext event => (appendSessionEvent ext db event.toNewEvent).1

/-! ### Moves of a node -/

/-- One move of a node: a move of ingestion, a status written by a command along
the matrix, an unsequenced append, or a change outside sessions and log. -/
inductive Move (envelopes : IngestContext → Db → SessionEnvelope → Prop) : Db → Db → Prop
  | ingest {ext : Externals} {now : Instant} {db db' : Db}
      (h : Transport.Move ext now envelopes db db') : Move envelopes db db'
  | status {db db' : Db} {sid : String} {row : SessionRow} {target : Status} {now : Instant}
      (hrow : db.session? sid = some row) (hlive : isTerminalState row.status = false)
      (hedge : target = row.status ∨ isValidTransition row.status target = true)
      (hne : target ≠ .accepted) (h : StatusWritten db sid target now db') : Move envelopes db db'
  | append {db db' : Db} {ev : NewEvent} (hseq : ev.sequence = none)
      (hrow : (db.session? ev.sessionId).isSome = true) (h : Appended db ev db') :
      Move envelopes db db'
  | quiet {db db' : Db} (h : SameSessions db db') : Move envelopes db db'

theorem Move.mono {envelopes envelopes' : IngestContext → Db → SessionEnvelope → Prop}
    (hsub : ∀ under before envelope, envelopes under before envelope →
      envelopes' under before envelope)
    {db db' : Db} (h : Move envelopes db db') : Move envelopes' db db' := by
  cases h with
  | ingest h => exact .ingest (h.mono hsub)
  | status hrow hlive hedge hne hw => exact .status hrow hlive hedge hne hw
  | append hseq hrow happ => exact .append hseq hrow happ
  | quiet hsame => exact .quiet hsame

def Committable (db : Db) : Operation → IngestContext → Db → SessionEnvelope → Prop
  | .ingest ctx raw, under, before, envelope => Handles ctx db raw under before envelope
  | .pause _ sid _, _, _, envelope | .resume _ sid _, _, _, envelope =>
      envelope.sessionId = sid ∧ envelope.kind = .statusEvent ∨ envelope.kind = .artifactAccept
  | _, _, _, _ => False

theorem isTerminalState_eq_false_of_valid {s t : Status} (h : isValidTransition s t = true) :
    isTerminalState s = false := by
  by_contra hterm
  rw [isValidTransition_of_terminal (by simpa using hterm)] at h
  cases h

theorem nodeCommand_target_ne_accepted {command : NodeCommand} {target : Status}
    (h : command.target = some target) : target ≠ .accepted := by
  cases command <;> cases h <;> decide

theorem ownerAction_target_ne_accepted {action : OwnerAction} {target : Status}
    (h : action.target = .ok target) : target ≠ .accepted := by
  unfold OwnerAction.target at h
  split at h
  · cases h; decide
  · cases h; decide
  · cases h; decide
  · split at h
    · cases h; decide
    · split at h
      · cases h; decide
      · cases h
  · cases h

variable {envelopes : IngestContext → Db → SessionEnvelope → Prop}

theorem nodeCommand_move (ext : Externals) (db : Db) (sid : String) (command : NodeCommand)
    (now : Instant) : Move envelopes db (applyNodeCommandTransition ext db sid command now).1 := by
  rcases applyNodeCommandTransition_cases ext db sid command now with
    ⟨row, target, hrow, htarget, hvalid, hw, -⟩ | ⟨hsame, -, -⟩
  · exact .status hrow (isTerminalState_eq_false_of_valid hvalid) (.inr hvalid)
      (nodeCommand_target_ne_accepted htarget) hw
  · exact .quiet (sameSessions_of_sameTables hsame)

theorem ownerCommand_move (ext : Externals) (db : Db) (sid owner : String) (action : OwnerAction)
    (now : Instant) :
    Move envelopes db (applyOwnerCommandTransition ext db sid owner action now).1 := by
  rcases applyOwnerCommandTransition_cases ext db sid owner action now with
    ⟨row, target, hrow, htarget, hlive, hedge, hw, -⟩ | ⟨hsame, -⟩
  · exact .status hrow hlive hedge (ownerAction_target_ne_accepted htarget) hw
  · exact .quiet (sameSessions_of_sameTables hsame)

theorem ingest_moves {ctx : IngestContext} {db : Db} {raw : Fields}
    (henv : ∀ under before envelope, Handles ctx db raw under before envelope →
      envelopes under before envelope) :
    Relation.ReflTransGen (Move envelopes) db (ingestEnvelope ctx db raw).db := by
  have hsub : Transport.Move ctx.ext ctx.now (Handles ctx db raw) ≤ Move envelopes :=
    fun _ _ h => .ingest (h.mono henv)
  exact Relation.ReflTransGen.mono hsub _ _ (ingestEnvelope_moves ctx db raw)

/-- The envelope of a pause or a resume is a status event of the session. -/
theorem verified_signedEnvelope {ctx : IngestContext} {db : Db} {sender : Sender}
    {sid agentId contentHash : String} {sequence : Nat} {kind : MessageKind} {payload : Fields}
    {envelope : SessionEnvelope}
    (h : verified? ctx db (signedEnvelope sender sid agentId contentHash sequence kind payload) =
      some envelope) :
    envelope.sessionId = sid ∧ envelope.kind = kind ∧ envelope.sequence = sequence ∧
      envelope.actorUsername = sender.username := by
  have hread := readFrom_of_verified h
  have hsid : Json.text sid = .text envelope.sessionId := hread.sessionId
  have hkind : Json.text kind.value = .text envelope.kind.value := hread.kind
  have hseq : Json.int sequence = .int envelope.sequence := hread.sequence
  have hactor : Json.text sender.username = .text envelope.actorUsername := hread.actorUsername
  simp only [Json.str.injEq, PyStr.text.injEq, MessageKind.value_inj, Json.int.injEq,
    Int.natCast_inj] at hsid hkind hseq hactor
  exact ⟨hsid.symm, hkind.symm, hseq.symm, hactor.symm⟩

theorem statusEvent_moves {sender : Sender} {sid : String}
    (henv : ∀ under before envelope, envelope.sessionId = sid ∧ envelope.kind = .statusEvent ∨
      envelope.kind = .artifactAccept → envelopes under before envelope)
    (db : Db) (peerKey : Option PublicKey) (agentId contentHash : String) (sequence : Nat)
    (payload : Fields) :
    Relation.ReflTransGen (Move envelopes) db (ingestEnvelope (selfContext sender peerKey) db
      (signedEnvelope sender sid agentId contentHash sequence .statusEvent payload)).db := by
  apply ingest_moves
  intro under before envelope h
  rcases h with ⟨-, -, h⟩ | ⟨h, -⟩
  · obtain ⟨hsid, hkind, -, -⟩ := verified_signedEnvelope h
    exact henv under before envelope (.inl ⟨hsid, hkind⟩)
  · exact henv under before envelope (.inr h)

/-- A pause or a resume that is refused does nothing; otherwise it writes the
status of its command and may then ingest a status event. -/
theorem ownerStatusEvent_cases (sender : Sender) (db : Db) (sid statusEvent reason : String)
    {action : OwnerAction} {target : Status} (haction : action.target = .ok target) :
    (ownerStatusEvent sender db sid action target statusEvent reason).db = db ∨
    ∃ row db1, db.session? sid = some row ∧ isTerminalState row.status = false ∧
      (target = row.status ∨ isValidTransition row.status target = true) ∧
      StatusWritten db sid target sender.now db1 ∧
      ((ownerStatusEvent sender db sid action target statusEvent reason).db = db1 ∨
        ∃ peerKey agentId contentHash sequence payload,
          (ownerStatusEvent sender db sid action target statusEvent reason).db =
            (ingestEnvelope (selfContext sender peerKey) db1
              (signedEnvelope sender sid agentId contentHash sequence .statusEvent payload)).db) := by
  unfold ownerStatusEvent reconstructSessionState
  cases hrow : db.session? sid with
  | none => exact .inl rfl
  | some row =>
  simp only [Option.map_some]
  rcases processOwnerCommand_cases (stateOf sender.ext row (db.eventsOf sid)) sender.username
    action with ⟨t, last, ht, hlive, -, hedge, heq⟩ | ⟨r, heq⟩
  · rw [haction] at ht
    cases ht
    rw [heq]
    simp only [ReducerResult.accept, Bool.true_eq_false, if_false]
    right
    refine ⟨row, _, rfl, hlive, hedge, sameTables_writeAuditEvent _ "session_status_updated"
      ("Session status updated to '" ++ target.value ++ "' via " ++ action.name ++ " command")
      (some sid) none, ?_⟩
    split
    · exact .inl rfl
    · right
      split <;> exact ⟨_, _, _, _, _, rfl⟩
  · rw [heq]
    exact .inl rfl

theorem ownerStatusEvent_moves {sender : Sender} {db : Db} {sid : String} {action : OwnerAction}
    {target : Status} {statusEvent reason : String} (haction : action.target = .ok target)
    (henv : ∀ under before envelope, envelope.sessionId = sid ∧ envelope.kind = .statusEvent ∨
      envelope.kind = .artifactAccept → envelopes under before envelope) :
    Relation.ReflTransGen (Move envelopes) db
      (ownerStatusEvent sender db sid action target statusEvent reason).db := by
  rcases ownerStatusEvent_cases sender db sid statusEvent reason haction with
    h | ⟨row, db1, hrow, hlive, hedge, hw, h | ⟨peerKey, agentId, contentHash, sequence, payload, h⟩⟩
  · rw [h]
  · rw [h]
    exact .single (.status hrow hlive hedge (ownerAction_target_ne_accepted haction) hw)
  · rw [h]
    exact .head (.status hrow hlive hedge (ownerAction_target_ne_accepted haction) hw)
      (statusEvent_moves henv ..)

/-- Every operation is a chain of moves. -/
theorem step_moves (db : Db) (op : Operation) :
    Relation.ReflTransGen (Move (Committable db op)) db (step db op) := by
  cases op with
  | ingest ctx raw => exact ingest_moves fun _ _ _ h => h
  | nodeCommand ext sid command now => exact .single (nodeCommand_move ..)
  | ownerCommand ext sid owner action now => exact .single (ownerCommand_move ..)
  | pause sender sid reason => exact ownerStatusEvent_moves rfl fun _ _ _ h => h
  | resume sender sid reason => exact ownerStatusEvent_moves rfl fun _ _ _ h => h
  | decide ext args =>
      rcases decideApproval_cases ext db args with h | ⟨kind, h⟩
      · rw [step, h]
      · exact .tail (.single (ownerCommand_move ..)) (.quiet h)
  | append ext event =>
      rcases appendSessionEvent_cases ext db event.toNewEvent with ⟨h, hrow, -, -⟩ | ⟨h, -⟩
      · exact .single (.append rfl hrow h)
      · exact .single (.quiet (sameSessions_of_sameTables h))

theorem step_keeps {P : Db → Prop} {db : Db} {op : Operation}
    (hmove : ∀ a b, P a → Move (Committable db op) a b → P b) (h : P db) : P (step db op) := by
  have hchain : ∀ b, Relation.ReflTransGen (Move (Committable db op)) db b → P b := by
    intro b hb
    induction hb with
    | refl => exact h
    | tail _ hlast ih => exact hmove _ _ ih hlast
  exact hchain _ (step_moves db op)

namespace Sample

open Kin.Transport.Sample

def ingest (sessionId actor agentId : String) (sequence : Nat) (kind : MessageKind)
    (payload : Fields) : Operation :=
  .ingest context (envelope sessionId actor agentId sequence kind payload)

/-- The session is requested, accepted by `bob` and under way. -/
def underWay : List Operation :=
  [ingest "s1" "alice" "scout" 1 .taskRequest request,
   ingest "s1" "bob" "bot" 1 .acceptance [(.text "accepting_agent_id", .text "bot")],
   ingest "s1" "alice" "scout" 2 .proposal [(.text "text", .text "first")]]

end Sample

end Kin.Node
