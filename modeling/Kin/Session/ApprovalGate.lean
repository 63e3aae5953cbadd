import Kin.Session.Invocation

/-!
The approval gate of a turn. A response can ask the owner by an approval request or by
a message that the policy makes wait; the approval goes to the session that the request
names, and the status to one that the matrix may not allow. What the turn has done
before it waits is in the log without a sequence.
-/

namespace Kin.Session

open Kin.Py Kin.Lib Kin.Schemas Kin.Storage Kin.Audit Kin.Artifacts Kin.Policy Kin.Transport

/-! ### What a turn leaves alone before its gate -/

def sequenced (db : Db) : List SessionEventRow := db.sessionEvents.filter (·.sequence.isSome)

/-- No artifact, no sequenced event and no queued envelope is added. -/
structure Unsent (db db' : Db) : Prop where
  artifacts : db'.artifacts = db.artifacts
  sequenced : sequenced db' = sequenced db
  queue : db'.outboundEnvelopeQueue = db.outboundEnvelopeQueue

namespace Unsent

theorem trans {db db' db'' : Db} (h : Unsent db db') (h' : Unsent db' db'') : Unsent db db'' where
  artifacts := h'.artifacts.trans h.artifacts
  sequenced := h'.sequenced.trans h.sequenced
  queue := h'.queue.trans h.queue

theorem of_sameTables {db db' : Db} (h : SameTables db db') : Unsent db db' where
  artifacts := h.artifacts
  sequenced := by rw [Session.sequenced, h.sessionEvents, Session.sequenced]
  queue := h.outboundEnvelopeQueue

theorem updateSession (db : Db) (sid : String) (f : SessionRow → SessionRow) :
    Unsent db (db.updateSession sid f) := ⟨rfl, rfl, rfl⟩

theorem addEvent (db : Db) {ev : NewEvent} (h : ev.sequence = none) :
    Unsent db (Audit.addEvent db ev) where
  artifacts := rfl
  sequenced := by
    have hrow : (eventRow db ev).sequence.isSome = false := by
      change ev.sequence.isSome = false
      rw [h]
      rfl
    change List.filter _ (db.sessionEvents ++ [eventRow db ev]) = _
    rw [List.filter_append, List.filter_cons, hrow, if_neg Bool.false_ne_true, List.filter_nil,
      List.append_nil]
    rfl
  queue := rfl

end Unsent

structure Ungated (db db' : Db) : Prop where
  unsent : Unsent db db'
  statuses : ∀ sid, db'.status? sid = db.status? sid

namespace Ungated

theorem refl (db : Db) : Ungated db db := ⟨⟨rfl, rfl, rfl⟩, fun _ => rfl⟩

theorem trans {db db' db'' : Db} (h : Ungated db db') (h' : Ungated db' db'') : Ungated db db'' where
  unsent := h.unsent.trans h'.unsent
  statuses sid := (h'.statuses sid).trans (h.statuses sid)

theorem of_sameTables {db db' : Db} (h : SameTables db db') : Ungated db db' where
  unsent := .of_sameTables h
  statuses sid := status?_congr (h.session? sid)

theorem audit (db : Db) (category summary : String) (sid actor : Option String) :
    Ungated db (db.writeAuditEvent category summary sid actor) :=
  of_sameTables (sameTables_writeAuditEvent ..)

theorem approvals (db : Db) (approvals : List ApprovalRow) : Ungated db { db with approvals } :=
  ⟨⟨rfl, rfl, rfl⟩, fun _ => rfl⟩

theorem addCost (db : Db) (sid : String) : Ungated db (db.updateSession sid addCost) where
  unsent := .updateSession db sid _
  statuses other := by
    unfold Db.status?
    by_cases h : other = sid
    · rw [h, session?_updateSession_self addCost_sessionId, Option.map_map]
      rfl
    · rw [session?_updateSession_of_ne addCost_sessionId h]

theorem appendLocal (ext : Externals) (db : Db) {ev : NewEvent} (h : ev.sequence = none) :
    Ungated db (appendSessionEvent ext db ev).1 := by
  rcases appendSessionEvent_cases ext db ev with ⟨happended, -⟩ | ⟨hsame, -⟩
  · have hadded : Ungated db (Audit.addEvent db ev) := ⟨.addEvent db h, fun _ => rfl⟩
    exact hadded.trans (of_sameTables happended)
  · exact of_sameTables hsame

end Ungated

theorem ungated_appendActivities (sender : Sender) (sid agentId : String) (db : Db)
    (events : List AdapterEvent) :
    Ungated db (appendActivities sender sid agentId db events).1 := by
  induction events generalizing db with
  | nil => exact .refl db
  | cons event events ih =>
      cases event with
      | activity label =>
          have happend : Ungated db (appendSessionEvent sender.ext db
            (activityEvent sender sid agentId label)).1 := .appendLocal _ _ rfl
          unfold appendActivities
          split
          · rename_i heq
            rw [heq] at happend
            exact happend
          · rename_i db' _ heq
            rw [heq] at happend
            exact happend.trans (ih db')
      | approvalRequest approvalId requestSession actionClass expiresAt => exact ih db
      | other => exact ih db

/-! ### What a turn asks -/

/-- The approval a turn asks for, with the approvals as the policy leaves them. -/
structure Question where
  approvals : List ApprovalRow
  approvalId : String
  sessionId : String

section Questions

variable (sender : Sender) (sessionId agentId : String) (turn : Turn)

/-- The first approval request that the policy makes wait, unless the policy raises
before; without one, the database that the requests leave. -/
def requestQuestion : Db → List AdapterEvent → Except (Option Question) Db
  | db, [] => .ok db
  | db, .approvalRequest approvalId requestSession actionClass _ :: events =>
      let (db, decision) := evaluateAction turn db actionClass
      match decision with
      | .error _ => .error none
      | .ok .allow => requestQuestion db events
      | .ok .deny =>
          requestQuestion (db.writeAuditEvent "security_rejection"
            ("Action '" ++ actionClass ++ "' denied by local policy.") (some sessionId)
            (some sender.username)) events
      | .ok .requiresApproval => .error (some ⟨db.approvals, approvalId, requestSession⟩)
  | db, _ :: events => requestQuestion db events

def messageQuestion (db : Db) : Option Question := do
  let _ ← turn.response.message
  match evaluateAction turn db "informational_relay" with
  | (db, .ok .requiresApproval) => some ⟨db.approvals, turn.approvalId, sessionId⟩
  | _ => none

def answerQuestion (db : Db) : Option Question :=
  if turn.response.error.isSome || !turn.valid then none
  else
  match appendActivities sender sessionId agentId db turn.response.events with
  | (_, .error _) => none
  | (db, .ok ()) =>
  match requestQuestion sender sessionId turn db turn.response.events with
  | .error question => question
  | .ok db => messageQuestion sessionId turn db

end Questions

def question? (sender : Sender) (db : Db) (sessionId : String) (turn : Turn) : Option Question :=
  (invocation? sender db sessionId).bind fun i =>
    answerQuestion sender sessionId i.agentId turn (db.updateSession sessionId addCost)

/-- The approval can be stored: its id is new, and the session it names is known. -/
def Question.Storable (question : Question) (db : Db) : Prop :=
  Rows.lookup ApprovalRow.approvalId question.approvals question.approvalId = none ∧
    (db.status? question.sessionId).isSome = true

/-! ### From the question to the wait -/

section Gate

variable (sender : Sender) (sid agentId : String) (turn : Turn)

def Waits (db : Db) (question : Question) (result : TurnResult) : Prop :=
  ∃ asking actionClass expiresAt, Ungated db asking ∧ asking.approvals = question.approvals ∧
    result = awaitApproval sender sid agentId asking question.approvalId question.sessionId
      actionClass expiresAt

def GoesOn (result : TurnResult) : Prop :=
  ∀ approvalId, result.exit ≠ .ok (.awaitingOwnerApproval approvalId)

/-- A gate and the question it puts, from the same database: both clear it, the gate
raises without a question, or the gate waits for the answer. -/
inductive Gates (db : Db) : Except (Option Question) Db → Except TurnResult Db → Prop
  | clears {db' : Db} (h : Ungated db db') : Gates db (.ok db') (.ok db')
  | raises {result : TurnResult} (h : GoesOn result) : Gates db (.error none) (.error result)
  | waits {question : Question} {result : TurnResult}
      (h : Waits sender sid agentId db question result) :
      Gates db (.error (some question)) (.error result)

variable {sender sid agentId}

theorem Waits.after {db db' : Db} {question : Question} {result : TurnResult}
    (h : Waits sender sid agentId db' question result) (hfirst : Ungated db db') :
    Waits sender sid agentId db question result := by
  obtain ⟨asking, actionClass, expiresAt, hrest, happrovals, hresult⟩ := h
  exact ⟨asking, actionClass, expiresAt, hfirst.trans hrest, happrovals, hresult⟩

theorem Gates.after {db db' : Db} {question : Except (Option Question) Db}
    {gate : Except TurnResult Db} (h : Gates sender sid agentId db' question gate)
    (hfirst : Ungated db db') : Gates sender sid agentId db question gate := by
  cases h with
  | clears hrest => exact .clears (hfirst.trans hrest)
  | raises hgoes => exact .raises hgoes
  | waits hwaits => exact .waits (hwaits.after hfirst)

theorem goesOn_error {db : Db} {e : PyExc} : GoesOn { db, exit := .error e } := by
  intro approvalId h
  cases h

variable (sender sid agentId)

theorem gateApprovals_gates (db : Db) (events : List AdapterEvent) :
    Gates sender sid agentId db (requestQuestion sender sid turn db events)
      (gateApprovals sender sid agentId turn db events) := by
  induction events generalizing db with
  | nil => exact .clears (.refl db)
  | cons event events ih =>
      cases event with
      | activity label => exact ih db
      | other => exact ih db
      | approvalRequest approvalId requestSession actionClass expiresAt =>
          have hpolicy : Ungated db (evaluateAction turn db actionClass).1 := .approvals db _
          unfold requestQuestion gateApprovals
          simp only
          cases hdecision : (evaluateAction turn db actionClass).2 with
          | error e => exact .raises goesOn_error
          | ok decision =>
              cases decision with
              | allow => exact (ih _).after hpolicy
              | deny => exact (ih _).after (hpolicy.trans (.audit ..))
              | requiresApproval => exact .waits ⟨_, actionClass, _, hpolicy, rfl, rfl⟩

theorem gateMessage_question (db : Db) :
    (messageQuestion sid turn db = none ∧
      ∀ result, gateMessage sender sid agentId turn db = .error result → GoesOn result) ∨
    ∃ question result, messageQuestion sid turn db = some question ∧
      Waits sender sid agentId db question result ∧
      gateMessage sender sid agentId turn db = .error result := by
  unfold messageQuestion gateMessage
  cases turn.response.message with
  | none =>
      refine .inl ⟨rfl, ?_⟩
      intro result h
      cases h
  | some message =>
      have hpolicy : Ungated db (evaluateAction turn db "informational_relay").1 :=
        .approvals db _
      simp only [Option.bind_eq_bind, Option.bind_some]
      cases hevaluate : evaluateAction turn db "informational_relay" with
      | mk db' decision =>
      rw [hevaluate] at hpolicy
      cases decision with
      | error e =>
          refine .inl ⟨rfl, ?_⟩
          intro result h
          cases h
          exact goesOn_error
      | ok decision =>
          cases decision with
          | allow =>
              refine .inl ⟨rfl, ?_⟩
              intro result h
              cases h
          | deny =>
              refine .inl ⟨rfl, ?_⟩
              intro result h approvalId hexit
              cases h
              cases hexit
          | requiresApproval =>
              exact .inr ⟨_, _, rfl, ⟨_, _, _, hpolicy, rfl, rfl⟩, rfl⟩

/-! ### The rest of the turn waits for nobody -/

theorem storeArtifacts_goesOn {maxBytes : Int} {db : Db} {arts : List AdapterArtifact}
    {result : TurnResult} (h : storeArtifacts sender sid maxBytes db arts = .error result) :
    GoesOn result := by
  induction arts generalizing db with
  | nil => cases h
  | cons art arts ih =>
      unfold storeArtifacts at h
      split at h
      · exact ih h
      · cases h
        exact goesOn_error

theorem sendTurnMessage_goesOn (db : Db) (peer : String) (kind : MessageKind) (content : String) :
    GoesOn (sendTurnMessage sender sid agentId turn db peer kind content) := by
  intro approvalId
  unfold sendTurnMessage
  dsimp only
  split
  · exact goesOn_error approvalId
  split
  · exact goesOn_error approvalId
  split
  · exact goesOn_error approvalId
  · intro h
    cases h

/-- The adapter's answer leads to a question and the wait for it, or to neither. -/
theorem handleResponse_question (db : Db) (card : AgentRow) (peer : String) :
    (answerQuestion sender sid agentId turn db = none ∧
      GoesOn (handleResponse sender sid agentId turn db card peer)) ∨
    ∃ question, answerQuestion sender sid agentId turn db = some question ∧
      Waits sender sid agentId db question
        (handleResponse sender sid agentId turn db card peer) := by
  unfold answerQuestion handleResponse
  cases turn.response.error with
  | some error =>
      refine .inl ⟨rfl, ?_⟩
      intro approvalId
      dsimp only
      split
      · intro h
        cases h
      · intro h
        cases h
  | none =>
  cases turn.valid with
  | false => exact .inl ⟨rfl, goesOn_error⟩
  | true =>
  simp only [Option.isSome_none, Bool.not_true, Bool.or_self, Bool.false_eq_true, if_false,
    Bool.true_eq_false]
  have hactivities := ungated_appendActivities sender sid agentId db turn.response.events
  cases happended : appendActivities sender sid agentId db turn.response.events with
  | mk db1 exit =>
  rw [happended] at hactivities
  cases exit with
  | error e => exact .inl ⟨rfl, goesOn_error⟩
  | ok _ =>
  dsimp only
  have hgates := gateApprovals_gates sender sid agentId turn db1 turn.response.events
  generalize requestQuestion sender sid turn db1 turn.response.events = question at hgates
  generalize gateApprovals sender sid agentId turn db1 turn.response.events = gate at hgates
  cases hgates with
  | raises hgoes => exact .inl ⟨rfl, hgoes⟩
  | waits hwaits => exact .inr ⟨_, rfl, hwaits.after hactivities⟩
  | @clears db2 hrequests =>
  dsimp only
  rcases gateMessage_question sender sid agentId turn db2 with
    ⟨hnone, hgoes⟩ | ⟨question, result, hsome, hwaits, hgate⟩
  · rw [hnone]
    refine .inl ⟨rfl, ?_⟩
    cases hmessage : gateMessage sender sid agentId turn db2 with
    | error result => exact hgoes result hmessage
    | ok db3 =>
    dsimp only
    cases hstore : storeArtifacts sender sid (cardMaxBytes card) db3 turn.response.artifacts with
    | error result => exact storeArtifacts_goesOn sender sid hstore
    | ok db4 =>
    dsimp only
    split
    · intro approvalId h
      cases h
    · exact sendTurnMessage_goesOn sender sid agentId turn db4 peer _ _
  · rw [hsome, hgate]
    exact .inr ⟨question, rfl, hwaits.after (hactivities.trans hrequests)⟩

end Gate

/-! ### The question of a turn -/

def localAgent? (sender : Sender) (db : Db) (sid : String) : Option String := do
  let row ← db.session? sid
  let info ← (rowParticipants row).get? sender.username
  return info.agentId

variable {sender : Sender} {db : Db} {sid : String} {turn : Turn}

theorem invocation?_spec {i : Invocation} (h : invocation? sender db sid = some i) :
    localAgent? sender db sid = some i.agentId ∧
      ∃ status, db.status? sid = some status ∧ refusesTurn status = false := by
  unfold invocation? at h
  simp only [Option.bind_eq_bind, Option.bind_eq_some_iff] at h
  obtain ⟨row, hrow, h⟩ := h
  split at h
  · cases h
  rename_i hrefuses
  simp only [Option.bind_eq_some_iff] at h
  obtain ⟨info, hinfo, card, -, h⟩ := h
  split at h
  · cases h
    have hinfo' : (rowParticipants row).get? sender.username = some info := hinfo
    refine ⟨?_, row.status, status?_of_session? hrow, Bool.eq_false_of_not_eq_true hrefuses⟩
    simp only [localAgent?, hrow, Option.bind_eq_bind, Option.bind_some, hinfo', pure]
  · cases h

/-- A turn that does not get to its adapter raises, or pauses the session. -/
theorem advanceSessionTurn_goesOn (h : invocation? sender db sid = none) :
    GoesOn (advanceSessionTurn sender db sid turn) := by
  obtain ⟨e, heq⟩ | ⟨reason, heq⟩ := advanceSessionTurn_of_none h turn
  · rw [heq]
    exact goesOn_error
  · rw [heq]
    unfold exhaustedTurn
    dsimp only
    split
    · exact goesOn_error
    · intro approvalId hexit
      cases hexit

/-- A turn comes to a question and waits for the answer to it, or to none and does not
wait. -/
theorem advanceSessionTurn_question (sender : Sender) (db : Db) (sid : String) (turn : Turn) :
    (question? sender db sid turn = none ∧ GoesOn (advanceSessionTurn sender db sid turn)) ∨
    ∃ question agentId status, question? sender db sid turn = some question ∧
      localAgent? sender db sid = some agentId ∧
      db.status? sid = some status ∧ refusesTurn status = false ∧
      Waits sender sid agentId db question (advanceSessionTurn sender db sid turn) := by
  unfold question?
  cases hinvocation : invocation? sender db sid with
  | none => exact .inl ⟨rfl, advanceSessionTurn_goesOn hinvocation⟩
  | some i =>
      obtain ⟨hagent, status, hstatus, hrefuses⟩ := invocation?_spec hinvocation
      rw [advanceSessionTurn_of_some hinvocation, Option.bind_some]
      rcases handleResponse_question sender sid i.agentId turn (db.updateSession sid addCost)
        i.card (peerOf sender i.row) with ⟨hnone, hgoes⟩ | ⟨question, hsome, hwaits⟩
      · exact .inl ⟨hnone, hgoes⟩
      · exact .inr ⟨question, i.agentId, status, hsome, hagent, hstatus, hrefuses,
          hwaits.after (.addCost db sid)⟩

/-! ### The wait -/

/-- The turn left the session waiting for the approval, and nothing for the peer. -/
structure Awaits (sender : Sender) (db : Db) (sid approvalId : String) (db' : Db) : Prop where
  status : db'.status? sid = some .awaitingOwnerApproval
  approval : ∃ row agentId, Rows.lookup ApprovalRow.approvalId db'.approvals approvalId = some row ∧
    row.decision = none ∧ row.sessionId = sid ∧ localAgent? sender db sid = some agentId ∧
    row.agentId = some agentId
  unsent : Unsent db db'

/-- A turn that reports a wait leaves one. -/
def GateConsistent (sender : Sender) (db : Db) (sid : String) (turn : Turn) : Prop :=
  ∀ approvalId,
    (advanceSessionTurn sender db sid turn).exit = .ok (.awaitingOwnerApproval approvalId) →
      Awaits sender db sid approvalId (advanceSessionTurn sender db sid turn).db

/-- Only an active session can be made to wait. -/
theorem isValidTransition_awaiting {status : Status} :
    isValidTransition status .awaitingOwnerApproval = true ↔ status = .active := by
  unfold isValidTransition
  cases status <;> simp [validTransitions]

/-- The command makes an active session wait, and leaves any other status as it is. -/
theorem status?_markAwaiting (sender : Sender) {db : Db} {sid : String} {status : Status}
    (h : db.status? sid = some status) :
    (turnCommand sender sid db .markAwaitingOwnerApproval).status? sid =
      some (if status = .active then .awaitingOwnerApproval else status) := by
  unfold turnCommand
  rcases applyNodeCommandTransition_cases sender.ext db sid .markAwaitingOwnerApproval
    sender.now with ⟨row, target, hrow, htarget, hvalid, hwritten, -⟩ | ⟨hsame, -, hinvalid⟩
  · cases htarget
    rw [status?_of_session? hrow] at h
    cases h
    rw [status?_of_statusWritten hwritten, if_pos rfl, status?_of_session? hrow, Option.map_some,
      if_pos (isValidTransition_awaiting.mp hvalid)]
  · have hnot : status ≠ .active := by
      intro hactive
      obtain ⟨row, hrow, hstatus⟩ := Option.map_eq_some_iff.mp h
      have hno := hinvalid row .awaitingOwnerApproval hrow rfl
      rw [hstatus, isValidTransition_awaiting.mpr hactive] at hno
      cases hno
    rw [if_neg hnot, status?_congr (hsame.session? sid), h]

theorem tables_turnCommand (sender : Sender) (sid : String) (db : Db) (command : NodeCommand) :
    Unsent db (turnCommand sender sid db command) ∧
      (turnCommand sender sid db command).approvals = db.approvals := by
  unfold turnCommand
  rcases applyNodeCommandTransition_cases sender.ext db sid command sender.now with
    ⟨row, target, -, -, -, hwritten, -⟩ | ⟨hsame, -, -⟩
  · unfold StatusWritten at hwritten
    exact ⟨(Unsent.updateSession db sid _).trans (.of_sameTables hwritten), hwritten.approvals⟩
  · exact ⟨.of_sameTables hsame, hsame.approvals⟩

def askedRow (approvalId requestSession agentId actionClass expiresAt : String) : ApprovalRow where
  approvalId
  sessionId := requestSession
  agentId := some agentId
  actionClass
  decision := none
  decidedAt := none
  expiresAt
  consumedAt := none

/-- A new approval for a known session is stored before the command; any other raises. -/
theorem awaitApproval_cases (sender : Sender) (sid agentId : String) (db : Db)
    (approvalId requestSession actionClass expiresAt : String) :
    if Rows.lookup ApprovalRow.approvalId db.approvals approvalId = none ∧
        (db.status? requestSession).isSome = true then
      ∃ asked, Ungated db asked ∧
        asked.approvals =
          db.approvals ++ [askedRow approvalId requestSession agentId actionClass expiresAt] ∧
        awaitApproval sender sid agentId db approvalId requestSession actionClass expiresAt =
          { db := turnCommand sender sid asked .markAwaitingOwnerApproval
            exit := .ok (.awaitingOwnerApproval approvalId) }
    else
      GoesOn (awaitApproval sender sid agentId db approvalId requestSession actionClass expiresAt) := by
  unfold awaitApproval createPendingApproval
  have hknown : (db.status? requestSession).isSome = (db.session? requestSession).isSome := by
    rw [Db.status?, Option.isSome_map]
  rw [hknown]
  cases Rows.lookup ApprovalRow.approvalId db.approvals approvalId with
  | some row =>
      rw [if_neg (by simp)]
      exact goesOn_error
  | none =>
  cases db.session? requestSession with
  | none =>
      rw [if_neg (by simp)]
      exact goesOn_error
  | some session =>
      rw [if_pos ⟨rfl, rfl⟩]
      refine ⟨_, ?_, ?_, rfl⟩
      · exact (Ungated.approvals db _).trans (.audit ..)
      · exact SameTables.approvals (sameTables_writeAuditEvent ..)

/-- What becomes of a question: an approval that cannot be stored raises, and one that
can be is stored as it was asked for. -/
theorem waits_iff {agentId : String} {question : Question} {result : TurnResult} {status : Status}
    (h : Waits sender sid agentId db question result)
    (hagent : localAgent? sender db sid = some agentId)
    (hstatus : db.status? sid = some status) (hrefuses : refusesTurn status = false) :
    (∀ approvalId, result.exit = .ok (.awaitingOwnerApproval approvalId) →
      Awaits sender db sid approvalId result.db) ↔
    (question.Storable db → question.sessionId = sid ∧ db.status? sid = some .active) := by
  obtain ⟨asking, actionClass, expiresAt, hungated, happrovals, rfl⟩ := h
  have hstored := awaitApproval_cases sender sid agentId asking question.approvalId
    question.sessionId actionClass expiresAt
  rw [happrovals, hungated.statuses] at hstored
  split at hstored
  · rename_i hstorable
    obtain ⟨asked, hasked, hrows, heq⟩ := hstored
    have hfresh := hstorable.1
    have hbefore : asked.status? sid = some status := by
      rw [hasked.statuses, hungated.statuses, hstatus]
    obtain ⟨hunsent, hkept⟩ := tables_turnCommand sender sid asked .markAwaitingOwnerApproval
    have hrow : Rows.lookup ApprovalRow.approvalId
        (turnCommand sender sid asked .markAwaitingOwnerApproval).approvals question.approvalId =
          some (askedRow question.approvalId question.sessionId agentId actionClass expiresAt) := by
      rw [hkept, hrows]
      exact Rows.lookup_append_fresh (r := askedRow ..) hfresh
    rw [heq]
    constructor
    · intro hawaits _
      have hdone := hawaits question.approvalId rfl
      obtain ⟨row, agentId', hrow', -, hsession, -⟩ := hdone.approval
      rw [hrow] at hrow'
      cases hrow'
      refine ⟨hsession, ?_⟩
      have hafter := hdone.status
      rw [status?_markAwaiting sender hbefore] at hafter
      split at hafter
      · rename_i hactive
        rw [hstatus, hactive]
      · -- a session that waits already takes no turn
        cases hafter
        cases hrefuses
    · intro hcondition approvalId hexit
      cases hexit
      obtain ⟨hsession, hactive⟩ := hcondition hstorable
      rw [hactive] at hstatus
      cases hstatus
      refine ⟨?_, ⟨_, agentId, hrow, rfl, hsession, hagent, rfl⟩, ?_⟩
      · rw [status?_markAwaiting sender hbefore, if_pos rfl]
      · exact (hungated.unsent.trans hasked.unsent).trans hunsent
  · rename_i hstorable
    constructor
    · intro _ h
      exact absurd h hstorable
    · intro _ approvalId hexit
      exact absurd hexit (hstored approvalId)

/-- The gate of a turn is consistent exactly when the approval it asks for, if it can
be stored, is for this session, and the session is active. -/
theorem approval_gate_consistent_iff (sender : Sender) (db : Db) (sid : String) (turn : Turn) :
    GateConsistent sender db sid turn ↔
      ∀ question, question? sender db sid turn = some question → question.Storable db →
        question.sessionId = sid ∧ db.status? sid = some .active := by
  rcases advanceSessionTurn_question sender db sid turn with
    ⟨hnone, hgoes⟩ | ⟨question, agentId, status, hsome, hagent, hstatus, hrefuses, hwaits⟩
  · rw [hnone]
    constructor
    · intro _ question h
      cases h
    · intro _ approvalId hexit
      exact absurd hexit (hgoes approvalId)
  · have hiff := waits_iff hwaits hagent hstatus hrefuses
    constructor
    · intro h other hother
      rw [hsome] at hother
      cases hother
      exact hiff.mp h
    · intro h
      exact hiff.mpr (h question hsome)

/-! ### A session that was only accepted -/

/-- `alice`'s node, whose session `bob` has accepted. -/
def acceptedDb : Db :=
  { Db.fresh (some "alice") [] [] with
    agents := [{ agentId := "scout", enabled := true, availability := "available"
                 maxArtifactBytes := none }]
    sessions :=
      [{ sessionId := "s1", sessionType := .buildPipeline, initiatorUsername := "alice"
         receiverUsername := "bob", status := .accepted, objective := none
         senderAgentId := some "scout", receiverAgentId := some "bot", turnLimit := 12
         runtimeBudgetSeconds := .null, artifactBytesBudget := .null, cumulativeArtifactBytes := 0
         costBudgetEstimate := .null, cumulativeCostEstimate := 0, createdAt := 0, updatedAt := 0
         expiresAt := none }] }

/-- The agent asks to write to the workspace, and the policy makes it wait. -/
def askingTurn : Turn where
  response := { events := [.approvalRequest "req-1" "s1" "workspace_write" none] }
  evaluate db _ := (db.approvals, .ok .requiresApproval)

/-- The turn reports that it waits, and the session is still `accepted`. -/
theorem accepted_session_not_waiting :
    ¬GateConsistent (Transport.Sample.sender "alice") acceptedDb "s1" askingTurn := by
  intro h
  have hstatus := (h "req-1" rfl).status
  have haccepted : (advanceSessionTurn (Transport.Sample.sender "alice") acceptedDb "s1"
      askingTurn).db.status? "s1" = some .accepted := by rfl
  rw [haccepted] at hstatus
  cases hstatus

end Kin.Session
