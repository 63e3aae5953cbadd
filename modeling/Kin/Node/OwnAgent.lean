import Kin.Node.Redelivery
import Kin.Transport.AgentCheck

/-!
The agent of an owner's own envelopes. Every operation picks it its own way: a
cancellation takes the initiator's column, whoever cancels, a refusal and a
question take the owner's name, an acceptance the agent it is given, and the
rest the participant of the reconstructed state. The node ingests each envelope
itself and checks the agent as it would a stranger's.
-/

namespace Kin.Node

open Kin.Py Kin.Lib Kin.Schemas Kin.Session Kin.Storage Kin.Audit Kin.Policy Kin.Transport

/-! ### What a call ingests -/

/-- The calls of an owner on a session that is stored; an agent is given only to
accept. -/
inductive OwnerCall
  | cancel (reason : String)
  | pause (reason : String)
  | resume (reason : String)
  | offer (artifactId : String)
  | accept (agentId : String) (reason : Option String)
  | decline (reason : Option String)
  | clarify (question : Option String)

def OwnerCall.perform (sender : Sender) (db : Db) (sid : String) : OwnerCall → LocalResult
  | .cancel reason => cancelSession sender db sid reason
  | .pause reason => pauseSession sender db sid reason
  | .resume reason => resumeSession sender db sid reason
  | .offer artifactId => sendArtifactOffer sender db sid artifactId
  | .accept agentId reason => respondToSession sender db sid .accept (some agentId) reason
  | .decline reason => respondToSession sender db sid .decline none reason
  | .clarify question => respondToSession sender db sid .clarify none question

/-- An envelope ready to be signed, with the arguments of its ingestion. -/
structure Prepared where
  ctx : IngestContext
  db : Db
  agentId : String
  kind : MessageKind
  payload : Fields
  contentHash : String

def Prepared.body (p : Prepared) (sender : Sender) (sid : String) : Fields :=
  signedEnvelope sender sid p.agentId p.contentHash (nextSequence p.db sid sender.username) p.kind
    p.payload

section Prepare

variable (sender : Sender) (db : Db) (sid : String)

/-- Up to the ingestion in `cancel_session` and `send_session_message`. -/
def prepareMessage? (kind : MessageKind) (payload : Fields) (agentOf : SessionRow → String) :
    Option Prepared := do
  let row ← db.session? sid
  let contentHash ← computeContentHash sender.ext payload
  some { ctx := selfContext sender (db.resolvePeerContactInfo (peerOf sender row)).2.2, db,
         agentId := agentOf row, kind, payload, contentHash }

/-- The agent of the reconstructed participant, or the name. -/
def participantAgent (row : SessionRow) (username : String) : String :=
  (((rowParticipants row).get? username).map (·.agentId)).getD username

/-- Up to the ingestion in `pause_session` and `resume_session`. -/
def prepareStatusEvent? (action : OwnerAction) (target : Status) (statusEvent reason : String) :
    Option Prepared := do
  let row ← db.session? sid
  let result := processOwnerCommand (stateOf sender.ext row (db.eventsOf sid)) sender.username action
  guard (result.success = true)
  let db := (db.updateSession sid (setStatus target sender.now)).writeAuditEvent
    "session_status_updated"
    ("Session status updated to '" ++ target.value ++ "' via " ++ action.name ++ " command")
    (some sid)
  let payload : Fields := [(.text "status_event", .text statusEvent), (.text "reason", .text reason)]
  let contentHash ← computeContentHash sender.ext payload
  some { ctx := selfContext sender (db.resolvePeerContactInfo (peerOf sender row)).2.2, db,
         agentId := participantAgent row sender.username, kind := .statusEvent, payload,
         contentHash }

/-- Up to the ingestion in `send_artifact_offer`. -/
def prepareOffer? (artifactId : String) : Option Prepared := do
  let row ← db.session? sid
  let art ← Rows.lookup ArtifactRow.artifactId db.artifacts artifactId
  guard (art.sessionId = sid)
  let recipientKey ← recipientKeyOf sender db (peerOf sender row)
  let payload := offerPayload sender art recipientKey
  let contentHash ← computeContentHash sender.ext payload
  let ctx : IngestContext :=
    { selfContext sender (db.resolvePeerContactInfo (peerOf sender row)).2.2 with
      recipientX25519 := some sender.x25519Key
      ownerIdentityKey := some sender.identityKey
      relayUrl := sender.relayUrl }
  some { ctx, db, agentId := participantAgent row sender.username, kind := .artifactOffer, payload,
         contentHash }

def OwnerCall.prepare? : OwnerCall → Option Prepared
  | .cancel reason =>
      prepareMessage? sender db sid .cancel [(.text "reason", .text reason)] fun row =>
        textOr row.senderAgentId sender.username
  | .pause reason => prepareStatusEvent? sender db sid .ownerPause .paused "owner_paused" reason
  | .resume reason => prepareStatusEvent? sender db sid .ownerResume .active "owner_resumed" reason
  | .offer artifactId => prepareOffer? sender db sid artifactId
  | .accept agentId reason => do
      let agentId ← Db.given (some agentId)
      let card ← db.getCard agentId
      guard (card.enabled = true ∧ card.availability ≠ "policy_blocked")
      prepareMessage? sender db sid .acceptance
        [(.text "accepting_agent_id", .text agentId),
         (.text "reason", .text (textOr reason "Accepted"))] fun _ => agentId
  | .decline reason =>
      prepareMessage? sender db sid .decline [(.text "reason", .text (textOr reason "Declined"))]
        fun _ => sender.username
  | .clarify question =>
      prepareMessage? sender db sid .clarification
        [(.text "question", .text (textOr question "Clarification requested"))]
        fun _ => sender.username

end Prepare

section Ends

variable {sender : Sender} {db : Db} {sid : String} {p : Prepared}

theorem prepareMessage?_eq_some {kind : MessageKind} {payload : Fields}
    {agentOf : SessionRow → String} :
    prepareMessage? sender db sid kind payload agentOf = some p ↔
      ∃ row contentHash, db.session? sid = some row ∧
        computeContentHash sender.ext payload = some contentHash ∧
        p = { ctx := selfContext sender (db.resolvePeerContactInfo (peerOf sender row)).2.2, db,
              agentId := agentOf row, kind, payload, contentHash } := by
  simp only [prepareMessage?, bind, Option.bind_eq_some_iff, Option.some.injEq]
  constructor
  · rintro ⟨row, hrow, contentHash, hhash, rfl⟩
    exact ⟨row, contentHash, hrow, hhash, rfl⟩
  · rintro ⟨row, contentHash, hrow, hhash, rfl⟩
    exact ⟨row, hrow, contentHash, hhash, rfl⟩

theorem prepareStatusEvent?_eq_some {action : OwnerAction} {target : Status}
    {statusEvent reason : String}
    (h : prepareStatusEvent? sender db sid action target statusEvent reason = some p) :
    ∃ row, db.session? sid = some row ∧
      (processOwnerCommand (stateOf sender.ext row (db.eventsOf sid)) sender.username action).success =
        true ∧
      p.db = (db.updateSession sid (setStatus target sender.now)).writeAuditEvent
        "session_status_updated"
        ("Session status updated to '" ++ target.value ++ "' via " ++ action.name ++ " command")
        (some sid) ∧
      p.payload = [(.text "status_event", .text statusEvent), (.text "reason", .text reason)] ∧
      computeContentHash sender.ext p.payload = some p.contentHash ∧
      p.ctx = selfContext sender (p.db.resolvePeerContactInfo (peerOf sender row)).2.2 ∧
      p.agentId = participantAgent row sender.username ∧ p.kind = .statusEvent := by
  simp only [prepareStatusEvent?, bind, Option.bind_eq_some_iff, Option.guard_eq_some', Option.some.injEq]
    at h
  obtain ⟨row, hrow, -, hsuccess, contentHash, hhash, rfl⟩ := h
  exact ⟨row, hrow, hsuccess, rfl, rfl, hhash, rfl, rfl, rfl⟩

theorem prepareOffer?_eq_some {artifactId : String}
    (h : prepareOffer? sender db sid artifactId = some p) :
    ∃ row art recipientKey, db.session? sid = some row ∧
      Rows.lookup ArtifactRow.artifactId db.artifacts artifactId = some art ∧ art.sessionId = sid ∧
      recipientKeyOf sender db (peerOf sender row) = some recipientKey ∧
      computeContentHash sender.ext (offerPayload sender art recipientKey) = some p.contentHash ∧
      p = { ctx := { selfContext sender (db.resolvePeerContactInfo (peerOf sender row)).2.2 with
              recipientX25519 := some sender.x25519Key
              ownerIdentityKey := some sender.identityKey
              relayUrl := sender.relayUrl }
            db, agentId := participantAgent row sender.username, kind := .artifactOffer,
            payload := offerPayload sender art recipientKey, contentHash := p.contentHash } := by
  simp only [prepareOffer?, bind, Option.bind_eq_some_iff, Option.guard_eq_some', Option.some.injEq] at h
  obtain ⟨row, hrow, art, hart, -, hsid, recipientKey, hrecipient, contentHash, hhash, rfl⟩ := h
  exact ⟨row, art, recipientKey, hrow, hart, hsid, hrecipient, hhash, rfl⟩

/-- Whether the call looks at the acknowledgement of its self-ingestion. -/
def OwnerCall.looksAway : OwnerCall → Bool
  | .pause _ | .resume _ => true
  | _ => false

theorem sendSessionMessage_of_rejected {kind : MessageKind} {payload : Fields}
    {agentId : Option String} {agentOf : SessionRow → String}
    (hagent : ∀ row, agentOf row = textOr agentId sender.username)
    (h : prepareMessage? sender db sid kind payload agentOf = some p)
    {ack : TransportAcknowledgement}
    (hack : (ingestEnvelope p.ctx p.db (p.body sender sid)).exit = .ok ack)
    (hrejected : ack.status = .rejected) :
    sendSessionMessage sender db sid kind payload agentId =
      { db := (ingestEnvelope p.ctx p.db (p.body sender sid)).db, exit := .error .transportError } := by
  obtain ⟨row, contentHash, hrow, hhash, rfl⟩ := prepareMessage?_eq_some.mp h
  have hself := selfIngest_of_rejected hack hrejected
  simp only [Prepared.body, hagent] at hself
  simp only [sendSessionMessage, hrow, hhash, hself, Prepared.body, hagent]

/-- A call whose self-ingestion is rejected leaves what that left, sends nothing,
and raises unless it does not look. -/
theorem OwnerCall.perform_of_rejected {call : OwnerCall} (h : call.prepare? sender db sid = some p)
    {ack : TransportAcknowledgement}
    (hack : (ingestEnvelope p.ctx p.db (p.body sender sid)).exit = .ok ack)
    (hrejected : ack.status = .rejected) :
    call.perform sender db sid =
      { db := (ingestEnvelope p.ctx p.db (p.body sender sid)).db,
        exit := if call.looksAway then .ok () else .error .transportError } := by
  have hself := selfIngest_of_rejected hack hrejected
  have hown : textOr (some (textOr none sender.username)) sender.username = sender.username := by
    simp only [textOr]
    exact ite_self _
  have hstatus : ∀ {action target statusEvent reason},
      prepareStatusEvent? sender db sid action target statusEvent reason = some p →
      ownerStatusEvent sender db sid action target statusEvent reason =
        { db := (ingestEnvelope p.ctx p.db (p.body sender sid)).db, exit := .ok () } := by
    intro action target statusEvent reason hp
    obtain ⟨row, hrow, hsuccess, hdb, hpayload, hhash, hctx, hagent, hkind⟩ :=
      prepareStatusEvent?_eq_some hp
    rw [Prepared.body, hctx, hagent, hkind, hpayload, hdb] at hack
    rw [hpayload] at hhash
    rw [Prepared.body, hctx, hagent, hkind, hpayload, hdb]
    simp only [ownerStatusEvent, reconstructSessionState, hrow, Option.map_some, hsuccess, hhash,
      Bool.true_eq_false, if_false]
    split
    · rename_i e he
      cases hack.symm.trans he
    · rfl
  cases call with
  | cancel reason =>
      obtain ⟨row, contentHash, hrow, hhash, rfl⟩ := prepareMessage?_eq_some.mp h
      simp only [Prepared.body] at hself
      simp only [OwnerCall.perform, cancelSession, hrow, hhash, hself, Prepared.body]
      rfl
  | pause reason => exact hstatus h
  | resume reason => exact hstatus h
  | offer artifactId =>
      obtain ⟨row, art, recipientKey, hrow, hart, hsid, hrecipient, hhash, hp⟩ :=
        prepareOffer?_eq_some h
      rw [hp] at hself ⊢
      simp only [Prepared.body] at hself
      simp only [OwnerCall.perform, sendArtifactOffer, reconstructSessionState, hrow,
        Option.map_some, hart, hsid, Prepared.body]
      split
      · contradiction
      split
      · rename_i hnone
        cases hrecipient.symm.trans hnone
      rename_i key hkey
      cases hrecipient.symm.trans hkey
      rw [hhash]
      dsimp only
      split
      · rename_i db' e hfailed
        cases hself.symm.trans hfailed
        rfl
      · rename_i db' hok
        cases hself.symm.trans hok
  | accept agentId reason =>
      simp only [OwnerCall.prepare?, bind, Option.bind_eq_some_iff, Option.guard_eq_some'] at h
      obtain ⟨agent, hgiven, card, hcard, -, hcard', hprepared⟩ := h
      obtain ⟨hagent, hne⟩ := Option.filter_eq_some_iff.mp hgiven
      cases hagent
      have hblocked : ¬(card.enabled = false ∨ card.availability = "policy_blocked") := by
        rw [hcard'.1]
        simp [hcard'.2]
      have hname : textOr (some (textOr (some agentId) sender.username)) sender.username =
          agentId := by
        have hne' : agentId ≠ "" := by simpa using hne
        rw [textOr_some hne', textOr_some hne']
      simp only [OwnerCall.perform, respondToSession, hgiven, Option.bind_some, hcard,
        Option.map_some, if_neg hblocked]
      exact sendSessionMessage_of_rejected (fun _ => hname.symm) hprepared hack hrejected
  | decline reason =>
      exact sendSessionMessage_of_rejected (fun _ => hown.symm) h hack hrejected
  | clarify question =>
      exact sendSessionMessage_of_rejected (fun _ => hown.symm) h hack hrejected

end Ends

/-! ### The agent of the envelope -/

namespace OwnerCall

def kind : OwnerCall → MessageKind
  | .cancel _ => .cancel
  | .pause _ | .resume _ => .statusEvent
  | .offer _ => .artifactOffer
  | .accept _ _ => .acceptance
  | .decline _ => .decline
  | .clarify _ => .clarification

def agentOf (row : SessionRow) (username : String) : OwnerCall → String
  | .cancel _ => textOr row.senderAgentId username
  | .pause _ | .resume _ | .offer _ => registeredAgent row username
  | .accept agentId _ => agentId
  | .decline _ | .clarify _ => username

/-- The row the envelope finds. -/
def rowAt (now : Instant) (row : SessionRow) : OwnerCall → SessionRow
  | .pause _ => setStatus .paused now row
  | .resume _ => setStatus .active now row
  | _ => row

def fits (now : Instant) (row : SessionRow) (username : String) (call : OwnerCall) : Bool :=
  agentAccepted now (call.rowAt now row) call.kind username (call.agentOf row username)

/-- The receiver may refuse or ask back in `peer_review`, and either owner may
cancel wherever the matrix lets it. -/
def allowed (row : SessionRow) (username : String) : OwnerCall → Bool
  | .decline _ | .clarify _ => username == row.receiverUsername && row.status == .peerReview
  | .cancel _ => isValidTransition row.status .cancelled
  | _ => false

end OwnerCall

section Carried

variable {sender : Sender} {db : Db} {sid : String} {p : Prepared} {call : OwnerCall}
  {row : SessionRow}

theorem participantAgent_of_member {username : String} (h : Member row username) :
    participantAgent row username = registeredAgent row username := by
  rw [participantAgent, get?_rowParticipants_of_member h]
  rfl

structure Carries (sender : Sender) (sid : String) (row : SessionRow) (call : OwnerCall)
    (p : Prepared) : Prop where
  ext : p.ctx.ext = sender.ext
  now : p.ctx.now = sender.now
  key : p.ctx.getPublicKey (.text sender.username) =
    some (sender.ext.publicKeyOf sender.identityKey)
  log : LogInvariant p.db
  session : p.db.session? sid = some (call.rowAt sender.now row)
  agentId : p.agentId = call.agentOf row sender.username
  kind : p.kind = call.kind
  hash : computeContentHash sender.ext p.payload = some p.contentHash

theorem carries_message (hlog : LogInvariant db) {payload : Fields} {agentOf : SessionRow → String}
    (h : prepareMessage? sender db sid call.kind payload agentOf = some p)
    (hrow : db.session? sid = some row) (hat : call.rowAt sender.now row = row)
    (hagent : agentOf row = call.agentOf row sender.username) : Carries sender sid row call p := by
  obtain ⟨row', contentHash, hrow', hhash, rfl⟩ := prepareMessage?_eq_some.mp h
  rw [hrow] at hrow'
  cases hrow'
  refine ⟨rfl, rfl, if_pos rfl, hlog, ?_, hagent, rfl, hhash⟩
  rw [hat]
  exact hrow

theorem carries_statusEvent (hlog : LogInvariant db) {action : OwnerAction} {target : Status}
    {statusEvent reason : String}
    (h : prepareStatusEvent? sender db sid action target statusEvent reason = some p)
    (hrow : db.session? sid = some row) (hmember : Member row sender.username)
    (hkind : call.kind = .statusEvent)
    (hat : call.rowAt sender.now row = setStatus target sender.now row)
    (hagent : call.agentOf row sender.username = registeredAgent row sender.username) :
    Carries sender sid row call p := by
  obtain ⟨row', hrow', -, hdb, -, hhash, hctx, hagent', hkind'⟩ :=
    prepareStatusEvent?_eq_some h
  rw [hrow] at hrow'
  cases hrow'
  have hwritten : StatusWritten db sid target sender.now p.db := by
    rw [hdb]
    exact sameTables_writeAuditEvent ..
  refine ⟨by rw [hctx]; rfl, by rw [hctx]; rfl, ?_, hlog.of_statusWritten hwritten, ?_, ?_, ?_,
    hhash⟩
  · rw [hctx]
    exact if_pos rfl
  · rw [SameTables.session? hwritten, hat,
      session?_updateSession_self (fun _ => setStatus_sessionId _ _ _), hrow]
    rfl
  · rw [hagent', hagent, participantAgent_of_member hmember]
  · rw [hkind', hkind]

theorem carries_of_prepare? (hlog : LogInvariant db) (h : call.prepare? sender db sid = some p)
    (hrow : db.session? sid = some row) (hmember : Member row sender.username) :
    Carries sender sid row call p := by
  cases call with
  | cancel reason => exact carries_message hlog h hrow rfl rfl
  | pause reason => exact carries_statusEvent hlog h hrow hmember rfl rfl rfl
  | resume reason => exact carries_statusEvent hlog h hrow hmember rfl rfl rfl
  | offer artifactId =>
      obtain ⟨row', art, recipientKey, hrow', hart, hsid, hrecipient, hhash, hp⟩ :=
        prepareOffer?_eq_some h
      rw [hrow] at hrow'
      cases hrow'
      rw [hp]
      exact ⟨rfl, rfl, if_pos rfl, hlog, hrow, participantAgent_of_member hmember, rfl, hhash⟩
  | accept agentId reason =>
      simp only [OwnerCall.prepare?, bind, Option.bind_eq_some_iff, Option.guard_eq_some'] at h
      obtain ⟨agent, hgiven, card, -, -, -, hprepared⟩ := h
      cases (Option.filter_eq_some_iff.mp hgiven).1
      exact carries_message hlog hprepared hrow rfl rfl
  | decline reason => exact carries_message hlog h hrow rfl rfl
  | clarify question => exact carries_message hlog h hrow rfl rfl

end Carried

/-! ### Calls that get through -/

/-- The next envelope of a participant with an accepted agent, of a kind that
takes no turn, is delivered along the matrix. -/
theorem delivered_of_agentAccepted {ctx : IngestContext} {db : Db} {raw : Fields}
    {envelope : SessionEnvelope} {row : SessionRow} {target : Status}
    (h : WellSigned ctx raw envelope) (hlog : LogInvariant db)
    (hrow : db.session? envelope.sessionId = some row) (hmember : Member row envelope.actorUsername)
    (hseq : envelope.sequence = nextSequence db envelope.sessionId envelope.actorUsername)
    (hagent : agentAccepted ctx.now row envelope.kind envelope.actorUsername
      envelope.actorAgentId = true)
    (htimely : expiresNow row ctx.now = false)
    (htarget : peerKindTransition envelope.kind = some target)
    (hedge : isValidTransition (reviewStatus row.status envelope.kind) target = true)
    (hturn : turnConsuming envelope.kind = false) (hkind : envelope.kind ≠ .acceptance) :
    Delivered ctx db raw := by
  simp only [agentAccepted, Bool.and_eq_true, Bool.or_eq_true, beq_iff_eq] at hagent
  obtain ⟨hchecked, hregistered⟩ := hagent
  have hver := (verified?_iff_of_wellSigned h hrow).mpr hchecked
  have hread := readFrom_of_verified hver
  have hlive : isTerminalState row.status = false := by
    by_contra hover
    have hlive := isTerminalState_eq_false_of_valid hedge
    unfold reviewStatus at hlive
    split at hlive
    · rename_i hs
      rcases hs.1 with hs | hs
      · exact hover (by rw [hs]; rfl)
      · exact hover (by rw [hs]; rfl)
    · exact hover hlive
  have hfirst : acceptsFirst row envelope.kind envelope.actorUsername = false := by
    simp [acceptsFirst, hkind]
  have hactor : envelope.actorAgentId = registeredAgent row envelope.actorUsername := by
    rw [hlive, htimely, hfirst] at hregistered
    simpa using hregistered
  have hnumber := hseq.trans (nextSequence_eq hlog _ _)
  have haccepts : Accepts ctx db raw envelope db row
      (stateOf ctx.ext row (db.eventsOf envelope.sessionId)) (rowParticipants row) :=
    { verified := hver
      fresh := storedEvent?_next hlog hnumber
      timely := by
        intro r hr
        rw [hrow] at hr
        cases hr
        exact htimely
      loaded := .stored hrow
      admitted :=
        { live := by
            rw [isTerminalState_advanceToReview]
            exact hlive
          session := by
            rw [advanceToReview_eq]
            exact (sessionId_of_session? hrow).symm
          actor := by
            rw [authorizeActor_of_member _ _ hmember, if_neg fun hne => hne.1 hactor]
          sequence := by
            rw [checkSequence_eq_none, lastSequence_advanceToReview,
              lastSequence_stateOf (hlog.sequenced _) hmember.named]
            exact congrArg Int.ofNat hnumber
          transition := by
            rw [checkTransition_eq_none, advanceToReview_eq, targetStatus, htarget]
            exact .inr (.inl hedge)
          turn := by
            rw [checkTurn_eq_none, hturn]
            intro hno
            cases hno
          after := by
            rw [participantsAfter, if_neg hkind, participants_stateOf] } }
  obtain ⟨db', heq, -⟩ := ingestCommit_of_accepts haccepts
  have hoffer : isPeerOffer db' envelope = false := by
    unfold isPeerOffer
    cases hk : envelope.kind <;> first | rfl | (rw [hk] at hturn; cases hturn)
  rw [Delivered]
  simp only [ingestEnvelope, heq, hoffer, Bool.false_eq_true, if_false]
  exact deliveredAck_ok hread ctx

/-! ### The result -/

/-- The call's own envelope is not rejected for its agent, and gets through where
the owner is allowed to make the call. -/
structure AgentFits (sender : Sender) (sid : String) (row : SessionRow) (call : OwnerCall)
    (p : Prepared) : Prop where
  accepted : ¬AgentRefused p.ctx p.db (p.body sender sid)
  delivered : call.allowed row sender.username = true → expiresNow row sender.now = false →
    Delivered p.ctx p.db (p.body sender sid)

theorem agentFits_iff {sender : Sender} {db : Db} {sid : String} {row : SessionRow}
    {call : OwnerCall} {p : Prepared} (hsender : Dependable sender) (hlog : LogInvariant db)
    (hrow : db.session? sid = some row) (hmember : Member row sender.username)
    (hp : call.prepare? sender db sid = some p) :
    AgentFits sender sid row call p ↔ call.fits sender.now row sender.username = true := by
  have hcarries := carries_of_prepare? hlog hp hrow hmember
  have hpos : 1 ≤ nextSequence p.db sid sender.username := Nat.succ_pos _
  have hsigned : WellSigned p.ctx (p.body sender sid) (ownEnvelope sender sid p.agentId
      p.contentHash (nextSequence p.db sid sender.username) hpos p.kind p.payload) :=
    wellSigned_signedEnvelope hsender hcarries.ext hcarries.key hcarries.hash hpos
  have hmember' : Member (call.rowAt sender.now row) sender.username :=
    ⟨hmember.named, by cases call <;> exact hmember.member⟩
  have hnew := storedEvent?_next hcarries.log (nextSequence_eq hcarries.log sid sender.username)
  have hiff : AgentRefused p.ctx p.db (p.body sender sid) ↔
      agentAccepted p.ctx.now (call.rowAt sender.now row) p.kind sender.username p.agentId =
        false := agentRefused_iff hsigned hcarries.session hmember' hnew
  rw [hcarries.now, hcarries.kind, hcarries.agentId, ← OwnerCall.fits] at hiff
  constructor
  · intro h
    by_contra hno
    exact h.accepted (hiff.mpr (by simpa using hno))
  · intro hfits
    refine ⟨fun hrefused => ?_, fun hallowed htimely => ?_⟩
    · rw [hiff.mp hrefused] at hfits
      cases hfits
    · have hdelivered : ∀ target, call.rowAt sender.now row = row →
          peerKindTransition call.kind = some target →
          isValidTransition (reviewStatus row.status call.kind) target = true →
          turnConsuming call.kind = false → call.kind ≠ .acceptance →
          Delivered p.ctx p.db (p.body sender sid) := by
        intro target hat htarget hedge hturn hkind
        rw [← hcarries.kind] at htarget hedge hturn hkind
        rw [OwnerCall.fits, ← hcarries.kind, ← hcarries.now, ← hcarries.agentId] at hfits
        refine delivered_of_agentAccepted hsigned hcarries.log hcarries.session hmember' rfl
          ?_ ?_ htarget ?_ hturn hkind
        · rw [hcarries.now] at hfits ⊢
          exact hfits
        · rw [hcarries.now, hat]
          exact htimely
        · rw [hat]
          exact hedge
      cases call with
      | cancel reason =>
          have hreview : reviewStatus row.status (OwnerCall.cancel reason).kind = row.status := by
            simp [reviewStatus, OwnerCall.kind]
          refine hdelivered .cancelled rfl rfl ?_ rfl (fun h => by cases h)
          rw [hreview]
          exact hallowed
      | decline reason =>
          have hreview : row.status = .peerReview := by
            simpa using (Bool.and_eq_true_iff.mp hallowed).2
          refine hdelivered .declined rfl rfl ?_ rfl (fun h => by cases h)
          rw [hreview]
          rfl
      | clarify question =>
          have hreview : row.status = .peerReview := by
            simpa using (Bool.and_eq_true_iff.mp hallowed).2
          refine hdelivered .needsClarification rfl rfl ?_ rfl (fun h => by cases h)
          rw [hreview]
          rfl
      | pause reason => cases hallowed
      | resume reason => cases hallowed
      | offer artifactId => cases hallowed
      | accept agentId reason => cases hallowed

/-- In every run of a node, for either owner of a stored session and every call
that comes to its self-ingestion, the agent of the call's envelope fits exactly
if it is the one of the owner's column and, on a session that is not over, the
registered one or that of a first acceptance. -/
theorem own_agent_fits_iff (identity : Option String) (contacts : List ContactRow)
    (agents : List AgentRow) (activities : List Activity) (sender : Sender) (sid : String)
    (row : SessionRow) (call : OwnerCall) (p : Prepared) :
    let db := run Activity.step (Db.fresh identity contacts agents) activities
    Dependable sender → db.session? sid = some row → Member row sender.username →
      call.prepare? sender db sid = some p →
      (AgentFits sender sid row call p ↔ call.fits sender.now row sender.username = true) := by
  intro db hsender hrow hmember hp
  exact agentFits_iff hsender
    (logInvariant_activities (logInvariant_fresh identity contacts agents) activities) hrow hmember
    hp

namespace Sample

open Kin.Transport.Sample

theorem contentHashRegex_digest (payload : Fields) : contentHashRegex (digest payload) = true := by
  have hletters : ∀ s, ∀ c ∈ letters s, c.isAlphanum = true := by
    intro s c hc
    cases s with
    | text s => exact (List.mem_filter.mp hc).2
    | lone _ => cases hc
  unfold contentHashRegex digest
  simp only [String.toList_ofList, List.take_take, Nat.min_self, Bool.and_eq_true, List.all_eq_true,
    decide_eq_true_eq]
  refine ⟨⟨fun c hc => ?_, ?_⟩, ?_⟩
  · rcases List.mem_append.mp (List.mem_of_mem_take hc) with hc | hc
    · obtain ⟨e, -, hc⟩ := List.mem_flatMap.mp hc
      have halnum : c.isAlphanum = true := by
        rcases List.mem_append.mp hc with hc | hc
        · exact hletters _ c hc
        · split at hc
          · exact hletters _ c hc
          · cases hc
      rw [halnum]
      rfl
    · rw [(List.mem_replicate.mp hc).2]
      rfl
  · simp
  · rw [List.drop_eq_nil_of_le (by simp)]
    rfl

theorem dependable_sender (username : String) : Dependable (sender username) where
  digest := by
    intro payload hash hhash
    cases hhash
    exact contentHashRegex_digest payload
  clock := by
    change timestampRegex (isoNow time) = true
    decide +kernel
  signs := by
    intro fields hempty
    have hlength := congrArg String.length hempty
    simp [sender, externals] at hlength
  verifies := fun fields => beq_self_eq_true _

/-- `bob`'s node, with `alice`'s request in review. -/
def bobAsked : Db := run Activity.step bobDb asked

def selfAnswer (username : String) (db : Db) (call : OwnerCall) :
    Option (AckStatus × Option ErrorCode) :=
  (call.prepare? (sender username) db "s1").bind fun p =>
    (ingestEnvelope p.ctx p.db (p.body (sender username) "s1")).exit.toOption.map fun ack =>
      (ack.status, ack.errorCode)

/-- What the receiver's own node answers, decided together. -/
theorem bobAsked_facts :
    bobAsked.status? "s1" = some .peerReview ∧
      selfAnswer "bob" bobAsked (.decline none) = some (.rejected, some .unauthorizedAgent) ∧
      selfAnswer "bob" bobAsked (.clarify none) = some (.rejected, some .unauthorizedAgent) ∧
      selfAnswer "bob" bobAsked (.cancel "changed my mind") =
        some (.rejected, some .unauthorizedAgent) := by
  decide +kernel

theorem agentRefused_of_selfAnswer {username : String} {db : Db} {call : OwnerCall}
    (h : selfAnswer username db call = some (.rejected, some .unauthorizedAgent)) :
    ∃ p, call.prepare? (sender username) db "s1" = some p ∧
      AgentRefused p.ctx p.db (p.body (sender username) "s1") := by
  obtain ⟨p, hp, hexit⟩ := Option.bind_eq_some_iff.mp h
  refine ⟨p, hp, ?_⟩
  unfold AgentRefused
  cases hres : (ingestEnvelope p.ctx p.db (p.body (sender username) "s1")).exit with
  | error e =>
      rw [hres] at hexit
      cases hexit
  | ok ack =>
      rw [hres] at hexit
      cases ack
      cases hexit
      exact ⟨_, rfl, rfl, rfl⟩

/-- In `peer_review`, the receiver's own node refuses the call for its agent, and the
call raises. -/
def SelfRefused (call : OwnerCall) : Prop :=
  (∃ p, call.prepare? (sender "bob") bobAsked "s1" = some p ∧
    AgentRefused p.ctx p.db (p.body (sender "bob") "s1")) ∧
  bobAsked.status? "s1" = some .peerReview ∧
  (call.perform (sender "bob") bobAsked "s1").exit = .error .transportError

theorem selfRefused_of_selfAnswer {call : OwnerCall}
    (h : selfAnswer "bob" bobAsked call = some (.rejected, some .unauthorizedAgent))
    (hlooks : call.looksAway = false) : SelfRefused call := by
  obtain ⟨p, hp, ack, hack, hrejected, hcode⟩ := agentRefused_of_selfAnswer h
  refine ⟨⟨p, hp, ack, hack, hrejected, hcode⟩, bobAsked_facts.1, ?_⟩
  rw [OwnerCall.perform_of_rejected hp hack hrejected]
  exact if_neg (ne_true_of_eq_false hlooks)

end Sample

/-- The receiver's own node refuses its decline, its question and its
cancellation for the agent, with the session in `peer_review`. -/
theorem receiver_cannot_decline_or_cancel :
    Sample.SelfRefused (.decline none) ∧ Sample.SelfRefused (.clarify none) ∧
      Sample.SelfRefused (.cancel "changed my mind") := by
  obtain ⟨-, hdecline, hclarify, hcancel⟩ := Sample.bobAsked_facts
  refine ⟨?_, ?_, ?_⟩
  · exact Sample.selfRefused_of_selfAnswer hdecline rfl
  · exact Sample.selfRefused_of_selfAnswer hclarify rfl
  · exact Sample.selfRefused_of_selfAnswer hcancel rfl

/-- The initiator's node accepts the initiator's cancellation. -/
theorem initiator_can_cancel :
    ∃ row p, (run Activity.step Sample.aliceDb Sample.asked).session? "s1" = some row ∧
      (OwnerCall.cancel "changed my mind").prepare? (Sample.sender "alice")
        (run Activity.step Sample.aliceDb Sample.asked) "s1" = some p ∧
      AgentFits (Sample.sender "alice") "s1" row (.cancel "changed my mind") p := by
  have hfacts : ((OwnerCall.cancel "changed my mind").prepare? (Sample.sender "alice")
        (run Activity.step Sample.aliceDb Sample.asked) "s1").isSome = true ∧
      ((run Activity.step Sample.aliceDb Sample.asked).session? "s1").any (fun row =>
        row.initiatorUsername == "alice" &&
          (OwnerCall.cancel "changed my mind").fits Sample.time row "alice") = true := by
    decide +kernel
  obtain ⟨p, hp⟩ := Option.isSome_iff_exists.mp hfacts.1
  obtain ⟨row, hrow, hfits⟩ := (Option.any_eq_true _ _).mp hfacts.2
  simp only [Bool.and_eq_true, beq_iff_eq] at hfits
  have hmember : Member row "alice" := ⟨by decide, .inl hfits.1.symm⟩
  exact ⟨row, p, hrow, hp, (own_agent_fits_iff (some "alice") [] [] Sample.asked
    (Sample.sender "alice") "s1" row (.cancel "changed my mind") p (Sample.dependable_sender "alice")
    hrow hmember hp).mpr hfits.2⟩

end Kin.Node
