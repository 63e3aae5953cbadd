import Kin.Node.Custody
import Kin.Session.Orchestrator

/-!
The operations that author envelopes, over whole runs and with what they put on
the network. Each takes the owner's next sequence number by ingesting its own
envelope and then ends in its own way; an envelope that is ingested and neither
handed over nor queued leaves the peer with a gap it cannot close.
-/

namespace Kin.Node

open Kin.Py Kin.Lib Kin.Schemas Kin.Session Kin.Storage Kin.Audit Kin.Artifacts Kin.Policy
  Kin.Transport

/-! ### The machine -/

inductive Call
  | ingest (ctx : IngestContext) (raw : Fields)
  | dispatch (sender : Sender) (request : Request)
  | send (sender : Sender) (sessionId : String) (kind : MessageKind) (payload : Fields)
      (actorAgentId : Option String)
  | respond (sender : Sender) (sessionId : String) (decision : ResponseDecision)
      (acceptingAgentId reasonOrQuestion : Option String)
  | cancel (sender : Sender) (sessionId reason : String)
  | pause (sender : Sender) (sessionId reason : String)
  | resume (sender : Sender) (sessionId reason : String)
  | offer (sender : Sender) (sessionId artifactId : String)
  | advance (sender : Sender) (sessionId : String) (turn : Turn)

/-- The owner's side of a call; an ingested body is the peer's. -/
def Call.sender? : Call → Option Sender
  | .ingest _ _ => none
  | .dispatch sender _ | .send sender _ _ _ _ | .respond sender _ _ _ _ | .cancel sender _ _
  | .pause sender _ _ | .resume sender _ _ | .offer sender _ _ | .advance sender _ _ => some sender

/-- A node, and every attempt it made to hand an envelope over. -/
structure World where
  db : Db
  sent : List Transmission

/-- A node without sessions that has sent nothing. -/
def World.fresh (identity : Option String) (contacts : List ContactRow) (agents : List AgentRow) :
    World :=
  ⟨Db.fresh identity contacts agents, []⟩

def World.next (w : World) (db : Db) (sent : Option Transmission) : World :=
  ⟨db, w.sent ++ sent.toList⟩

/-- A call, however it ends. -/
def perform (w : World) : Call → World
  | .ingest ctx raw =>
      let result := ingestEnvelope ctx w.db raw
      w.next result.db result.accept
  | .dispatch sender request =>
      let result := dispatchSession sender w.db request
      w.next result.db result.sent
  | .send sender sid kind payload agentId =>
      let result := sendSessionMessage sender w.db sid kind payload agentId
      w.next result.db result.sent
  | .respond sender sid decision agentId reason =>
      let result := respondToSession sender w.db sid decision agentId reason
      w.next result.db result.sent
  | .cancel sender sid reason =>
      let result := cancelSession sender w.db sid reason
      w.next result.db result.sent
  | .pause sender sid reason =>
      let result := pauseSession sender w.db sid reason
      w.next result.db result.sent
  | .resume sender sid reason =>
      let result := resumeSession sender w.db sid reason
      w.next result.db result.sent
  | .offer sender sid artifactId =>
      let result := sendArtifactOffer sender w.db sid artifactId
      w.next result.db result.sent
  | .advance sender sid turn => w.next (advanceSessionTurn sender w.db sid turn).db none

/-! ### Nothing is lost -/

/-- The peer answered the envelope with 200, the relay accepted it, or the queue
holds it. -/
def Held (w : World) (body : Fields) : Prop :=
  (∃ t ∈ w.sent, t.envelope = body ∧ (accepted? t.direct = true ∨ accepted? t.relay = true)) ∨
    ∃ row ∈ w.db.outboundEnvelopeQueue.rows, row.envelope = body

/-- Each sequenced event of the owner records an envelope that is held, and so
every number up to the next one does: the peer can be given them all. -/
structure NothingLost (w : World) : Prop where
  covered : ∀ event ∈ w.db.sessionEvents, event.actorUsername = w.db.myUsername →
    event.sequence.isSome = true → ∃ body, Held w body ∧ Records event body
  gapless : ∀ sid n, 1 ≤ n → n < nextSequence w.db sid w.db.myUsername →
    ∃ body envelope, Held w body ∧ validateEnvelope body = some envelope ∧
      envelope.sessionId = sid ∧ envelope.actorUsername = w.db.myUsername ∧ envelope.sequence = n

/-! ### When a call keeps what it signs -/

section Kept

variable (sender : Sender) (db : Db)

def answerOf (peer : String) (body : Fields) : Option HttpResult :=
  (endpointOf sender db peer).map fun e => sender.http.post e body

def Reaches (peer : String) (body : Fields) : Prop :=
  accepted? (answerOf sender db peer body) = true ∨
    accepted? (viaRelay sender db peer body false) = true

def QueueFree (sid peer : String) (sequence : Nat) : Prop :=
  db.outboundEnvelopeQueue.hasId sender.queueId = false ∧
    db.outboundEnvelopeQueue.hasEnvelope (sid, sequence, peer) = false

def MessageKept (sid : String) (kind : MessageKind) (payload : Fields)
    (actorAgentId : Option String) : Prop :=
  ∀ row contentHash, db.session? sid = some row →
    computeContentHash sender.ext payload = some contentHash →
    let peer := peerOf sender row
    let sequence := nextSequence db sid sender.username
    let body := signedEnvelope sender sid (textOr actorAgentId sender.username) contentHash
      sequence kind payload
    Refuses (selfContext sender (db.resolvePeerContactInfo peer).2.2) db body ∨
      Reaches sender db peer body ∨ QueueFree sender db sid peer sequence

/-- The message a decision is sent as; `none` when `respond_to_session` refuses
it. -/
def responseMessage (decision : ResponseDecision)
    (acceptingAgentId reasonOrQuestion : Option String) : Option (MessageKind × Fields) :=
  match decision with
  | .accept => do
      let (agentId, card) ← (Db.given acceptingAgentId).bind fun a => (db.getCard a).map (a, ·)
      if card.enabled = false ∨ card.availability = "policy_blocked" then none
      else some (.acceptance, [(.text "accepting_agent_id", .text agentId),
        (.text "reason", .text (textOr reasonOrQuestion "Accepted"))])
  | .decline => some (.decline, [(.text "reason", .text (textOr reasonOrQuestion "Declined"))])
  | .clarify => some (.clarification,
      [(.text "question", .text (textOr reasonOrQuestion "Clarification requested"))])
  | .unknown _ => none

/-- A request answered from 400 to 499 is neither relayed nor queued. -/
def RequestKept (request : Request) : Prop :=
  ∀ contentHash,
    computeContentHash sender.ext (requestPayload request (request.maxTurns.getD 12)) =
      some contentHash →
    let peer := request.peerUsername
    let body := signedEnvelope sender request.sessionId request.senderAgentId contentHash 1
      .taskRequest (requestPayload request (request.maxTurns.getD 12))
    Refuses (selfContext sender (db.resolvePeerContactInfo peer).2.2) db body ∨
      (answerOf sender db peer body).bind HttpResult.clientError = none ∧
        (Reaches sender db peer body ∨ QueueFree sender db request.sessionId peer 1)

/-- A cancellation is never sent, so it is kept only if it is refused. -/
def CancelKept (sid reason : String) : Prop :=
  ∀ row contentHash, db.session? sid = some row →
    computeContentHash sender.ext [(.text "reason", .text reason)] = some contentHash →
    Refuses (selfContext sender (db.resolvePeerContactInfo (peerOf sender row)).2.2) db
      (signedEnvelope sender sid (textOr row.senderAgentId sender.username) contentHash
        (nextSequence db sid sender.username) .cancel [(.text "reason", .text reason)])

/-- The database in which the status event of a pause or a resume is ingested. -/
def statusUpdated (sid : String) (action : OwnerAction) (target : Status) : Db :=
  (db.updateSession sid (setStatus target sender.now)).writeAuditEvent "session_status_updated"
    ("Session status updated to '" ++ target.value ++ "' via " ++ action.name ++ " command")
    (some sid)

def StatusEventKept (sid : String) (action : OwnerAction) (target : Status)
    (statusEvent reason : String) : Prop :=
  ∀ state contentHash, reconstructSessionState sender.ext db sid = some state →
    (processOwnerCommand state sender.username action).success = true →
    let payload : Fields := [(.text "status_event", .text statusEvent), (.text "reason", .text reason)]
    computeContentHash sender.ext payload = some contentHash →
    let peer := if sender.username = state.initiatorUsername then state.receiverUsername
      else state.initiatorUsername
    let db := statusUpdated sender db sid action target
    Refuses (selfContext sender (db.resolvePeerContactInfo peer).2.2) db
      (signedEnvelope sender sid
        (((state.participants.get? sender.username).map (·.agentId)).getD sender.username)
        contentHash (nextSequence db sid sender.username) .statusEvent payload)

/-- An offer is not queued. -/
def OfferKept (sid artifactId : String) : Prop :=
  ∀ state art recipientKey contentHash, reconstructSessionState sender.ext db sid = some state →
    Rows.lookup ArtifactRow.artifactId db.artifacts artifactId = some art →
    let peer := if sender.username = state.initiatorUsername then state.receiverUsername
      else state.initiatorUsername
    recipientKeyOf sender db peer = some recipientKey →
    computeContentHash sender.ext (offerPayload sender art recipientKey) = some contentHash →
    let body := signedEnvelope sender sid
      (((state.participants.get? sender.username).map (·.agentId)).getD sender.username)
      contentHash (nextSequence db sid sender.username) .artifactOffer
      (offerPayload sender art recipientKey)
    Refuses { selfContext sender (db.resolvePeerContactInfo peer).2.2 with
        recipientX25519 := some sender.x25519Key
        ownerIdentityKey := some sender.identityKey
        relayUrl := sender.relayUrl } db body ∨
      Reaches sender db peer body

/-- A turn that exhausts a budget pauses the session; any other turn queues its
message whatever ingestion said. -/
def TurnKept (sid : String) (turn : Turn) : Prop :=
  ∀ row, db.session? sid = some row →
    match exhaustedReason sender.ext row
        (stateOf sender.ext row (db.eventsOf sid)).currentTurn sender.now with
    | .error _ => True
    | .ok (some reason) =>
        StatusEventKept sender db sid .ownerPause .paused "owner_paused" reason
    | .ok none =>
        turn.response.message.isSome = true →
          QueueFree sender db sid (peerOf sender row) (nextSequence db sid sender.username)

/-- An accepted body is the peer's, and the acceptance signed for an offer is
refused or gets through to the offer's sender. -/
def BodyKept (ctx : IngestContext) (db : Db) (raw : Fields) : Prop :=
  ∀ db' committed, ingestCommit ctx db raw = (db', .ok committed) →
    let peer := committed.envelope.actorUsername
    peer ≠ db.myUsername ∧ (committed.envelope.kind = .artifactOffer →
      ∀ signed, signedAccept? ctx db' committed = some signed →
        Refuses signed.context signed.db signed.body ∨
          accepted? (sendAccept ctx db peer signed.body).direct = true ∨
            accepted? (sendAccept ctx db peer signed.body).relay = true)

end Kept

/-- The call is the local identity's and loses nothing it signs. -/
def Keeps (w : World) (call : Call) : Prop :=
  (∀ sender, call.sender? = some sender → sender.username = w.db.myUsername) ∧
    match call with
    | .ingest ctx raw => BodyKept ctx w.db raw
    | .dispatch sender request => RequestKept sender w.db request
    | .send sender sid kind payload agentId => MessageKept sender w.db sid kind payload agentId
    | .respond sender sid decision agentId reason => ∀ kind payload,
        responseMessage w.db decision agentId reason = some (kind, payload) →
        MessageKept sender w.db sid kind payload (some (textOr agentId sender.username))
    | .cancel sender sid reason => CancelKept sender w.db sid reason
    | .pause sender sid reason =>
        StatusEventKept sender w.db sid .ownerPause .paused "owner_paused" reason
    | .resume sender sid reason =>
        StatusEventKept sender w.db sid .ownerResume .active "owner_resumed" reason
    | .offer sender sid artifactId => OfferKept sender w.db sid artifactId
    | .advance sender sid turn => TurnKept sender w.db sid turn

end Kin.Node
