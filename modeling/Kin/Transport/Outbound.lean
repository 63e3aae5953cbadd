import Kin.Transport.Ingest

/-!
The operations of `kin/transport/v11.py` that author envelopes. Each signs an
envelope under the owner's next sequence number, ingests it on this node, and
then ends in its own way: over HTTP, at the relay, in the local queue, or
nowhere. Uuids, the clock and the answers of the network are arguments.
-/

namespace Kin.Transport

open Kin.Py Kin.Lib Kin.Schemas Kin.Session Kin.Storage Kin.Audit Kin.Artifacts

/-- The arguments the authoring functions share. `queueId` is the uuid a queue
row gets. -/
structure Sender where
  ext : Externals
  identityKey : PrivateKey
  x25519Key : PrivateKey
  username : String
  peerEndpoint : Option String := none
  relayUrl : Option String := none
  recipientX25519 : Option PublicKey := none
  now : Instant
  http : Http
  queueId : String := ""

/-- What an operation leaves: the database, how it ended, and what it put on
the network. -/
structure LocalResult where
  db : Db
  exit : Except PyExc Unit
  sent : Option Transmission := none

/-! ### Signing and self-ingestion -/

section Author

variable (sender : Sender)

def signedEnvelope (sessionId agentId contentHash : String) (sequence : Nat) (kind : MessageKind)
    (payload : Fields) : Fields :=
  withSignature sender.ext
    (unsignedEnvelope sessionId sender.username agentId (isoNow sender.now) contentHash sequence
      kind payload) sender.identityKey

/-- `get_pubkey`: the owner's own key, and the peer's key for anybody else. -/
def ownPublicKey (peerKey : Option PublicKey) (username : Json) : Option PublicKey :=
  if asText username = some sender.username then some (sender.ext.publicKeyOf sender.identityKey)
  else peerKey

def selfContext (peerKey : Option PublicKey) : IngestContext where
  ext := sender.ext
  getPublicKey := ownPublicKey sender peerKey
  now := sender.now
  http := sender.http

/-- Ingests an envelope of the owner; a rejection raises `TransportError`. -/
def selfIngest (ctx : IngestContext) (db : Db) (envelope : Fields) : Db × Except PyExc Unit :=
  let result := ingestEnvelope ctx db envelope
  match result.exit with
  | .error e => (result.db, .error e)
  | .ok ack =>
      if ack.status = .rejected then (result.db, .error .transportError) else (result.db, .ok ())

def peerOf (row : SessionRow) : String :=
  if sender.username = row.initiatorUsername then row.receiverUsername else row.initiatorUsername

/-- `peer_endpoint or resolved_ep`, when it is truthy. -/
def endpointOf (db : Db) (peer : String) : Option String :=
  (Db.given sender.peerEndpoint).or (Db.given (db.resolvePeerContactInfo peer).1)

/-- `recipient_x25519_pubkey or resolved_x255`. -/
def recipientKeyOf (db : Db) (peer : String) : Option PublicKey :=
  (Db.given sender.recipientX25519).or (db.resolvePeerContactInfo peer).2.1

def viaRelay (db : Db) (peer : String) (envelope : Fields) (delivered : Bool) :
    Option HttpResult :=
  if delivered = false ∧ (Db.given sender.relayUrl).isSome = true ∧
      (recipientKeyOf sender db peer).isSome = true then
    some (sender.http.relay peer envelope)
  else none

end Author

/-! ### The local queue -/

def pendingRow (sender : Sender) (sessionId peer : String) (sequence : Nat) (kind : MessageKind)
    (envelope : Fields) : QueueRow where
  queueId := sender.queueId
  sessionId := sessionId
  sequence := sequence
  recipientUsername := peer
  envelopeKind := kind
  envelope := envelope
  delivery :=
    { state := .pending, attemptCount := 0, nextRetryAt := isoNow sender.now, lastError := none }

/-- `INSERT INTO outbound_envelope_queue`. -/
def enqueue (db : Db) (row : QueueRow) : Except PyExc Db :=
  match db.outboundEnvelopeQueue.insert? row with
  | some q => .ok { db with outboundEnvelopeQueue := q }
  | none => .error .integrityError

/-- `INSERT ... ON CONFLICT(session_id, sequence, recipient_username) DO NOTHING`. -/
def enqueueIfAbsent (db : Db) (row : QueueRow) : Except PyExc Db :=
  if db.outboundEnvelopeQueue.hasEnvelope row.envelopeKey then .ok db else enqueue db row

/-! ### Sending a message -/

/-- The delivery of `send_session_message`: direct, relay, local queue. -/
def deliverMessage (sender : Sender) (db : Db) (sessionId peer : String) (sequence : Nat)
    (kind : MessageKind) (envelope : Fields) : LocalResult :=
  let direct := (endpointOf sender db peer).map fun e => sender.http.post e envelope
  let relay := viaRelay sender db peer envelope (accepted? direct)
  let sent := some { envelope, direct, relay }
  if accepted? direct || accepted? relay then { db, exit := .ok (), sent }
  else
    match enqueueIfAbsent db (pendingRow sender sessionId peer sequence kind envelope) with
    | .error e => { db, exit := .error e, sent }
    | .ok db => { db, exit := .ok (), sent }

def sendSessionMessage (sender : Sender) (db : Db) (sessionId : String) (kind : MessageKind)
    (payload : Fields) (actorAgentId : Option String := none) : LocalResult :=
  match db.session? sessionId with
  | none => { db, exit := .error .transportError }
  | some row =>
  let peer := peerOf sender row
  let sequence := nextSequence db sessionId sender.username
  match computeContentHash sender.ext payload with
  | none => { db, exit := .error .valueError }
  | some contentHash =>
  let envelope := signedEnvelope sender sessionId (textOr actorAgentId sender.username) contentHash
    sequence kind payload
  match selfIngest (selfContext sender (db.resolvePeerContactInfo peer).2.2) db envelope with
  | (db, .error e) => { db, exit := .error e }
  | (db, .ok ()) => deliverMessage sender db sessionId peer sequence kind envelope

inductive ResponseDecision
  | accept
  | decline
  | clarify
  | unknown (name : String)
  deriving DecidableEq

def respondToSession (sender : Sender) (db : Db) (sessionId : String)
    (decision : ResponseDecision) (acceptingAgentId reasonOrQuestion : Option String := none) :
    LocalResult :=
  let send := fun kind payload =>
    sendSessionMessage sender db sessionId kind payload
      (some (textOr acceptingAgentId sender.username))
  match decision with
  | .accept =>
      match (Db.given acceptingAgentId).bind fun a => (db.getCard a).map (a, ·) with
      | none => { db, exit := .error .valueError }
      | some (agentId, card) =>
          if card.enabled = false ∨ card.availability = "policy_blocked" then
            { db, exit := .error .valueError }
          else
            send .acceptance
              [(.text "accepting_agent_id", .text agentId),
               (.text "reason", .text (textOr reasonOrQuestion "Accepted"))]
  | .decline =>
      send .decline [(.text "reason", .text (textOr reasonOrQuestion "Declined"))]
  | .clarify =>
      send .clarification
        [(.text "question", .text (textOr reasonOrQuestion "Clarification requested"))]
  | .unknown _ => { db, exit := .error .valueError }

/-! ### Dispatch -/

/-- What a dispatch asks for. Budgets that are not given are `None`. -/
structure Request where
  sessionId : String
  peerUsername : String
  senderAgentId : String
  receiverAgentId : String
  mode : SessionType
  goal : String
  maxTurns : Option Int := none
  runtimeBudgetSeconds : Option Int := none
  artifactBytesBudget : Option Int := none
  costBudgetEstimate : Option PyFloat := none
  contextPack : List Json := []
  /-- How capability negotiation and the stale-card check end; both come before
  anything is signed or written. -/
  negotiation : Except PyExc Unit := .ok ()

def requestPayload (request : Request) (maxTurns : Int) : Fields :=
  let build := decide (request.mode = .buildPipeline ∨ request.mode = .delegateSubtask)
  let budget := fun (v : Option Json) (default : Json) => v.getD (if build then default else .null)
  [(.text "collaboration_mode", .text request.mode.value),
   (.text "goal", .text request.goal),
   (.text "requested_agent_id", .text request.receiverAgentId),
   (.text "peer_username", .text request.peerUsername),
   (.text "max_turns", .int maxTurns),
   (.text "runtime_budget_seconds", budget (request.runtimeBudgetSeconds.map .int) (.int 86400)),
   (.text "artifact_bytes_budget", budget (request.artifactBytesBudget.map .int) (.int 50000000)),
   (.text "cost_budget_estimate",
     budget (request.costBudgetEstimate.map .float) (.float (.finite 100))),
   (.text "context_pack", .arr request.contextPack)]

/-- The delivery of `dispatch_session`. An answer 200 must parse as an
acknowledgement; an answer from 400 to 499 fails the session. -/
def deliverRequest (sender : Sender) (db : Db) (sessionId peer : String) (envelope : Fields) :
    LocalResult :=
  let command := fun db c => (applyNodeCommandTransition sender.ext db sessionId c sender.now).1
  let direct := (endpointOf sender db peer).map fun e => sender.http.post e envelope
  let afterDirect := fun (db : Db) (delivered : Bool) =>
    let relay := viaRelay sender db peer envelope delivered
    let sent := some { envelope, direct, relay }
    if delivered then { db, exit := .ok (), sent }
    else if accepted? relay then { db := command db .markQueued, exit := .ok (), sent }
    else
      match enqueue db (pendingRow sender sessionId peer 1 .taskRequest envelope) with
      | .error e => { db, exit := .error e, sent : LocalResult }
      | .ok db => { db, exit := .ok (), sent }
  match direct with
  | some (.response code text ack) =>
      if code = 200 then
        match ack with
        | none => { db, exit := .error .validationError,
                    sent := some { envelope, direct, relay := none } }
        | some .delivered => afterDirect (command db .markDelivered) true
        | some _ => afterDirect db false
      else if (HttpResult.response code text ack).clientError.isSome then
        { db := command db .markFailed, exit := .ok (),
          sent := some { envelope, direct, relay := none } }
      else afterDirect db false
  | _ => afterDirect db false

def dispatchSession (sender : Sender) (db : Db) (request : Request) : LocalResult :=
  let maxTurns := request.maxTurns.getD 12
  if maxTurns < 1 ∨ 12 < maxTurns then { db, exit := .error .valueError }
  else
  match request.negotiation with
  | .error e => { db, exit := .error e }
  | .ok () =>
  let payload := requestPayload request maxTurns
  match computeContentHash sender.ext payload with
  | none => { db, exit := .error .valueError }
  | some contentHash =>
  let envelope := signedEnvelope sender request.sessionId request.senderAgentId contentHash 1
    .taskRequest payload
  match selfIngest
      (selfContext sender (db.resolvePeerContactInfo request.peerUsername).2.2) db envelope with
  | (db, .error e) => { db, exit := .error e }
  | (db, .ok ()) => deliverRequest sender db request.sessionId request.peerUsername envelope

/-! ### Cancel, pause and resume -/

/-- `cancel_session`. The agent is the initiator's, whoever cancels. -/
def cancelSession (sender : Sender) (db : Db) (sessionId : String)
    (reason : String := "User cancelled session") : LocalResult :=
  match db.session? sessionId with
  | none => { db, exit := .error .transportError }
  | some row =>
  let payload : Fields := [(.text "reason", .text reason)]
  match computeContentHash sender.ext payload with
  | none => { db, exit := .error .valueError }
  | some contentHash =>
  let envelope := signedEnvelope sender sessionId (textOr row.senderAgentId sender.username)
    contentHash (nextSequence db sessionId sender.username) .cancel payload
  match selfIngest (selfContext sender (db.resolvePeerContactInfo (peerOf sender row)).2.2) db
      envelope with
  | (db, .error e) => { db, exit := .error e }
  | (db, .ok ()) => { db, exit := .ok () }

/-- The common body of `pause_session` and `resume_session`: an owner command,
its status, and a `STATUS_EVENT` whose acknowledgement is not looked at. -/
def ownerStatusEvent (sender : Sender) (db : Db) (sessionId : String) (action : OwnerAction)
    (target : Status) (statusEvent reason : String) : LocalResult :=
  match reconstructSessionState sender.ext db sessionId with
  | none => { db, exit := .error .transportError }
  | some state =>
  let result := processOwnerCommand state sender.username action
  if result.success = false then { db, exit := .error .transportError }
  else
  let db := (db.updateSession sessionId (setStatus target sender.now)).writeAuditEvent
    "session_status_updated"
    ("Session status updated to '" ++ target.value ++ "' via " ++ action.name ++ " command")
    (some sessionId)
  let payload : Fields := [(.text "status_event", .text statusEvent), (.text "reason", .text reason)]
  match computeContentHash sender.ext payload with
  | none => { db, exit := .error .valueError }
  | some contentHash =>
  let agentId := ((state.participants.get? sender.username).map (·.agentId)).getD sender.username
  let peer := if sender.username = state.initiatorUsername then state.receiverUsername
    else state.initiatorUsername
  let envelope := signedEnvelope sender sessionId agentId contentHash
    (nextSequence db sessionId sender.username) .statusEvent payload
  let result := ingestEnvelope (selfContext sender (db.resolvePeerContactInfo peer).2.2) db envelope
  match result.exit with
  | .error e => { db := result.db, exit := .error e }
  | .ok _ => { db := result.db, exit := .ok () }

def pauseSession (sender : Sender) (db : Db) (sessionId : String)
    (reason : String := "Owner paused participation") : LocalResult :=
  ownerStatusEvent sender db sessionId .ownerPause .paused "owner_paused" reason

def resumeSession (sender : Sender) (db : Db) (sessionId : String)
    (reason : String := "Owner resumed participation") : LocalResult :=
  ownerStatusEvent sender db sessionId .ownerResume .active "owner_resumed" reason

/-! ### Artifact offers -/

/-- The payload of an offer: metadata of the stored artifact and its bytes,
encrypted for the recipient. -/
def offerPayload (sender : Sender) (art : ArtifactRow) (recipientKey : PublicKey) : Fields :=
  [(.text "schema_version", .text "1.1"), (.text "artifact_id", .text art.artifactId),
   (.text "session_id", .text art.sessionId), (.text "sha256", .text art.sha256),
   (.text "mime_type", .text art.mimeType), (.text "size_bytes", .int art.bytes.length),
   (.text "offered_by", .text sender.username), (.text "preview_policy", .text art.previewPolicy),
   (.text "encrypted_bytes_b64",
     .text (sender.ext.encryptForRecipient sender.x25519Key recipientKey art.bytes))]

/-- The delivery of `send_artifact_offer`: direct, then relay, and nothing after that. -/
def deliverOffer (sender : Sender) (db : Db) (peer : String) (envelope : Fields) : LocalResult :=
  let direct := (endpointOf sender db peer).map fun e => sender.http.post e envelope
  let afterDirect := fun (delivered : Bool) =>
    { db, exit := .ok (),
      sent := some { envelope, direct, relay := viaRelay sender db peer envelope delivered } :
        LocalResult }
  match direct with
  | some (.response code _ ack) =>
      if code = 200 then
        match ack with
        | none => { db, exit := .error .validationError,
                    sent := some { envelope, direct, relay := none } }
        | some status => afterDirect (decide (status = .delivered))
      else afterDirect false
  | _ => afterDirect false

def sendArtifactOffer (sender : Sender) (db : Db) (sessionId artifactId : String) : LocalResult :=
  match reconstructSessionState sender.ext db sessionId with
  | none => { db, exit := .error .transportError }
  | some state =>
  match Rows.lookup ArtifactRow.artifactId db.artifacts artifactId with
  | none => { db, exit := .error .valueError }
  | some art =>
  if art.sessionId ≠ sessionId then { db, exit := .error .valueError }
  else
  let peer := if sender.username = state.initiatorUsername then state.receiverUsername
    else state.initiatorUsername
  match recipientKeyOf sender db peer with
  | none => { db, exit := .error .transportError }
  | some recipientKey =>
  let payload := offerPayload sender art recipientKey
  match computeContentHash sender.ext payload with
  | none => { db, exit := .error .valueError }
  | some contentHash =>
  let agentId := ((state.participants.get? sender.username).map (·.agentId)).getD sender.username
  let envelope := signedEnvelope sender sessionId agentId contentHash
    (nextSequence db sessionId sender.username) .artifactOffer payload
  let ctx : IngestContext :=
    { selfContext sender (db.resolvePeerContactInfo peer).2.2 with
      recipientX25519 := some sender.x25519Key
      ownerIdentityKey := some sender.identityKey
      relayUrl := sender.relayUrl }
  match selfIngest ctx db envelope with
  | (db, .error e) => { db, exit := .error e }
  | (db, .ok ()) => deliverOffer sender db peer envelope

/-! ### A concrete instance

Two parties, `alice` who asks and `bob` who owns the node, with signatures that
verify under the signer's own name and a digest made of the payload's text. -/

namespace Sample

def letters : PyStr → List Char
  | .text s => s.toList.filter Char.isAlphanum
  | .lone _ => []

/-- A digest of 43 characters, as `CONTENT_HASH_REGEX` asks for. -/
def digest (fields : Fields) : String :=
  let chars := fields.flatMap fun e =>
    letters e.1 ++ match e.2 with
      | .str s => letters s
      | _ => []
  String.ofList ((chars ++ List.replicate 43 'A').take 43)

def externals : Externals where
  intOfText _ := none
  realText _ := ""
  numericText _ := none
  strOf _ := "value"
  errorText _ := "invalid"
  jcsHash fields := some (digest fields)
  dumpsHash
    | .obj fields => digest fields
    | _ => ""
  replayHash _ := "replay"
  textHash s := s
  loads _ := none
  ed25519Verify key signature _ := signature == "signed by " ++ key
  ed25519Sign key _ := "signed by " ++ key
  publicKeyOf key := key
  b64decode _ := none
  decryptFromSender _ _ bytes := some bytes
  encryptForRecipient _ _ _ := ""
  sha256Hex bytes := toString bytes.length
  loadPrivateKey username := some username
  loadX25519PrivateKey username := some username

def time : Instant := 1784721600000000

def offline : Http where
  post _ _ := .requestError "unreachable"
  relay _ _ := .requestError "unreachable"

def context : IngestContext where
  ext := externals
  getPublicKey u := asText u
  now := time
  http := offline

def envelope (sessionId actor agentId : String) (sequence : Nat) (kind : MessageKind)
    (payload : Fields) : Fields :=
  withSignature externals
    (unsignedEnvelope sessionId actor agentId (isoNow time) (digest payload) sequence kind payload)
    actor

def sender (username : String) : Sender where
  ext := externals
  identityKey := username
  x25519Key := username
  username := username
  now := time
  http := offline
  queueId := "q1"

/-- A request of `alice` for `bob`'s agent `bot`. -/
def request : Fields :=
  [(.text "collaboration_mode", .text "ask"), (.text "goal", .text "hello"),
   (.text "requested_agent_id", .text "bot"), (.text "peer_username", .text "bob")]

/-- `bob`'s node before anything arrived. -/
def bobDb : Db := Db.fresh (some "bob") [] []

end Sample

end Kin.Transport
