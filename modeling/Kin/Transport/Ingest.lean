import Kin.Artifacts.Vault
import Kin.Session.History

/-!
`ingest_envelope` of `kin/transport/v11.py`, stage by stage: session lookup and
lazy expiry, verification, duplicate check, bootstrap or reconstruction, the
reducer, the commit, and the handling of final results and artifact offers.

Every stage works on the database and may end the call, with an acknowledgement
or an exception; the database keeps what was committed before. The recursive
call for the automatic `ARTIFACT_ACCEPT` has an envelope of another kind than
`ARTIFACT_OFFER`, so it never reaches the offer handling: it is the pipeline
without that last stage.
-/

namespace Kin.Transport

open Kin.Py Kin.Lib Kin.Schemas Kin.Session Kin.Storage Kin.Audit Kin.Artifacts

/-! ### The network -/

/-- What an HTTP call yields: a status code and a text, with the acknowledgement
the text parses to, if it does, or an `httpx.RequestError`. -/
inductive HttpResult
  | response (code : Nat) (text : String) (ack : Option AckStatus)
  | requestError (text : String)
  deriving DecidableEq

namespace HttpResult

def isOk : HttpResult → Bool
  | .response code _ _ => code == 200
  | .requestError _ => false

/-- The text of an answer with a status code from 400 to 499. -/
def clientError : HttpResult → Option String
  | .response code text _ => if 400 ≤ code ∧ code < 500 then some text else none
  | .requestError _ => none

end HttpResult

/-- The answers a call gets: of a peer endpoint, and of the relay for a recipient. -/
structure Http where
  post : String → Fields → HttpResult
  relay : String → Fields → HttpResult

/-- One attempt to hand an envelope to its recipient. `none` is a path not taken. -/
structure Transmission where
  envelope : Fields
  direct : Option HttpResult
  relay : Option HttpResult

def accepted? (r : Option HttpResult) : Bool := r.any HttpResult.isOk

/-! ### Arguments and results -/

/-- The arguments of `ingest_envelope` besides database and body. -/
structure IngestContext where
  ext : Externals
  getPublicKey : Json → Option PublicKey
  now : Instant
  recipientX25519 : Option PrivateKey := none
  ownerIdentityKey : Option PrivateKey := none
  relayUrl : Option String := none
  http : Http

abbrev Exit := Except PyExc TransportAcknowledgement

structure IngestResult where
  db : Db
  exit : Exit
  /-- The automatic acceptance sent for a stored offer. -/
  accept : Option Transmission := none

section Raw

variable (raw : Fields)

def rawSessionId : Json := raw.getD "session_id" (.text "")

def rawActorUsername : Json := raw.getD "actor_username" (.text "")

def rawActorAgentId : Json := raw.getD "actor_agent_id" (.text "")

def rawSequence : Json := raw.getD "sequence" (.int 0)

def rawKind : Json := raw.getD "kind" (.text "")

def rawContentHash : Json := raw.getD "content_hash" (.text "")

end Raw

def format (ext : Externals) : Json → PyStr
  | .str s => s
  | v => .text (ext.strOf v)

/-- A rejection built from the unvalidated body. -/
def rejectRaw (ctx : IngestContext) (raw : Fields) (code : ErrorCode) (message : PyStr) : Exit :=
  transportAcknowledgement ctx.ext (rawSessionId raw) (rawSequence raw) (rawContentHash raw)
    .rejected (isoNow ctx.now) (some code) (some message)

def rejectVerified (ctx : IngestContext) (raw : Fields) (envelope : SessionEnvelope)
    (code : Option ErrorCode) (message : Option PyStr) : Exit :=
  transportAcknowledgement ctx.ext (rawSessionId raw) (rawSequence raw)
    (.text envelope.contentHash) .rejected (isoNow ctx.now) code message

def deliveredAck (ctx : IngestContext) (raw : Fields) (envelope : SessionEnvelope) : Exit :=
  transportAcknowledgement ctx.ext (rawSessionId raw) (rawSequence raw)
    (.text envelope.contentHash) .delivered (isoNow ctx.now) none none

/-! ### Session lookup, lazy expiry and the participant map -/

/-- The text the bound `session_id` is compared with; `NULL` matches no row. -/
def sessionKey (ext : Externals) (raw : Fields) : Except PyExc (Option String) :=
  match bindSql (rawSessionId raw) with
  | .error e => .error e
  | .ok v => .ok (sqlText ext.realText v)

/-- Whether `expires_at` has passed on a session that is not terminal. -/
def isOverdue (row : SessionRow) (now : Instant) : Bool :=
  match row.expiresAt with
  | some expiry => decide (expiry ≤ now) && !isTerminalState row.status
  | none => false

def lazyExpire (ctx : IngestContext) (db : Db) (row : SessionRow) : Db :=
  if isOverdue row ctx.now then
    (applyNodeCommandTransition ctx.ext db row.sessionId .markExpired ctx.now).1
  else db

/-- Setting an entry from raw values. An entry that is not text is left out: its
body fails structural validation, or has a lone surrogate and cannot verify. -/
def setRawEntry (map : Dict String String) (username agentId : Json) : Dict String String :=
  match asText username, asText agentId with
  | some u, some a => map.set u a
  | _, _ => map

/-- `participant_map` for a stored session. -/
def participantMap (row : SessionRow) (raw : Fields) : Dict String String :=
  let actor := asText (rawActorUsername raw)
  let withSender :=
    match row.senderAgentId with
    | some a => if a = "" then Dict.empty else Dict.empty.set row.initiatorUsername a
    | none => Dict.empty
  let withReceiver :=
    match row.receiverAgentId with
    | some a =>
        if a ≠ "" ∧ (asText (rawKind raw) ≠ some MessageKind.acceptance.value ∨
            actor = some row.initiatorUsername) then
          withSender.set row.receiverUsername a
        else withSender
    | none => withSender
  if (actor.bind withReceiver.get?).isSome then withReceiver
  else setRawEntry withReceiver (rawActorUsername raw) (rawActorAgentId raw)

/-- What is known after the lookup: the session row as it was read, and the
participants that verification checks against. -/
structure Opened where
  row : Option SessionRow
  participants : Dict String String

/-- The first part of `ingest_envelope`, up to verification. -/
def openSession (ctx : IngestContext) (db : Db) (raw : Fields) : Db × Except Exit Opened :=
  match sessionKey ctx.ext raw with
  | .error e => (db, .error (.error e))
  | .ok key =>
      match key.bind db.session? with
      | none =>
          if asText (rawKind raw) ≠ some MessageKind.taskRequest.value then
            (db, .error (rejectRaw ctx raw .sessionNotFound
              (.text "Session '" ++ format ctx.ext (rawSessionId raw) ++
                .text "' does not exist for non-bootstrap envelope '" ++
                format ctx.ext (rawKind raw) ++ .text "'.")))
          else
            match ctx.getPublicKey (rawActorUsername raw) with
            | none =>
                (db, .error (rejectRaw ctx raw .unpairedSender
                  (.text "Actor '" ++ format ctx.ext (rawActorUsername raw) ++
                    .text "' is not a verified contact.")))
            | some _ =>
                if (rawActorUsername raw).hashable then
                  (db, .ok ⟨none,
                    setRawEntry .empty (rawActorUsername raw) (rawActorAgentId raw)⟩)
                else (db, .error (.error .typeError))
      | some row =>
          if (rawActorUsername raw).hashable then
            (lazyExpire ctx db row, .ok ⟨some row, participantMap row raw⟩)
          else (lazyExpire ctx db row, .error (.error .typeError))

/-! ### Bootstrap -/

/-- `turn_limit`: the requested number of turns when it is an `int` between 1
and 12 (a `bool` is an `int`), else 12. -/
def turnLimitOf : Json → Nat
  | .int n => if 1 ≤ n ∧ n ≤ 12 then n.toNat else 12
  | .bool true => 1
  | _ => 12

/-- The three budget values before binding. -/
def rawBudgets (type : SessionType) (payload : Fields) : Json × Json × Json :=
  if type = .buildPipeline ∨ type = .delegateSubtask then
    (payload.getD "runtime_budget_seconds" (.int 86400),
     payload.getD "artifact_bytes_budget" (.int 50000000),
     payload.getD "cost_budget_estimate" (.float (.finite 100)))
  else
    (payload.getD "runtime_budget_seconds" .null,
     payload.getD "artifact_bytes_budget" .null,
     payload.getD "cost_budget_estimate" .null)

/-- `encrypt_field(vault_key, goal)`: only text and `None` can be encrypted. -/
def objectiveOf : Json → Except PyExc (Option String)
  | .str (.text s) => .ok (some s)
  | .str (.lone _) => .error .unicodeEncodeError
  | .null => .ok none
  | _ => .error .attributeError

/-- `REAL` affinity: numbers become reals. -/
def sqlReal (numericText : String → Option SqlValue) (v : SqlValue) : SqlValue :=
  match sqlNumeric numericText v with
  | .integer n => .real (.finite n)
  | v => v

/-- The receiver of a bootstrapped session, before binding. -/
def receiverOf (db : Db) (envelope : SessionEnvelope) : Json :=
  if envelope.actorUsername = db.myUsername then envelope.payload.getD "peer_username" (.text "")
  else .text db.myUsername

/-- The row of a new session: every value that Python fails to encrypt or bind
raises, and so does a `NULL` receiver. -/
def bootstrapRow (ctx : IngestContext) (db : Db) (type : SessionType)
    (envelope : SessionEnvelope) : Except PyExc SessionRow := do
  let payload := envelope.payload
  let requested := payload.getD "requested_agent_id" (.text "")
  let (runtime, artifact, cost) := rawBudgets type payload
  let objective ← objectiveOf (payload.getD "goal" (.text ""))
  let receiver ← bindSql (receiverOf db envelope)
  let receiverAgent ← bindSql (if requested.truthy then requested else .null)
  let runtimeBudget ← bindSql runtime
  let artifactBudget ← bindSql artifact
  let costBudget ← bindSql cost
  match sqlText ctx.ext.realText receiver with
  | none => .error .integrityError
  | some receiverUsername =>
      pure
        { sessionId := envelope.sessionId
          sessionType := type
          initiatorUsername := envelope.actorUsername
          receiverUsername
          status := .draft
          objective
          senderAgentId := some envelope.actorAgentId
          receiverAgentId := sqlText ctx.ext.realText receiverAgent
          turnLimit := turnLimitOf (payload.getD "max_turns" (.int 12))
          runtimeBudgetSeconds := sqlNumeric ctx.ext.numericText runtimeBudget
          artifactBytesBudget := sqlNumeric ctx.ext.numericText artifactBudget
          cumulativeArtifactBytes := 0
          costBudgetEstimate := sqlReal ctx.ext.numericText costBudget
          cumulativeCostEstimate := 0
          createdAt := ctx.now
          updatedAt := ctx.now
          expiresAt := some (ctx.now.addSeconds 604800) }

/-- The in-memory state of a session that was just created. -/
def bootstrapState (row : SessionRow) (envelope : SessionEnvelope) : SessionState where
  sessionId := row.sessionId
  initiatorUsername := row.initiatorUsername
  receiverUsername := row.receiverUsername
  status := .draft
  maxTurns := row.turnLimit
  participants := Dict.empty.set envelope.actorUsername ⟨envelope.actorAgentId, .owner⟩

/-- Stage 3: the state the reducer starts from. A new session row is committed
here; a receiver that is not a string fails `SessionState` after that. -/
def loadState (ctx : IngestContext) (db : Db) (raw : Fields) (row : Option SessionRow)
    (envelope : SessionEnvelope) : Db × Except Exit SessionState :=
  match row with
  | none =>
      let mode := envelope.payload.getD "collaboration_mode" (.text "ask")
      match SessionType.ofJson mode with
      | none =>
          (db, .error (rejectVerified ctx raw envelope (some .invalidSessionType)
            (some (.text "Invalid collaboration_mode '" ++ format ctx.ext mode ++
              .text "'. Must be a valid SessionType."))))
      | some type =>
          match bootstrapRow ctx db type envelope with
          | .error e => (db, .error (.error e))
          | .ok newRow =>
              let db' := db.addSession newRow
              match asText (receiverOf db envelope) with
              | none => (db', .error (.error .validationError))
              | some _ => (db', .ok (bootstrapState newRow envelope))
  | some _ =>
      match reconstructSessionState ctx.ext db envelope.sessionId with
      | none =>
          (db, .error (rejectVerified ctx raw envelope (some .sessionStateLoadFailed)
            (some (.text ("Failed to reconstruct state for session '" ++ envelope.sessionId ++
              "'.")))))
      | some state => (db, .ok state)

/-! ### Node commands around the reducer -/

/-- Runs a node command in memory and keeps the state if it is refused. -/
def tryCommand (state : SessionState) (command : NodeCommand) : SessionState :=
  let result := processNodeCommand state command
  if result.success then result.newState else state

/-- A reply to a request that is still `queued` or `delivered` first moves the
state to `peer_review`. -/
def advanceToReview (state : SessionState) (kind : MessageKind) : SessionState :=
  if (state.status = .queued ∨ state.status = .delivered) ∧
      (kind = .acceptance ∨ kind = .decline ∨ kind = .clarification) then
    let state := if state.status = .queued then tryCommand state .markDelivered else state
    tryCommand state .markPeerReview
  else state

/-- The automatic transitions after an envelope of the peer: a request goes to
`peer_review`, an acceptance to `active`. -/
def settle (state : SessionState) (kind : MessageKind) (isPeer : Bool) : SessionState :=
  let state :=
    if state.status = .sent ∧ isPeer = true then
      let result := processNodeCommand state .markDelivered
      if result.success then
        if kind = .taskRequest then tryCommand result.newState .markPeerReview
        else result.newState
      else state
    else state
  if state.status = .accepted ∧ isPeer = true then tryCommand state .markActive else state

/-! ### Commit -/

def envelopeEvent (envelope : SessionEnvelope) (now : Instant) : NewEvent where
  sessionId := envelope.sessionId
  actorUsername := envelope.actorUsername
  actorAgentId := some envelope.actorAgentId
  kind := .message envelope.kind
  visibility := .peerVisible
  payload := some (.obj envelope.payload)
  signature := envelope.signature
  sequence := some envelope.sequence
  createdAt := now

/-- An acceptance replaces `receiver_agent_id`. -/
def recordAcceptance (db : Db) (envelope : SessionEnvelope) : Db :=
  if envelope.kind = .acceptance then
    match asText (acceptingAgentId envelope) with
    | some agentId =>
        if agentId = "" then db
        else db.updateSession envelope.sessionId fun row =>
          { row with receiverAgentId := some agentId }
    | none => db
  else db

/-- Stage 5 and the status update: acceptance, event, automatic transitions,
status, and the outcome card of a final result. -/
def commitEnvelope (ctx : IngestContext) (db : Db) (raw : Fields) (envelope : SessionEnvelope)
    (newState : SessionState) : Db × Except Exit Unit :=
  match appendSessionEvent ctx.ext (recordAcceptance db envelope)
      (envelopeEvent envelope ctx.now) with
  | (db', .error e) => (db', .error (.error e))
  | (db', .ok (.rejected code)) =>
      (db', .error (rejectVerified ctx raw envelope (some code)
        (some (.text "Session event append was rejected."))))
  | (db', .ok _) =>
      let final := settle newState envelope.kind (envelope.actorUsername != db'.myUsername)
      let db' := db'.updateSession envelope.sessionId (setStatus final.status ctx.now)
      if envelope.kind = .finalResult then
        (deriveOutcomeCard ctx.ext db' envelope.sessionId envelope.payload ctx.now, .ok ())
      else (db', .ok ())

/-! ### Artifact offers -/

def receiverMaxBytes (db : Db) (agentId : Option String) : Int :=
  match agentId with
  | some a =>
      if a = "" then 1048576 else ((db.getCard a).bind (·.maxArtifactBytes)).getD 1048576
  | none => 1048576

def decryptOffer (ctx : IngestContext) (db : Db) (envelope : SessionEnvelope)
    (wire : Json) : Option (Bytes × PrivateKey) := do
  let ciphertext ← ctx.ext.b64decode wire
  let senderKey ← (db.resolvePeerContactInfo envelope.actorUsername).2.1
  let privateKey ← ctx.recipientX25519 <|> db.identity.bind fun u =>
    if u = "" then none else ctx.ext.loadX25519PrivateKey u
  let bytes ← ctx.ext.decryptFromSender privateKey senderKey ciphertext
  pure (bytes, privateKey)

/-- The next sequence number of an actor: `COALESCE(MAX(sequence), 0) + 1`. -/
def nextSequence (db : Db) (sessionId actorUsername : String) : Nat :=
  ((((db.eventsOf sessionId).filter fun e => e.actorUsername == actorUsername).filterMap
    (·.sequence)).max?).getD 0 + 1

def unsignedEnvelope (sessionId actorUsername actorAgentId timestamp contentHash : String)
    (sequence : Nat) (kind : MessageKind) (payload : Fields) : Fields :=
  [(.text "schema_version", .text "1.1"), (.text "protocol_version", .text "1.1"),
   (.text "session_id", .text sessionId), (.text "sequence", .int sequence),
   (.text "actor_username", .text actorUsername), (.text "actor_agent_id", .text actorAgentId),
   (.text "timestamp", .text timestamp), (.text "kind", .text kind.value),
   (.text "content_hash", .text contentHash), (.text "payload", .obj payload)]

/-- `env_dict["signature"] = sign_envelope(env_dict, key)`. -/
def withSignature (ext : Externals) (fields : Fields) (key : PrivateKey) : Fields :=
  fields ++ [(.text "signature", .text (signEnvelope ext fields key))]

def acceptPayload (artifactId sessionId : String) : Fields :=
  [(.text "schema_version", .text "1.1"), (.text "artifact_id", .text artifactId),
   (.text "session_id", .text sessionId), (.text "status", .text "accepted")]

/-- The outcome of the offer handling before the automatic acceptance: stored
bytes with the key that opened them, or an end of the call. -/
def storeOffer (ctx : IngestContext) (db : Db) (envelope : SessionEnvelope)
    (agentId : Option String) : Db × Except PyExc (Option (ArtifactOffer × PrivateKey)) :=
  let payload := envelope.payload
  let security := fun (db : Db) (summary : String) =>
    db.writeAuditEvent "security_rejection" summary (some envelope.sessionId)
      (some envelope.actorUsername)
  match validateArtifactOffer ctx.ext payload with
  -- `write_audit_event` is called with a keyword it does not have
  | none => (db, .error .typeError)
  | some offer =>
  let maxBytes := receiverMaxBytes db agentId
  if maxBytes < offer.sizeBytes then
    (security db ("Offered artifact size " ++ toString offer.sizeBytes ++
      " bytes exceeds receiving card max_artifact_bytes (" ++ toString maxBytes ++ ")."), .ok none)
  else
  let wire := payload.getD "encrypted_bytes_b64" .null
  if wire.truthy = false then
    (security db "ARTIFACT_OFFER payload missing encrypted_bytes_b64 field.", .ok none)
  else
  match decryptOffer ctx db envelope wire with
  | none => (security db "ARTIFACT_OFFER wire decryption failed", .ok none)
  | some (bytes, privateKey) =>
  if ctx.ext.sha256Hex bytes ≠ offer.sha256 then
    (security db ("Claimed sha256 '" ++ offer.sha256 ++ "' does not match computed payload hash '" ++
      ctx.ext.sha256Hex bytes ++ "'."), .ok none)
  else if maxBytes < bytes.length then
    (security db ("Decrypted artifact size " ++ toString bytes.length ++
      " bytes exceeds receiving card max_artifact_bytes (" ++ toString maxBytes ++ ")."), .ok none)
  else
  match storeArtifact ctx.ext db
      { sessionId := envelope.sessionId, rawBytes := bytes, mimeType := offer.mimeType,
        offeredBy := offer.offeredBy, previewPolicy := offer.previewPolicy, maxBytes,
        source := "peer_received", now := ctx.now, artifactId := some offer.artifactId } with
  | .error _ => (security db "Vault storage of offered artifact rejected", .ok none)
  | .ok (db', _) =>
      (incrementSessionArtifactBytes db' envelope.sessionId bytes.length,
        .ok (some (offer, privateKey)))

/-! ### The pipeline -/

/-- What a committed envelope leaves for the offer handling. -/
structure Committed where
  envelope : SessionEnvelope
  row : Option SessionRow

def ingestLoaded (ctx : IngestContext) (db : Db) (raw : Fields) (row : Option SessionRow)
    (envelope : SessionEnvelope) (state : SessionState) : Db × Except Exit Committed :=
  -- 4. reducer
  match processPeerEnvelope (advanceToReview state envelope.kind) envelope with
  | .error e => (db, .error (.error e))
  | .ok result =>
  if result.success = false then
    (db, .error (rejectVerified ctx raw envelope result.errorCode
      (result.errorMessage.map .text)))
  else
  -- 5. commit
  match commitEnvelope ctx db raw envelope result.newState with
  | (db, .error exit) => (db, .error exit)
  | (db, .ok ()) => (db, .ok ⟨envelope, row⟩)

/-- The stages after verification, up to and including the commit. -/
def ingestVerified (ctx : IngestContext) (db : Db) (raw : Fields) (row : Option SessionRow)
    (envelope : SessionEnvelope) : Db × Except Exit Committed :=
  -- 2. duplicates, before the reducer
  match checkSequenceConflict ctx.ext db envelope.sessionId envelope.actorUsername
      envelope.sequence (some (.obj envelope.payload)) with
  | (db, .duplicate _) => (db, .error (deliveredAck ctx raw envelope))
  | (db, .conflict _) =>
      (db, .error (rejectVerified ctx raw envelope (some .sequenceReuseMismatch)
        (some (.text
          "Sequence reuse mismatch: sequence number re-used with different content hash."))))
  | (db, .new) =>
  -- 3. bootstrap or reconstruction
  match loadState ctx db raw row envelope with
  | (db, .error exit) => (db, .error exit)
  | (db, .ok state) => ingestLoaded ctx db raw row envelope state

def ingestCommit (ctx : IngestContext) (db : Db) (raw : Fields) : Db × Except Exit Committed :=
  match openSession ctx db raw with
  | (db, .error exit) => (db, .error exit)
  | (db, .ok opened) =>
  -- 1. verification
  match verifyAndBuildEnvelope ctx.ext raw ctx.getPublicKey (asText (rawSessionId raw))
      opened.participants with
  | .error r => (db, .error (rejectRaw ctx raw r.code r.message))
  | .ok envelope => ingestVerified ctx db raw opened.row envelope

/-- The nested call for an automatic acceptance. -/
def ingestAccept (ctx : IngestContext) (db : Db) (raw : Fields) : Db × Exit :=
  match ingestCommit ctx db raw with
  | (db, .error exit) => (db, exit)
  | (db, .ok committed) => (db, deliveredAck ctx raw committed.envelope)

/-- Whether the offer handling runs: an offer of somebody else. -/
def isPeerOffer (db : Db) (envelope : SessionEnvelope) : Bool :=
  envelope.kind == .artifactOffer && envelope.actorUsername != db.myUsername

/-- The agent on whose behalf this node receives: its column of the row read at
the start of the call. -/
def receivingAgent (db : Db) (row : Option SessionRow) : Option String :=
  row.bind fun r =>
    if db.myUsername = r.receiverUsername then r.receiverAgentId else r.senderAgentId

def acceptEnvelope (ctx : IngestContext) (db : Db) (sessionId artifactId : String)
    (agentId : Option String) (contentHash : String) (key : PrivateKey) : Fields :=
  withSignature ctx.ext
    (unsignedEnvelope sessionId db.myUsername (textOr agentId db.myUsername) (isoNow ctx.now)
      contentHash (nextSequence db sessionId db.myUsername) .artifactAccept
      (acceptPayload artifactId sessionId)) key

def acceptContext (ctx : IngestContext) (db : Db) (key x25519 : PrivateKey) : IngestContext :=
  { ctx with
    getPublicKey := fun u =>
      if asText u = some db.myUsername then some (ctx.ext.publicKeyOf key)
      else (asText u).bind fun name => (db.resolvePeerContactInfo name).2.2
    recipientX25519 := some x25519
    ownerIdentityKey := some key
    relayUrl := none }

/-- The network part of the automatic acceptance: the peer first, then the relay. -/
def sendAccept (ctx : IngestContext) (db : Db) (actorUsername : String) (envelope : Fields) :
    Transmission :=
  let (endpoint, x25519, _) := db.resolvePeerContactInfo actorUsername
  let direct := (Db.given endpoint).map fun e => ctx.http.post e envelope
  let relay :=
    if accepted? direct = false ∧ (Db.given ctx.relayUrl).isSome = true ∧ x25519.isSome = true then
      some (ctx.http.relay actorUsername envelope)
    else none
  { envelope, direct, relay }

def handleOffer (ctx : IngestContext) (db : Db) (raw : Fields) (committed : Committed) :
    IngestResult :=
  let envelope := committed.envelope
  let agentId := receivingAgent db committed.row
  match storeOffer ctx db envelope agentId with
  | (db, .error e) => { db, exit := .error e }
  | (db, .ok none) => { db, exit := deliveredAck ctx raw envelope }
  | (db, .ok (some (offer, x25519))) =>
  match computeContentHash ctx.ext (acceptPayload offer.artifactId envelope.sessionId) with
  | none => { db, exit := .error .valueError }
  | some contentHash =>
  match ctx.ownerIdentityKey <|> ctx.ext.loadPrivateKey db.myUsername with
  | none => { db, exit := deliveredAck ctx raw envelope }
  | some key =>
  let accept := acceptEnvelope ctx db envelope.sessionId offer.artifactId agentId contentHash key
  match ingestAccept (acceptContext ctx db key x25519) db accept with
  | (db, .error e) => { db, exit := .error e }
  | (db, .ok _) =>
      { db, exit := deliveredAck ctx raw envelope,
        accept := some (sendAccept ctx db envelope.actorUsername accept) }

def ingestEnvelope (ctx : IngestContext) (db : Db) (raw : Fields) : IngestResult :=
  match ingestCommit ctx db raw with
  | (db, .error exit) => { db, exit }
  | (db, .ok committed) =>
      if isPeerOffer db committed.envelope then handleOffer ctx db raw committed
      else { db, exit := deliveredAck ctx raw committed.envelope }

end Kin.Transport
