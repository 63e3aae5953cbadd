import Kin.Transport.Outbound

/-!
`tag_in_handoff` of `kin/session/orchestrator.py`: another local agent takes over
the owner's side of a session. The change is signed as a `PARTICIPANT_CHANGED`
envelope under the agent that leaves, with a bounded package of what the peers
have seen so far, and the column of the owner's agent is written after that.
-/

namespace Kin.Session

open Kin.Py Kin.Lib Kin.Schemas Kin.Storage Kin.Audit Kin.Transport

/-- The arguments of `tag_in_handoff` beyond the sender's. Without the owner's
X25519 key the envelope is ingested here and handed to nobody. -/
structure TagIn where
  replacementAgentId : String
  ownerX25519 : Option PrivateKey
  getPublicKey : Option (Json → Option PublicKey) := none

/-! ### The handoff package -/

/-- `xs[-n:]`. -/
def lastItems {α : Type} (n : Nat) (xs : List α) : List α := xs.drop (xs.length - n)

/-- `payload_data.get("content") if isinstance(payload_data, dict) else str(payload_data)`. -/
def contentOf (ext : Externals) : Json → Json
  | .obj fields => Fields.getD fields "content" .null
  | payload => .str (format ext payload)

/-- The events a handoff is made of: what the peers see, without activity and
status events. -/
def isHandedOver (entry : EventEntry) : Bool :=
  decide (entry.visibility = some .peerVisible) &&
    !decide (entry.kind = .internal .activity ∨ entry.kind = .message .statusEvent)

def transcriptItem (ext : Externals) (entry : EventEntry) : Json :=
  .obj [(.text "actor", .text entry.actorUsername), (.text "kind", .text entry.kind.value),
    (.text "content", Fields.firstTruthy (contentOf ext entry.payload) (.text ""))]

def ofKind (kind : MessageKind) (entries : List EventEntry) : List EventEntry :=
  entries.filter fun e => decide (e.kind = .message kind)

def handoffPackage (ext : Externals) (objective : Option String) (replacementAgentId : String)
    (events : List EventEntry) : Fields :=
  let shared := events.filter isHandedOver
  let questions := (ofKind .question shared).map fun e => contentOf ext e.payload
  [(.text "objective", (objective.map Json.text).getD .null),
   (.text "open_questions", .arr ((lastItems 20 questions).filter Json.truthy)),
   (.text "replacement_agent_id", .text replacementAgentId),
   (.text "verified_transcript", .arr (lastItems 50 (shared.map (transcriptItem ext)))),
   (.text "accepted_artifacts",
     .arr (lastItems 20 ((ofKind .artifactAccept shared).map (·.payload)))),
   (.text "decisions", .arr (lastItems 20 ((ofKind .approvalDecision shared).map (·.payload))))]

/-! ### The handoff -/

/-- Whether the owner's agent is in `sender_agent_id`. -/
def isSenderSide (sender : Sender) (row : SessionRow) : Bool :=
  decide (sender.username = row.initiatorUsername)

def agentColumn (senderSide : Bool) (row : SessionRow) : Option String :=
  if senderSide then row.senderAgentId else row.receiverAgentId

/-- `UPDATE sessions SET sender_agent_id = ?` or `receiver_agent_id = ?`. -/
def setAgent (senderSide : Bool) (agentId : String) (row : SessionRow) : SessionRow :=
  if senderSide then { row with senderAgentId := some agentId }
  else { row with receiverAgentId := some agentId }

@[simp] theorem setAgent_sessionId (senderSide : Bool) (agentId : String) (row : SessionRow) :
    (setAgent senderSide agentId row).sessionId = row.sessionId := by
  cases senderSide <;> rfl

/-- The signed change of a handoff that is not sent; an agent that was never
registered is a null. -/
def participantChanged (sender : Sender) (sessionId : String) (agentId : Option String)
    (contentHash : String) (sequence : Nat) (payload : Fields) : Fields :=
  withSignature sender.ext
    [(.text "schema_version", .text "1.1"), (.text "protocol_version", .text "1.1"),
     (.text "session_id", .text sessionId), (.text "sequence", .int sequence),
     (.text "actor_username", .text sender.username),
     (.text "actor_agent_id", (agentId.map Json.text).getD .null),
     (.text "timestamp", .text (isoNow sender.now)),
     (.text "kind", .text MessageKind.participantChanged.value),
     (.text "content_hash", .text contentHash), (.text "payload", .obj payload)]
    sender.identityKey

def tagInContext (sender : Sender) (args : TagIn) : IngestContext where
  ext := sender.ext
  getPublicKey :=
    args.getPublicKey.getD fun _ => some (sender.ext.publicKeyOf sender.identityKey)
  now := sender.now
  http := sender.http

/-- The envelope of a handoff: sent like any other message when the owner can
encrypt, otherwise ingested without a look at the acknowledgement. -/
def announceChange (sender : Sender) (db : Db) (sessionId : String) (agentId : Option String)
    (args : TagIn) (payload : Fields) : LocalResult :=
  match args.ownerX25519 with
  | some key =>
      sendSessionMessage { sender with x25519Key := key } db sessionId .participantChanged payload
        agentId
  | none =>
      match computeContentHash sender.ext payload with
      | none => { db, exit := .error .valueError }
      | some contentHash =>
          let result := ingestEnvelope (tagInContext sender args) db
            (participantChanged sender sessionId agentId contentHash
              (nextSequence db sessionId sender.username) payload)
          match result.exit with
          | .error e => { db := result.db, exit := .error e }
          | .ok _ => { db := result.db, exit := .ok () }

def tagInHandoff (sender : Sender) (db : Db) (sessionId : String) (args : TagIn) : LocalResult :=
  match (db.getCard args.replacementAgentId).filter (·.enabled) with
  | none => { db, exit := .error .orchestratorError }
  | some _ =>
  match db.session? sessionId with
  | none => { db, exit := .error .orchestratorError }
  | some row =>
  let state := stateOf sender.ext row (db.eventsOf sessionId)
  let senderSide := isSenderSide sender row
  let current := agentColumn senderSide row
  if current = some args.replacementAgentId then { db, exit := .error .orchestratorError }
  else
  let announced := announceChange sender db sessionId current args
    (handoffPackage sender.ext row.objective args.replacementAgentId state.events)
  match announced.exit with
  | .error _ => announced
  | .ok () =>
      { announced with
        db := announced.db.updateSession sessionId (setAgent senderSide args.replacementAgentId) }

end Kin.Session
