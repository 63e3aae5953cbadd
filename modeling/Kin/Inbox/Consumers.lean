import Kin.Lib.Run
import Kin.Py.Unquote
import Kin.Relay.Routes
import Kin.Transport.Ingest

/-!
The two readers of a node's relay mailbox: the `fetch` command of `kin/cli.py`, for
the envelopes of the first protocol, and `poll_relay_and_process` of
`kin/transport/v11.py`, for session envelopes. Any number of runs of either goes on
at the same time, one message or one request to the relay at a step, while messages
arrive and the rest of the node works on its database.
-/

namespace Kin.Inbox

open Kin.Py Kin.Lib Kin.Schemas Kin.Storage Kin.Transport
open Kin.Relay (InboxMessage)

/-- What the owner of the mailbox reads it with: the X25519 key of the profile, and
`json.loads(data.decode("utf-8"))`, `none` when either raises. -/
structure Reader where
  ext : Schemas.Externals
  privateKey : PrivateKey
  loads : Bytes → Option Json

/-- The content of a message under a sender's key; `none` when a step raises. -/
def Reader.open? (reader : Reader) (senderKey : PublicKey) (m : InboxMessage) : Option Json := do
  let ciphertext ← fromHex m.encryptedBlob
  let plaintext ← reader.ext.decryptFromSender reader.privateKey senderKey ciphertext
  reader.loads plaintext

/-! ### One message of `fetch` -/

/-- How `process_create_task` or `process_send_message` ends, the building of its request
included: a status code or an exception. -/
inductive Outcome
  | status (code : Nat)
  | raised
  deriving DecidableEq

/-- What an iteration of the loop comes to. After `accepted` and `skipped` the message is
marked as processed, after `left` it is not, and `raised` ends the command. -/
inductive Verdict
  | accepted
  | skipped
  | left
  | raised
  deriving DecidableEq

def Verdict.marks : Verdict → Bool
  | .accepted => true
  | .skipped => true
  | .left => false
  | .raised => false

def Outcome.verdict : Outcome → Verdict
  | .status code => if code = 200 then .accepted else .left
  | .raised => .left

/-- `json.loads(bytes.fromhex(env_payload_hex).decode("utf-8"))`. -/
def Reader.payload? (reader : Reader) : Json → Option Json
  | .text hex => (fromHex hex).bind reader.loads
  | _ => none

def Reader.dispatch (reader : Reader) (outcome : Outcome) (envelope : Fields) : Verdict :=
  let envType := envelope.getD "type" .null
  let envSig := envelope.getD "signature" .null
  let envPayloadHex := envelope.getD "payload_bytes" .null
  if !envType.truthy || !envSig.truthy || !envPayloadHex.truthy then .skipped
  else if (reader.payload? envPayloadHex).isNone then .skipped
  else if asText envType = some "create_task" then outcome.verdict
  else if asText envType = some "send_message" then
    if !(envelope.getD "task_id" .null).truthy then .left else outcome.verdict
  else .skipped

/-- The body of the loop, for a message that is not marked yet. A contact's key that is not
hexadecimal, and an envelope that is no dictionary, raise outside every `try`. -/
def Reader.fetchMessage (reader : Reader) (contacts : List ContactRow) (outcome : Outcome)
    (m : InboxMessage) : Verdict :=
  match Rows.lookup ContactRow.username contacts m.senderUsername with
  | none => .skipped
  | some contact =>
      if !contact.fingerprintVerified then .skipped
      else
        match Db.given contact.x25519PublicKey with
        | none => .skipped
        | some key =>
            if (fromHex key).isNone then .raised
            else
              match reader.open? key m with
              | none => .skipped
              | some (.obj envelope) => reader.dispatch outcome envelope
              | some _ => .raised

/-! ### One message of `poll_relay_and_process` -/

def relayPollError (db : Db) (m : InboxMessage) (error : String) : Db :=
  db.writeAuditEvent "relay_poll_error"
    ("Failed to process relay message " ++ toString m.messageId ++ ": " ++ error) none

/-- The body of the loop up to the acknowledgement: the database, and whether the
envelope was accepted. `error` is the text of the exception, if one is raised. -/
def Reader.pollMessage (reader : Reader) (ctx : IngestContext) (db : Db) (error : String)
    (m : InboxMessage) : Db × Bool :=
  if (fromHex m.encryptedBlob).isNone then (relayPollError db m error, false)
  else
    match (db.resolvePeerContactInfo m.senderUsername).2.1 with
    | none => (db, false)
    | some key =>
        match reader.open? key m with
        | some (.obj raw) =>
            match (ingestEnvelope ctx db raw).exit with
            | .ok ack => ((ingestEnvelope ctx db raw).db, ack.status != .rejected)
            | .error _ => (relayPollError (ingestEnvelope ctx db raw).db m error, false)
        | _ => (relayPollError db m error, false)

/-! ### The node and its mailbox -/

/-- A run of `fetch`: what the relay returned, and what of it the loop has before it. -/
structure FetchRun where
  received : List InboxMessage
  rest : List InboxMessage

/-- A run of `poll_relay_and_process`: what the loop has before it, and the id that it is
about to acknowledge. -/
structure PollRun where
  rest : List InboxMessage
  pending : Option Nat

structure State where
  db : Db
  /-- `processed_relay_messages`. -/
  processed : List Nat
  /-- The mailbox at the relay. -/
  mailbox : List InboxMessage
  fetches : List FetchRun
  polls : List PollRun
  /-- Every message that was ever put into the mailbox. -/
  delivered : List InboxMessage
  /-- The messages that `process_create_task` or `process_send_message` accepted. -/
  accepted : List Nat
  /-- The messages that `ingest_envelope` accepted. -/
  ingested : List Nat
  /-- The messages that were acknowledged to the relay. -/
  acknowledged : List Nat

def State.initial (db : Db) : State where
  db
  processed := []
  mailbox := []
  fetches := []
  polls := []
  delivered := []
  accepted := []
  ingested := []
  acknowledged := []

def markRelayMessageProcessed (processed : List Nat) (messageId : Nat) : List Nat :=
  if messageId ∈ processed then processed else processed ++ [messageId]

/-- The ids that a run of `fetch` acknowledges: all marked ones among those it received. -/
def FetchRun.acknowledgement (run : FetchRun) (processed : List Nat) : List Nat :=
  processed.filter fun messageId => decide (messageId ∈ run.received.map InboxMessage.messageId)

def State.acknowledge (s : State) (messageIds : List Nat) : State :=
  { s with
    mailbox := s.mailbox.filter fun m => !decide (m.messageId ∈ messageIds)
    acknowledged := s.acknowledged ++ messageIds }

inductive Action
  /-- A message arrives at the relay. -/
  | deliver (senderUsername encryptedBlob : String)
  /-- A message expires at the relay. -/
  | expire (messageId : Nat)
  /-- The rest of the node changes the database, contacts apart. -/
  | elsewhere (db : Db)
  /-- `fetch` reads the mailbox. -/
  | fetchStart
  /-- `fetch` takes up its next message. -/
  | fetchMessage (run : Nat) (outcome : Outcome)
  /-- `fetch` sends its acknowledgement, which may get lost. -/
  | fetchAcknowledge (run : Nat) (arrives : Bool)
  /-- `poll_relay_and_process` reads the mailbox. -/
  | pollStart
  /-- `poll_relay_and_process` takes up its next message. -/
  | pollMessage (run : Nat) (ctx : IngestContext) (error : String)
  /-- `poll_relay_and_process` sends an acknowledgement, which may get lost. -/
  | pollAcknowledge (run : Nat) (arrives : Bool)

/-- The next message of a run of `fetch`, when it is not marked already. -/
def State.nextFetch? (s : State) (run : Nat) : Option InboxMessage :=
  (s.fetches[run]?.bind fun r => r.rest.head?).filter fun m => !decide (m.messageId ∈ s.processed)

section

variable (reader : Reader) (s : State)

/-- One iteration of the loop of `fetch`. A message that is marked already is passed over. -/
def fetchStep (index : Nat) (outcome : Outcome) (run : FetchRun) : State :=
  match run.rest with
  | [] => s
  | m :: rest =>
      if m.messageId ∈ s.processed then
        { s with fetches := s.fetches.set index { run with rest } }
      else
        let verdict := reader.fetchMessage s.db.contacts outcome m
        { s with
          fetches :=
            if verdict = .raised then s.fetches.eraseIdx index
            else s.fetches.set index { run with rest }
          processed :=
            if verdict.marks then markRelayMessageProcessed s.processed m.messageId
            else s.processed
          accepted :=
            if verdict = .accepted then s.accepted ++ [m.messageId] else s.accepted }

/-- The end of `fetch`, after its loop. -/
def fetchEnd (index : Nat) (arrives : Bool) (run : FetchRun) : State :=
  if run.rest = [] then
    let ended := { s with fetches := s.fetches.eraseIdx index }
    if arrives then ended.acknowledge (run.acknowledgement s.processed) else ended
  else s

/-- One iteration of the loop of `poll_relay_and_process`, up to the acknowledgement. -/
def pollStep (index : Nat) (ctx : IngestContext) (error : String) (run : PollRun) : State :=
  match run.pending, run.rest with
  | none, m :: rest =>
      let (db, accepted) := reader.pollMessage ctx s.db error m
      { s with
        db
        polls := s.polls.set index ⟨rest, if accepted then some m.messageId else none⟩
        ingested := if accepted then s.ingested ++ [m.messageId] else s.ingested }
  | _, _ => s

/-- The acknowledgement of one message by `poll_relay_and_process`. -/
def pollEnd (index : Nat) (arrives : Bool) (run : PollRun) : State :=
  match run.pending with
  | some messageId =>
      let next := { s with polls := s.polls.set index { run with pending := none } }
      if arrives then next.acknowledge [messageId] else next
  | none => s

def step : Action → State
  | .deliver senderUsername encryptedBlob =>
      let m : InboxMessage := ⟨s.delivered.length + 1, senderUsername, encryptedBlob⟩
      { s with mailbox := s.mailbox ++ [m], delivered := s.delivered ++ [m] }
  | .expire messageId =>
      { s with mailbox := s.mailbox.filter fun m => !decide (m.messageId = messageId) }
  | .elsewhere db => { s with db := { db with contacts := s.db.contacts } }
  | .fetchStart => { s with fetches := s.fetches ++ [⟨s.mailbox, s.mailbox⟩] }
  | .fetchMessage run outcome =>
      match s.fetches[run]? with
      | some r => fetchStep reader s run outcome r
      | none => s
  | .fetchAcknowledge run arrives =>
      match s.fetches[run]? with
      | some r => fetchEnd s run arrives r
      | none => s
  | .pollStart => { s with polls := s.polls ++ [⟨s.mailbox, none⟩] }
  | .pollMessage run ctx error =>
      match s.polls[run]? with
      | some r => pollStep reader s run ctx error r
      | none => s
  | .pollAcknowledge run arrives =>
      match s.polls[run]? with
      | some r => pollEnd s run arrives r
      | none => s

end

end Kin.Inbox
