import Kin.Lib.Rows
import Kin.Lib.Run
import Kin.Py.Unquote
import Kin.Py.Value
import Mathlib.Data.List.Nodup
import Mathlib.Logic.Function.Basic

/-!
The tasks of the first protocol: `process_create_task` and `process_send_message` of
`kin/node/routes.py`, over the V1 tables. A handler runs without interruption from one
`await` to the next. It waits for the model, and in `auto_relay_information_response`
for the peer and, if the peer is not reached, for the relay.
-/

namespace Kin.Tasks

open Kin.Py Kin.Lib

/-! ### The tables -/

structure Contact where
  username : String
  publicKey : Option String
  fingerprintVerified : Bool
  autonomyLevel : Option String
  endpoint : Option String
  x25519PublicKey : Option String

structure TaskRow where
  taskId : String
  contactUsername : String
  goal : String
  context : Fields
  status : Option String
  resultJson : Option Json
  draftContent : Option String
  draftMessageType : Option String
  agentName : Option String
  peerAgentName : Option String
  peerTaskId : Option String
  originRefId : Option String

structure MessageRow where
  taskId : String
  fromUsername : String
  content : String
  messageType : Option String
  signature : String

/-- `tasks` with its primary key. -/
structure TaskTable where
  rows : List TaskRow
  primaryKey : (rows.map TaskRow.taskId).Nodup

namespace TaskTable

def get? (table : TaskTable) (taskId : String) : Option TaskRow :=
  Rows.lookup TaskRow.taskId table.rows taskId

/-- `INSERT INTO tasks`; `none` is the driver's `IntegrityError`. -/
def insert? (table : TaskTable) (row : TaskRow) : Option TaskTable :=
  if h : row.taskId ∉ table.rows.map TaskRow.taskId then
    some
      { rows := table.rows ++ [row]
        primaryKey := by
          rw [List.map_append, List.map_singleton]
          exact List.nodup_append.mpr ⟨table.primaryKey, List.nodup_singleton _,
            fun a ha b hb hab => h (by rw [← List.mem_singleton.mp hb, ← hab]; exact ha)⟩ }
  else none

/-- `UPDATE tasks SET ... WHERE task_id = ?`. -/
def update (table : TaskTable) (taskId : String) (f : TaskRow → TaskRow)
    (hf : ∀ row, (f row).taskId = row.taskId) : TaskTable where
  rows := Rows.modify TaskRow.taskId table.rows taskId f
  primaryKey := by
    have hkeys : (Rows.modify TaskRow.taskId table.rows taskId f).map TaskRow.taskId =
        table.rows.map TaskRow.taskId := by
      rw [Rows.modify, List.map_map]
      apply List.map_congr_left
      intro row _
      simp only [Function.comp]
      split
      · exact hf row
      · rfl
    rw [hkeys]
    exact table.primaryKey

end TaskTable

structure Tables where
  /-- `SELECT username FROM identity LIMIT 1`. -/
  identity : Option String
  contacts : List Contact
  tasks : TaskTable
  messages : List MessageRow

/-! ### What the handlers get from outside -/

inductive MessageType
  | proposal
  | counterProposal
  | question
  | answer
  | confirmation
  | finalizeProposal
  | finalizeAccept
  deriving DecidableEq, Repr

def MessageType.value : MessageType → String
  | .proposal => "proposal"
  | .counterProposal => "counter_proposal"
  | .question => "question"
  | .answer => "answer"
  | .confirmation => "confirmation"
  | .finalizeProposal => "finalize_proposal"
  | .finalizeAccept => "finalize_accept"

/-- An `AgentBackendResponse`, which never finalizes. -/
structure AgentReply where
  reply : String
  messageType : MessageType
  drafts : messageType ≠ .finalizeProposal ∧ messageType ≠ .finalizeAccept

/-- An exception inside the `try` of a handler, as its result records it. -/
structure Failure where
  error : String
  detail : String

/-- `SecretNotFoundError`, `JSONDecodeError`, `ValidationError` or `OpenAIError`. -/
def Failure.backend (detail : String) : Failure := ⟨"backend error", detail⟩

def Failure.unhandled (name detail : String) : Failure := ⟨"unhandled exception: " ++ name, detail⟩

def Failure.resultJson (failure : Failure) : Json :=
  .obj [(.text "error", .text failure.error), (.text "detail", .text failure.detail)]

structure Profile where
  /-- `verify_signature` of a key, a message and a signature. -/
  verifySignature : List UInt8 → List UInt8 → List UInt8 → Bool
  /-- SQLite: text of a real number. -/
  realText : PyFloat → String
  /-- The payload of an answer, from the own name, the origin of the task and the content,
  signed with `load_private_key`; `none` when that raises. -/
  signAnswer : String → Option String → String → Option String
  /-- The failure that binding a status to the `UPDATE` raises. -/
  bindFailure : PyExc → Failure
  /-- The order in which a query with `OR` comes across the rows. -/
  order : List TaskRow → List TaskRow := id
  order_perm : ∀ rows, (order rows).Perm rows := by exact fun rows => List.Perm.refl rows

inductive Exit
  | response (code : Nat) (status : Option String)
  | raised
  deriving DecidableEq

/-! ### Handlers -/

/-- Who decides whether an answer may be relayed: the contact as it was read when the task
was created, or the contact of the task as it will be when the model has answered. -/
inductive Policy
  | read (contact : Contact)
  | ofContact (username : String)

structure Handling where
  taskId : String
  /-- The incoming message is a question. -/
  question : Bool
  policy : Policy

inductive Phase
  | idle
  /-- `await backend.generate_response_async(...)`. -/
  | model (handling : Handling)
  /-- The answer is on its way to the peer. -/
  | direct (handling : Handling) (x25519PublicKey : Option String) (content signature : String)
  /-- The answer is on its way to the relay. -/
  | relay (handling : Handling) (content signature : String)
  | ended (exit : Exit)

/-- What a handler leaves at an `await` or at its end. -/
structure Pause where
  tables : Tables
  phase : Phase

structure CreateTask where
  goal : String
  context : Fields
  requesterUsername : String
  rawBody : List UInt8
  xSignature : Json
  localRefId : Json
  /-- The new uuid. -/
  taskId : String
  /-- The agent that the roster selects. -/
  agentName : Option String
  /-- The backend and its request can be built. -/
  backendReady : Bool

structure SendMessage where
  taskId : Json
  fromUsername : String
  content : String
  messageType : MessageType
  originRefId : Option String
  rawBody : List UInt8
  xSignature : Json
  backendReady : Bool

/-- `bytes.fromhex(x_signature)` after `if not x_signature`: the response or exception that
ends the handler, or the signature. -/
def readSignature (xSignature : Json) : Except Exit (String × List UInt8) :=
  if !xSignature.truthy then .error (.response 401 none)
  else
    match xSignature with
    | .str (.text hex) =>
        match fromHex hex with
        | some bytes => .ok (hex, bytes)
        | none => .error (.response 401 none)
    | .str (.lone _) => .error (.response 401 none)
    | _ => .error .raised

def maxTaskMessages : Nat := 10

section

variable (profile : Profile) (t : Tables)

def Tables.contact? (username : String) : Option Contact :=
  Rows.lookup Contact.username t.contacts username

def authenticate (username : String) (rawBody signature : List UInt8) : Except Exit Contact :=
  match t.contact? username with
  | none => .error (.response 403 none)
  | some contact =>
      if !contact.fingerprintVerified then .error (.response 403 none)
      else
        match contact.publicKey.bind fromHex with
        | none => .error .raised
        | some key =>
            if profile.verifySignature key rawBody signature then .ok contact
            else .error (.response 401 none)

def Tables.setTasks (tasks : TaskTable) : Tables := { t with tasks }

def Tables.addMessage (message : MessageRow) : Tables :=
  { t with messages := t.messages ++ [message] }

/-- `UPDATE tasks` to another status, with the draft columns and the result. -/
def Tables.updateTask (taskId : String) (f : TaskRow → TaskRow)
    (hf : ∀ row, (f row).taskId = row.taskId := by intro row; rfl) : Tables :=
  t.setTasks (t.tasks.update taskId f hf)

/-- The `except` branches: the task has failed. -/
def fail (handling : Handling) (failure : Failure) : Pause where
  tables := t.updateTask handling.taskId fun row =>
    { row with status := some "failed", resultJson := some failure.resultJson }
  phase := .ended (.response 200 (some "failed"))

/-- `process_create_task` up to the model. -/
def processCreateTask (args : CreateTask) : Pause :=
  match readSignature args.xSignature with
  | .error exit => ⟨t, .ended exit⟩
  | .ok (signature, bytes) =>
  match authenticate profile t args.requesterUsername args.rawBody bytes with
  | .error exit => ⟨t, .ended exit⟩
  | .ok contact =>
  let peerAgentName := args.context.getD "peer_agent_name" .null
  let initMsgType := args.context.getD "message_type" (.text "question")
  match bindSql peerAgentName, bindSql args.localRefId, bindSql initMsgType with
  | .ok peerAgentName, .ok localRefId, .ok boundType =>
      match t.tasks.insert?
          { taskId := args.taskId, contactUsername := args.requesterUsername, goal := args.goal
            context := args.context, status := some "submitted", resultJson := none
            draftContent := none, draftMessageType := none, agentName := args.agentName
            peerAgentName := sqlText profile.realText peerAgentName, peerTaskId := none
            originRefId := sqlText profile.realText localRefId } with
      | none => ⟨t, .ended .raised⟩
      | some tasks =>
          let t := (t.setTasks tasks).addMessage
            ⟨args.taskId, args.requesterUsername, args.goal, sqlText profile.realText boundType,
              signature⟩
          if args.backendReady then
            ⟨t, .model ⟨args.taskId, decide (asText initMsgType = some "question"), .read contact⟩⟩
          else ⟨t, .ended .raised⟩
  | _, _, _ => ⟨t, .ended .raised⟩

/-- `SELECT ... WHERE task_id = ? OR peer_task_id = ?`. -/
def Tables.taskOrPeer? (taskId : Option String) : Option TaskRow :=
  (profile.order t.tasks.rows).find? fun row =>
    decide (some row.taskId = taskId) || (row.peerTaskId.isSome && decide (row.peerTaskId = taskId))

/-- The row a message is about. A message that names a task queued here has the peer's id
recorded with it. -/
def findTask (taskId : Option String) (originRefId : Option String) : Tables × Option TaskRow :=
  match t.taskOrPeer? profile taskId with
  | some row => (t, some row)
  | none =>
      match (originRefId.filter (· ≠ "")).bind t.tasks.get? with
      | none => (t, none)
      | some row => (t.updateTask row.taskId fun r => { r with peerTaskId := taskId }, some row)

/-- `task_status in ("completed", "failed")`. -/
def isClosed (status : Option String) : Bool :=
  decide (status = some "completed") || decide (status = some "failed")

/-- `process_send_message` from the count of messages to the model. -/
def receiveMessage (row : TaskRow) (args : SendMessage) (signature : String) : Pause :=
  let count := (t.messages.filter fun m => m.taskId == row.taskId).length
  if maxTaskMessages ≤ count then
    ⟨t.updateTask row.taskId fun r =>
        { r with
          status := some "failed"
          resultJson := some (.obj [(.text "reason", .text "round_limit_reached"),
            (.text "round_count", .int count)]) },
      .ended (.response 200 (some "failed"))⟩
  else
    let t := t.addMessage
      ⟨row.taskId, args.fromUsername, args.content, some args.messageType.value, signature⟩
    match args.messageType with
    | .finalizeAccept =>
        ⟨t.updateTask row.taskId fun r =>
            { r with
              status := some "completed", draftContent := none, draftMessageType := none
              resultJson := some (.obj [(.text "outcome", .text args.content),
                (.text "finalized_by", .text args.fromUsername)]) },
          .ended (.response 200 (some "completed"))⟩
    | .finalizeProposal =>
        ⟨t.updateTask row.taskId fun r =>
            { r with
              status := some "input-required", draftContent := some args.content
              draftMessageType := some "finalize_proposal" },
          .ended (.response 200 (some "input-required"))⟩
    | messageType =>
        let t := t.updateTask row.taskId fun r => { r with status := some "working" }
        if args.backendReady then
          ⟨t, .model ⟨row.taskId, decide (messageType = .question), .ofContact row.contactUsername⟩⟩
        else ⟨t, .ended .raised⟩

/-- `process_send_message` up to the model. -/
def processSendMessage (args : SendMessage) : Pause :=
  match bindSql args.taskId with
  | .error _ => ⟨t, .ended .raised⟩
  | .ok taskId =>
  match findTask profile t (sqlText profile.realText taskId) args.originRefId with
  | (t, none) => ⟨t, .ended (.response 404 none)⟩
  | (t, some row) =>
      if isClosed row.status then ⟨t, .ended (.response 409 none)⟩
      else
        match readSignature args.xSignature with
        | .error exit => ⟨t, .ended exit⟩
        | .ok (signature, bytes) =>
            match authenticate profile t args.fromUsername args.rawBody bytes with
            | .error exit => ⟨t, .ended exit⟩
            | .ok _ => receiveMessage t row args signature

/-! ### After the model -/

def Policy.contact? : Policy → Option Contact
  | .read contact => some contact
  | .ofContact username => t.contact? username

/-- `auto_relay_information_response` up to the network; without an endpoint the request
is not built. -/
def autoRelay (handling : Handling) (contact : Contact) (content : String) : Pause :=
  match t.identity, t.tasks.get? handling.taskId with
  | some ownUsername, some row =>
      match profile.signAnswer ownUsername row.originRefId content with
      | none => ⟨t, .ended (.response 200 (some "input-required"))⟩
      | some signature =>
          match contact.endpoint with
          | some _ => ⟨t, .direct handling contact.x25519PublicKey content signature⟩
          | none =>
              fail t handling
                (.unhandled "AttributeError" "'NoneType' object has no attribute 'rstrip'")
  | _, _ => ⟨t, .ended (.response 200 (some "input-required"))⟩

def modelAnswered (handling : Handling) : Except Failure AgentReply → Pause
  | .error failure => fail t handling failure
  | .ok answer =>
      let t := t.updateTask handling.taskId fun row =>
        { row with
          status := some "input-required", draftContent := some answer.reply
          draftMessageType := some answer.messageType.value }
      match handling.policy.contact? t with
      | some contact =>
          if handling.question && decide (answer.messageType = .answer) &&
              decide (contact.autonomyLevel = some "auto_relay_info") then
            autoRelay profile t handling contact answer.reply
          else ⟨t, .ended (.response 200 (some "input-required"))⟩
      | none => ⟨t, .ended (.response 200 (some "input-required"))⟩

/-- `auto_relay_information_response` after the network: the answer is a message of the
task, and the task gets the status that the peer reported. -/
def answerRelayed (handling : Handling) (content signature : String) (status : Json) : Pause :=
  let t := t.addMessage
    ⟨handling.taskId, t.identity.getD "", content, some "answer", signature⟩
  match bindSql status with
  | .error err => fail t handling (profile.bindFailure err)
  | .ok status =>
      let status := sqlText profile.realText status
      ⟨t.updateTask handling.taskId fun row =>
          { row with status, draftContent := none, draftMessageType := none },
        .ended (.response 200 status)⟩

/-- What comes of a call whose expected exceptions are caught. -/
inductive Attempt
  | done
  | refused
  | raised (failure : Failure)

inductive Delivery
  /-- `response.json()["status"]`. -/
  | status (value : Json)
  /-- `KeyError`, `ValueError` or `HTTPError`. -/
  | refused
  /-- `RequestError`, and the encryption for the relay. -/
  | unreachable (encryption : Attempt)
  | raised (failure : Failure)

def delivered (handling : Handling) (x25519PublicKey : Option String) (content signature : String) :
    Delivery → Pause
  | .status value => answerRelayed profile t handling content signature value
  | .refused => ⟨t, .ended (.response 200 (some "input-required"))⟩
  | .unreachable encryption =>
      if (x25519PublicKey.filter (· ≠ "")).isNone then
        ⟨t, .ended (.response 200 (some "input-required"))⟩
      else
        match encryption with
        | .done => ⟨t, .relay handling content signature⟩
        | .refused => ⟨t, .ended (.response 200 (some "input-required"))⟩
        | .raised failure => fail t handling failure
  | .raised failure => fail t handling failure

def queued (handling : Handling) (content signature : String) : Attempt → Pause
  | .done => answerRelayed profile t handling content signature (.text "queued-relay")
  | .refused => ⟨t, .ended (.response 200 (some "input-required"))⟩
  | .raised failure => fail t handling failure

end

/-! ### Handlers side by side -/

structure State where
  tables : Tables
  handlers : Nat → Phase

def State.start (tables : Tables) : State := { tables, handlers := fun _ => .idle }

inductive Event
  | create (handler : Nat) (args : CreateTask)
  | send (handler : Nat) (args : SendMessage)
  | answered (handler : Nat) (answer : Except Failure AgentReply)
  | delivered (handler : Nat) (delivery : Delivery)
  | queued (handler : Nat) (attempt : Attempt)

def State.pause (s : State) (handler : Nat) (pause : Pause) : State where
  tables := pause.tables
  handlers := Function.update s.handlers handler pause.phase

/-- A handler goes on from where it is to its next `await`; an event that is not the next
of its handler does nothing. -/
def step (profile : Profile) (s : State) : Event → State
  | .create handler args =>
      match s.handlers handler with
      | .idle => s.pause handler (processCreateTask profile s.tables args)
      | _ => s
  | .send handler args =>
      match s.handlers handler with
      | .idle => s.pause handler (processSendMessage profile s.tables args)
      | _ => s
  | .answered handler answer =>
      match s.handlers handler with
      | .model handling => s.pause handler (modelAnswered profile s.tables handling answer)
      | _ => s
  | .delivered handler delivery =>
      match s.handlers handler with
      | .direct handling x25519PublicKey content signature =>
          s.pause handler
            (delivered profile s.tables handling x25519PublicKey content signature delivery)
      | _ => s
  | .queued handler attempt =>
      match s.handlers handler with
      | .relay handling content signature =>
          s.pause handler (queued profile s.tables handling content signature attempt)
      | _ => s

end Kin.Tasks
