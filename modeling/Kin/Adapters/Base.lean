import Kin.Lib.Regex
import Kin.Policy.Evaluator
import Kin.Session.History

/-!
The answers of an adapter and their screening, `validate_adapter_output` of
`kin/adapters/base.py`. Keys are looked for in the whole answer, secrets only in the
message and in the labels of its activities.
-/

namespace Kin.Adapters

open Kin.Py Kin.Lib Kin.Policy Kin.Schemas

/-! ### Python values -/

/-- A key of a dictionary: a text, or something that has no `lower`. -/
inductive DictKey
  | text (s : String)
  | other

/-- What a dictionary with arbitrary values can hold. An adapter in the same process may
answer tuples and bytes; JSON has neither. -/
inductive PyObj
  | null
  | bool (b : Bool)
  | int (n : Int)
  | float (x : PyFloat)
  | bytes (data : List UInt8)
  | str (s : String)
  | list (items : List PyObj)
  | tuple (items : List PyObj)
  | dict (fields : List (DictKey × PyObj))

def record (fields : List (String × PyObj)) : PyObj :=
  .dict (fields.map fun field => (.text field.1, field.2))

/-! ### Models -/

structure ApprovalRequest where
  schemaVersion : String := "1.1"
  approvalId : String
  sessionId : String
  agentId : String
  actionClass : ActionClass
  summary : String
  reason : String
  riskLabel : RiskLabel
  requestedScope : List (DictKey × PyObj)
  expiresAt : String

inductive AdapterEvent
  | activity (label : String)
  | approval (request : ApprovalRequest)
  | error (code message : String)

inductive PathOrBytes
  | text (path : String)
  | bytes (data : List UInt8)

structure AdapterArtifactItem where
  pathOrBytes : PathOrBytes
  mimeType : String

structure AdapterMessage where
  kind : MessageKind
  content : String

structure AdapterErrorInfo where
  code : String
  message : String

structure AdapterResponse where
  schemaVersion : String := "1.1"
  protocolVersion : String := "1.1"
  events : List AdapterEvent := []
  message : Option AdapterMessage := none
  artifacts : List AdapterArtifactItem := []
  terminal : Bool := false
  error : Option AdapterErrorInfo := none

inductive AdapterType
  | embedded | webhook | localCommand | sdk
  deriving DecidableEq

def AdapterType.value : AdapterType → String
  | .embedded => "embedded"
  | .webhook => "webhook"
  | .localCommand => "local_command"
  | .sdk => "sdk"

structure AgentCard where
  id : String
  adapterType : AdapterType

structure AdapterCapabilityDeclaration where
  adapterType : String
  allowedActionClasses : List ActionClass
  allowedEventKinds : List String

/-- `CAPABILITY_DECLARATIONS`; every type of adapter has one. -/
def capabilityDeclarations : AdapterType → AdapterCapabilityDeclaration
  | .localCommand =>
      { adapterType := "local_command"
        allowedActionClasses := [.informationalRelay, .sessionParticipation, .artifactReceipt,
          .workspaceRead, .workspaceWrite, .shellNetworkExternal]
        allowedEventKinds := ["activity", "approval_request", "error"] }
  | adapterType =>
      { adapterType := adapterType.value
        allowedActionClasses := [.informationalRelay, .sessionParticipation, .artifactReceipt]
        allowedEventKinds := ["activity", "approval_request", "error"] }

def AdapterEvent.eventKind : AdapterEvent → String
  | .activity _ => "activity"
  | .approval _ => "approval_request"
  | .error _ _ => "error"

/-! ### The dump -/

def RiskLabel.value : RiskLabel → String
  | .low => "low"
  | .medium => "medium"
  | .high => "high"
  | .critical => "critical"

def ApprovalRequest.dump (request : ApprovalRequest) : PyObj :=
  record
    [("schema_version", .str request.schemaVersion), ("approval_id", .str request.approvalId),
      ("session_id", .str request.sessionId), ("agent_id", .str request.agentId),
      ("action_class", .str request.actionClass.value), ("summary", .str request.summary),
      ("reason", .str request.reason), ("risk_label", .str (RiskLabel.value request.riskLabel)),
      ("requested_scope", .dict request.requestedScope), ("expires_at", .str request.expiresAt)]

def AdapterEvent.dump : AdapterEvent → PyObj
  | .activity label => record [("event_kind", .str "activity"), ("label", .str label)]
  | .approval request =>
      record [("event_kind", .str "approval_request"), ("approval_request", request.dump)]
  | .error code message =>
      record [("event_kind", .str "error"), ("code", .str code), ("message", .str message)]

def PathOrBytes.dump : PathOrBytes → PyObj
  | .text path => .str path
  | .bytes data => .bytes data

def AdapterArtifactItem.dump (item : AdapterArtifactItem) : PyObj :=
  record [("path_or_bytes", item.pathOrBytes.dump), ("mime_type", .str item.mimeType)]

def AdapterMessage.dump (message : AdapterMessage) : PyObj :=
  record [("kind", .str message.kind.value), ("content", .str message.content)]

def AdapterErrorInfo.dump (error : AdapterErrorInfo) : PyObj :=
  record [("code", .str error.code), ("message", .str error.message)]

/-- `response.model_dump(mode="python")`. -/
def AdapterResponse.dump (response : AdapterResponse) : PyObj :=
  record
    [("schema_version", .str response.schemaVersion),
      ("protocol_version", .str response.protocolVersion),
      ("events", .list (response.events.map AdapterEvent.dump)),
      ("message", (response.message.map AdapterMessage.dump).getD .null),
      ("artifacts", .list (response.artifacts.map AdapterArtifactItem.dump)),
      ("terminal", .bool response.terminal),
      ("error", (response.error.map AdapterErrorInfo.dump).getD .null)]

/-! ### Patterns -/

/-- `str.lower` as far as an ASCII text can tell: beside the ASCII capitals only the Kelvin
sign has an ASCII letter as its lower case. -/
def lower (s : String) : String :=
  s.map fun c => if c = '\u212a' then 'k' else c.toLower

def forbiddenReasoningKeys : List String :=
  ["reasoning", "thinking", "chain_of_thought", "scratchpad", "internal_notes"]

/-- The ASCII character that a pattern which ignores case takes a character for. -/
def foldCase (c : Char) : Char :=
  if c = '\u212a' then 'k'
  else if c = '\u017f' then 's'
  else if c = '\u0130' ∨ c = '\u0131' then 'i'
  else c.toLower

def word (text : String) : Regex Char := .literal (fun a c => a == foldCase c) text.toList

/-- `\s`. -/
def isSpace (c : Char) : Bool := Session.isSpaceCode c.toNat

/-- `[a-zA-Z0-9]`, ignoring case. -/
def isAlnum (c : Char) : Bool := ('a' ≤ foldCase c && foldCase c ≤ 'z') || c.isDigit

/-- `[_-]`. -/
def isBar (c : Char) : Bool := c == '_' || c == '-'

def secretPatternRegex : Regex Char :=
  .firstOf (.row [word "api", .opt isBar, word "key"])
    [.row [word "secret", .opt isBar, word "key"],
      .row [word "access", .opt isBar, word "token"],
      .row [word "bearer", .some isSpace, .atLeast 20 fun c => isAlnum c || isBar c || c == '.'],
      .row [word "sk", .one isBar, word "live", .one isBar, .atLeast 24 isAlnum],
      .row [word "ghp_", .times 36 isAlnum]]

/-! ### The screening -/

mutual

/-- `_check_keys`: the message about the first forbidden key. -/
def checkKeys : PyObj → Except PyExc (Option String)
  | .dict fields => checkFields fields
  | .list items => checkItems items
  | _ => .ok none

def checkFields : List (DictKey × PyObj) → Except PyExc (Option String)
  | [] => .ok none
  | (.other, _) :: _ => .error .attributeError
  | (.text key, value) :: fields =>
      if lower key ∈ forbiddenReasoningKeys then
        .ok (some ("Response contains forbidden scratchpad/chain-of-thought key '" ++ key ++ "'."))
      else
        match checkKeys value with
        | .ok none => checkFields fields
        | result => result

def checkItems : List PyObj → Except PyExc (Option String)
  | [] => .ok none
  | item :: items =>
      match checkKeys item with
      | .ok none => checkItems items
      | result => result

end

/-- A rejection: its reason, and the payload of the audit event that is written about it. -/
structure Rejection where
  reason : String
  payload : List (String × String)
  deriving DecidableEq

def checkEvent (caps : AdapterCapabilityDeclaration) (adapterType : String)
    (event : AdapterEvent) : Option Rejection :=
  if event.eventKind ∉ caps.allowedEventKinds then
    some {
      reason := "Adapter '" ++ adapterType ++ "' emitted disallowed event kind '" ++
        event.eventKind ++ "'."
      payload := [("adapter_type", adapterType), ("disallowed_event", event.eventKind)] }
  else
    match event with
    | .approval request =>
        if request.actionClass ∉ caps.allowedActionClasses then
          some {
            reason := "Adapter '" ++ adapterType ++
              "' emitted approval request for disallowed action class '" ++
              request.actionClass.value ++ "'."
            payload := [("adapter_type", adapterType),
              ("disallowed_action_class", request.actionClass.value)] }
        else none
    | _ => none

def AdapterResponse.textContent (response : AdapterResponse) : String :=
  response.events.foldl
    (fun text event =>
      match event with
      | .activity label => text ++ (" " ++ label)
      | _ => text)
    ((response.message.map AdapterMessage.content).getD "")

/-- `MessageKind.CANCEL, MessageKind.APPROVAL_DECISION`. -/
def ownerOnlyKinds : List MessageKind := [.cancel, .approvalDecision]

/-- What the screening objects to, in the order of its checks. -/
def findRejection (response : AdapterResponse) (card : AgentCard) :
    Except PyExc (Option Rejection) :=
  match response.events.findSome?
      (checkEvent (capabilityDeclarations card.adapterType) card.adapterType.value) with
  | some rejection => .ok (some rejection)
  | none =>
      match checkKeys response.dump with
      | .error e => .error e
      | .ok (some message) => .ok (some ⟨message, [("reason", message)]⟩)
      | .ok none =>
          if secretPatternRegex.search response.textContent.toList then
            .ok (some ⟨"Adapter output contains content matching API key or secret token pattern.",
              [("reason", "secret_leakage_detected")]⟩)
          else
            match response.message with
            | some message =>
                if message.kind ∈ ownerOnlyKinds then
                  .ok (some ⟨"Adapter attempted to emit owner-only message kind '" ++
                    message.kind.value ++ "'.", [("kind", message.kind.value)]⟩)
                else .ok none
            | none => .ok none

structure ValidationOutcome where
  valid : Bool
  rejectionReason : Option String := none
  sanitizedResponse : Option AdapterResponse := none

/-- What `write_audit_event` is called with. -/
structure SecurityRejection where
  category : String := "security_rejection"
  sessionId : String
  actorUsername : String
  summary : String
  payload : List (String × String)

/-- `validate_adapter_output`, with the audit event it writes when it is given a session. -/
def validateAdapterOutput (response : AdapterResponse) (card : AgentCard)
    (sessionId : Option String) : Except PyExc (ValidationOutcome × Option SecurityRejection) :=
  match findRejection response card with
  | .error e => .error e
  | .ok none => .ok ({ valid := true, sanitizedResponse := some response }, none)
  | .ok (some rejection) =>
      .ok ({ valid := false, rejectionReason := some rejection.reason },
        (sessionId.filter fun id => id ≠ "").map fun id =>
          { sessionId := id, actorUsername := card.id, summary := rejection.reason
            payload := rejection.payload })

end Kin.Adapters
