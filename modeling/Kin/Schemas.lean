import Kin.Lib.Dict
import Kin.Py.Time
import Kin.Py.Value
import Mathlib.Data.Option.Basic

/-!
The wire objects of `kin/schemas.py` and the six-stage verification pipeline
`verify_and_build_envelope`. Third-party code (pydantic's reading of numeric
text, RFC 8785 canonicalisation, SHA-256, Ed25519, X25519, the OS keychain)
enters as the fields of `Externals`.
-/

namespace Kin.Schemas

open Kin.Py Kin.Lib

/-- An Ed25519 or X25519 public key, as the hex text the contacts table holds. -/
abbrev PublicKey := String

abbrev PrivateKey := String

abbrev Bytes := List UInt8

/-- What the modelled code takes from packages outside the repository. -/
structure Externals where
  /-- pydantic: the integer a numeric text stands for. -/
  intOfText : String → Option Int
  /-- SQLite: text of a real number. -/
  realText : PyFloat → String
  /-- SQLite: numeric affinity on text. -/
  numericText : String → Option SqlValue
  /-- `str(v)` of a value that is not a string. -/
  strOf : Json → String
  /-- pydantic and rfc8785: text of the error raised for a body. -/
  errorText : Fields → String
  /-- `canonical_jcs`, SHA-256 and base64url of a payload; `none` when rfc8785 raises. -/
  jcsHash : Fields → Option String
  /-- SHA-256 of `json.dumps(value, sort_keys=True)`. -/
  dumpsHash : Json → String
  /-- SHA-256 of the compact, non-ASCII `json.dumps` that `replay_session` uses. -/
  replayHash : Json → String
  /-- SHA-256 of a text. -/
  textHash : String → String
  /-- `json.loads`; `none` when it raises. -/
  loads : String → Option Json
  /-- base64url decoding, canonicalisation and `Ed25519PublicKey.verify`; `false` when any raises. -/
  ed25519Verify : PublicKey → String → Fields → Bool
  /-- Canonicalisation and `Ed25519PrivateKey.sign`, base64url encoded. -/
  ed25519Sign : PrivateKey → Fields → String
  publicKeyOf : PrivateKey → PublicKey
  /-- `base64.b64decode`; `none` when it raises. -/
  b64decode : Json → Option Bytes
  /-- `decrypt_from_sender`; `none` when it raises. -/
  decryptFromSender : PrivateKey → PublicKey → Bytes → Option Bytes
  /-- `base64.b64encode` of `encrypt_for_recipient`. -/
  encryptForRecipient : PrivateKey → PublicKey → Bytes → String
  sha256Hex : Bytes → String
  /-- `load_private_key`; `none` when it raises. -/
  loadPrivateKey : String → Option PrivateKey
  /-- `load_x25519_private_key`; `none` when it raises. -/
  loadX25519PrivateKey : String → Option PrivateKey

/-! ### Enumerations -/

inductive SessionType
  | ask
  | research
  | debate
  | buildPipeline
  | review
  | delegateSubtask
  deriving DecidableEq, Repr

def SessionType.value : SessionType → String
  | .ask => "ask"
  | .research => "research"
  | .debate => "debate"
  | .buildPipeline => "build_pipeline"
  | .review => "review"
  | .delegateSubtask => "delegate_subtask"

def SessionType.all : List SessionType :=
  [.ask, .research, .debate, .buildPipeline, .review, .delegateSubtask]

/-- `SessionType(v)`; a value that is no member raises `ValueError`, also when
it is not a string. -/
def SessionType.ofJson : Json → Option SessionType
  | .str (.text s) => SessionType.all.find? fun t => decide (t.value = s)
  | _ => none

inductive MessageKind
  | taskRequest
  | acceptance
  | decline
  | clarification
  | plan
  | proposal
  | counterproposal
  | finding
  | question
  | answer
  | artifactOffer
  | artifactAccept
  | approvalRequest
  | approvalDecision
  | statusEvent
  | finalResult
  | cancel
  | participantChanged
  deriving DecidableEq, Repr

def MessageKind.value : MessageKind → String
  | .taskRequest => "task_request"
  | .acceptance => "acceptance"
  | .decline => "decline"
  | .clarification => "clarification"
  | .plan => "plan"
  | .proposal => "proposal"
  | .counterproposal => "counterproposal"
  | .finding => "finding"
  | .question => "question"
  | .answer => "answer"
  | .artifactOffer => "artifact_offer"
  | .artifactAccept => "artifact_accept"
  | .approvalRequest => "approval_request"
  | .approvalDecision => "approval_decision"
  | .statusEvent => "status_event"
  | .finalResult => "final_result"
  | .cancel => "cancel"
  | .participantChanged => "participant_changed"

/-- The member name, which is what formatting the member prints. -/
def MessageKind.name : MessageKind → String
  | .taskRequest => "MessageKind.TASK_REQUEST"
  | .acceptance => "MessageKind.ACCEPTANCE"
  | .decline => "MessageKind.DECLINE"
  | .clarification => "MessageKind.CLARIFICATION"
  | .plan => "MessageKind.PLAN"
  | .proposal => "MessageKind.PROPOSAL"
  | .counterproposal => "MessageKind.COUNTERPROPOSAL"
  | .finding => "MessageKind.FINDING"
  | .question => "MessageKind.QUESTION"
  | .answer => "MessageKind.ANSWER"
  | .artifactOffer => "MessageKind.ARTIFACT_OFFER"
  | .artifactAccept => "MessageKind.ARTIFACT_ACCEPT"
  | .approvalRequest => "MessageKind.APPROVAL_REQUEST"
  | .approvalDecision => "MessageKind.APPROVAL_DECISION"
  | .statusEvent => "MessageKind.STATUS_EVENT"
  | .finalResult => "MessageKind.FINAL_RESULT"
  | .cancel => "MessageKind.CANCEL"
  | .participantChanged => "MessageKind.PARTICIPANT_CHANGED"

def MessageKind.all : List MessageKind :=
  [.taskRequest, .acceptance, .decline, .clarification, .plan, .proposal, .counterproposal,
   .finding, .question, .answer, .artifactOffer, .artifactAccept, .approvalRequest,
   .approvalDecision, .statusEvent, .finalResult, .cancel, .participantChanged]

/-- `MessageKind(s)`. -/
def MessageKind.ofText (s : String) : Option MessageKind :=
  MessageKind.all.find? fun k => decide (k.value = s)

theorem MessageKind.ofText_value (k : MessageKind) : MessageKind.ofText k.value = some k := by
  cases k <;> decide

theorem MessageKind.value_of_ofText {s : String} {k : MessageKind}
    (h : MessageKind.ofText s = some k) : k.value = s := by
  simpa using List.find?_some h

@[simp] theorem MessageKind.value_inj {k k' : MessageKind} : k.value = k'.value ↔ k = k' := by
  refine ⟨fun h => ?_, congrArg _⟩
  have h' := MessageKind.ofText_value k
  rw [h, MessageKind.ofText_value] at h'
  exact (Option.some.inj h').symm

inductive InternalEventKind
  | message
  | envelopeReceived
  | publicMsg
  | privateNote
  | outboundEnvelopeQueued
  | activity
  | adapterError
  | checkpoint
  | decision
  | outcome
  | rerunCreated
  deriving DecidableEq, Repr

def InternalEventKind.value : InternalEventKind → String
  | .message => "message"
  | .envelopeReceived => "envelope_received"
  | .publicMsg => "public_msg"
  | .privateNote => "private_note"
  | .outboundEnvelopeQueued => "outbound_envelope_queued"
  | .activity => "activity"
  | .adapterError => "adapter_error"
  | .checkpoint => "checkpoint"
  | .decision => "decision"
  | .outcome => "outcome"
  | .rerunCreated => "rerun_created"

inductive EventKind
  | message (kind : MessageKind)
  | internal (kind : InternalEventKind)
  deriving DecidableEq, Repr

def EventKind.value : EventKind → String
  | .message kind => kind.value
  | .internal kind => kind.value

/-- Error codes of acknowledgements, verification results and reducer results. -/
inductive ErrorCode
  | sessionNotFound
  | unpairedSender
  | structuralSchemaInvalid
  | sessionIdMismatch
  | contentHashMismatch
  | payloadCanonicalizationFailed
  | unauthorizedActor
  | unauthorizedAgent
  | publicKeyNotFound
  | invalidSignature
  | sequenceReuseMismatch
  | invalidSessionType
  | sessionStateLoadFailed
  | terminalStateImmutable
  | unauthorizedRoleAction
  | duplicateSequence
  | outOfOrderSequence
  | invalidStateTransition
  | turnLimitExceeded
  | unknownNodeCommand
  | unauthorizedOwner
  | invalidApprovalDecision
  | unknownOwnerAction
  deriving DecidableEq, Repr

/-! ### Envelopes -/

/-- A structurally valid wire envelope. -/
structure SessionEnvelope where
  sessionId : String
  sequence : Nat
  sequence_pos : 1 ≤ sequence
  actorUsername : String
  actorAgentId : String
  timestamp : String
  kind : MessageKind
  contentHash : String
  payload : Fields
  signature : Option String

/-- The fields of `SessionEnvelope`; `extra="forbid"` admits no other key. -/
def envelopeKeys : List String :=
  ["schema_version", "protocol_version", "session_id", "sequence", "actor_username",
   "actor_agent_id", "timestamp", "kind", "content_hash", "payload", "signature"]

def textField (raw : Fields) (key : String) : Option String := (raw.get? key).bind asText

def strField (raw : Fields) (key : String) : Option PyStr := (raw.get? key).bind asStr

/-- `Literal["1.1"]`. -/
def literalVersion (raw : Fields) (key : String) : Bool := textField raw key == some "1.1"

/-- `validate_strict_int_sequence`. -/
def strictSequence (raw : Fields) : Option { n : Nat // 1 ≤ n } :=
  match raw.get? "sequence" with
  | some (.int n) => if h : 1 ≤ n.toNat then some ⟨n.toNat, h⟩ else none
  | _ => none

/-- `payload: dict[str, Any]` with `validate_payload_primitives`. -/
def payloadField (raw : Fields) : Option Fields :=
  match raw.get? "payload" with
  | some (.obj fields) => if Json.validFields fields then some fields else none
  | _ => none

/-- `signature: str | None = None`. -/
def signatureField (raw : Fields) : Option (Option String) :=
  match raw.get? "signature" with
  | none => some none
  | some .null => some none
  | some v => (asText v).map some

/-- `SessionEnvelope.model_validate` of a body whose names and signature have a
UTF-8 encoding. -/
def validateEnvelope (raw : Fields) : Option SessionEnvelope := do
  guard (raw.all fun e => envelopeKeys.any fun k => decide (e.1 = .text k))
  guard (literalVersion raw "schema_version")
  guard (literalVersion raw "protocol_version")
  let sessionId ← textField raw "session_id"
  let sequence ← strictSequence raw
  let actorUsername ← textField raw "actor_username"
  let actorAgentId ← textField raw "actor_agent_id"
  let timestamp ← textField raw "timestamp"
  guard (timestampRegex timestamp)
  let kind ← (textField raw "kind").bind MessageKind.ofText
  let contentHash ← textField raw "content_hash"
  guard (contentHashRegex contentHash)
  let payload ← payloadField raw
  let signature ← signatureField raw
  pure
    { sessionId, sequence := sequence.1, sequence_pos := sequence.2, actorUsername, actorAgentId,
      timestamp, kind, contentHash, payload, signature }

/-- What the later stages read of a body that validates with a lone surrogate in
a name or in its signature. -/
structure UnencodableEnvelope where
  sessionId : PyStr
  actorUsername : PyStr
  actorAgentId : PyStr
  contentHash : String
  payload : Fields

/-- `SessionEnvelope.model_validate` of a body that `validateEnvelope` leaves. -/
def validateUnencodable (raw : Fields) : Option UnencodableEnvelope := do
  guard (raw.all fun e => envelopeKeys.any fun k => decide (e.1 = .text k))
  guard (literalVersion raw "schema_version")
  guard (literalVersion raw "protocol_version")
  let sessionId ← strField raw "session_id"
  let _ ← strictSequence raw
  let actorUsername ← strField raw "actor_username"
  let actorAgentId ← strField raw "actor_agent_id"
  let timestamp ← textField raw "timestamp"
  guard (timestampRegex timestamp)
  let _ ← (textField raw "kind").bind MessageKind.ofText
  let contentHash ← textField raw "content_hash"
  guard (contentHashRegex contentHash)
  let payload ← payloadField raw
  let _ ← match raw.get? "signature" with
    | none => some ()
    | some .null => some ()
    | some v => (asStr v).map fun _ => ()
  pure { sessionId, actorUsername, actorAgentId, contentHash, payload }

/-- `compute_content_hash`; `none` when it raises. -/
def computeContentHash (ext : Externals) (payload : Fields) : Option String :=
  if Json.validFields payload then ext.jcsHash payload else none

def verifyEnvelopeSignature (ext : Externals) (raw : Fields) (key : PublicKey) : Bool :=
  match raw.get? "signature" with
  | some (.str (.text s)) => s != "" && ext.ed25519Verify key s (raw.without "signature")
  | _ => false

def signEnvelope (ext : Externals) (raw : Fields) (key : PrivateKey) : String :=
  ext.ed25519Sign key (raw.without "signature")

/-- Why an envelope was refused: code and message. -/
structure Rejection where
  code : ErrorCode
  message : String
  deriving DecidableEq

/-- Why a body did not verify; the message may repeat a name with a lone surrogate. -/
structure Unverified where
  code : ErrorCode
  message : PyStr

/-- The later stages of `verify_and_build_envelope` for a body with a lone
surrogate. A signature is over a UTF-8 encoding, so the last stage refuses. -/
def refuseUnencodable (ext : Externals) (getPublicKey : Json → Option PublicKey)
    (activeSessionId : Option String) (participantMap : Dict String String)
    (envelope : UnencodableEnvelope) : Unverified :=
  -- 2. session id
  if activeSessionId.map .text ≠ some envelope.sessionId then
    ⟨.sessionIdMismatch, .text "Envelope session_id '" ++ envelope.sessionId ++
      .text ("' does not match active session '" ++ activeSessionId.getD "" ++ "'.")⟩
  else
  -- 3. payload hash
  match computeContentHash ext envelope.payload with
  | none => ⟨.payloadCanonicalizationFailed, .text (ext.errorText envelope.payload)⟩
  | some expectedHash =>
  if envelope.contentHash ≠ expectedHash then
    ⟨.contentHashMismatch, .text ("Payload hash mismatch. Envelope: '" ++ envelope.contentHash ++
      "', Computed: '" ++ expectedHash ++ "'.")⟩
  else
  -- 4. participant and agent: an entry that is not text is the body's own
  match (asText (.str envelope.actorUsername)).bind participantMap.get? with
  | some expectedAgentId =>
      if envelope.actorAgentId ≠ .text expectedAgentId then
        ⟨.unauthorizedAgent, .text "Actor agent ID '" ++ envelope.actorAgentId ++
          .text ("' does not match registered agent '" ++ expectedAgentId ++ "'.")⟩
      else unsigned
  | none => unsigned
where
  -- 5. public key and 6. signature
  unsigned : Unverified :=
    match getPublicKey (.str envelope.actorUsername) with
    | none => ⟨.publicKeyNotFound, .text "Public key for trusted contact '" ++
        envelope.actorUsername ++ .text "' not found."⟩
    | some _ => ⟨.invalidSignature, .text "Ed25519 signature verification failed for actor '" ++
        envelope.actorUsername ++ .text "'."⟩

def verifyAndBuildEnvelope (ext : Externals) (raw : Fields)
    (getPublicKey : Json → Option PublicKey) (activeSessionId : Option String)
    (participantMap : Dict String String) : Except Unverified SessionEnvelope :=
  -- 1. structural schema
  match validateEnvelope raw with
  | none =>
      match validateUnencodable raw with
      | none => .error ⟨.structuralSchemaInvalid, .text (ext.errorText raw)⟩
      | some envelope =>
          .error (refuseUnencodable ext getPublicKey activeSessionId participantMap envelope)
  | some envelope =>
  -- 2. session id
  if activeSessionId ≠ some envelope.sessionId then
    .error ⟨.sessionIdMismatch, .text ("Envelope session_id '" ++ envelope.sessionId ++
      "' does not match active session '" ++ activeSessionId.getD "" ++ "'.")⟩
  else
  -- 3. payload hash
  match computeContentHash ext envelope.payload with
  | none => .error ⟨.payloadCanonicalizationFailed, .text (ext.errorText envelope.payload)⟩
  | some expectedHash =>
  if envelope.contentHash ≠ expectedHash then
    .error ⟨.contentHashMismatch, .text ("Payload hash mismatch. Envelope: '" ++
      envelope.contentHash ++ "', Computed: '" ++ expectedHash ++ "'.")⟩
  else
  -- 4. participant and agent
  match participantMap.get? envelope.actorUsername with
  | none => .error ⟨.unauthorizedActor, .text ("Actor '" ++ envelope.actorUsername ++
      "' is not a registered session participant.")⟩
  | some expectedAgentId =>
  if envelope.actorAgentId ≠ expectedAgentId then
    .error ⟨.unauthorizedAgent, .text ("Actor agent ID '" ++ envelope.actorAgentId ++
      "' does not match registered agent '" ++ expectedAgentId ++ "'.")⟩
  else
  -- 5. public key
  match getPublicKey (.text envelope.actorUsername) with
  | none => .error ⟨.publicKeyNotFound, .text ("Public key for trusted contact '" ++
      envelope.actorUsername ++ "' not found.")⟩
  | some pubKey =>
  -- 6. signature
  if (envelope.signature.getD "") = "" ∨ verifyEnvelopeSignature ext raw pubKey = false then
    .error ⟨.invalidSignature, .text ("Ed25519 signature verification failed for actor '" ++
      envelope.actorUsername ++ "'.")⟩
  else .ok envelope

/-- Every stage of the pipeline, as one condition on the body. -/
theorem verifyAndBuildEnvelope_eq_ok {ext : Externals} {raw : Fields}
    {getPublicKey : Json → Option PublicKey} {active : Option String}
    {participants : Dict String String} {envelope : SessionEnvelope} :
    verifyAndBuildEnvelope ext raw getPublicKey active participants = .ok envelope ↔
      validateEnvelope raw = some envelope ∧ active = some envelope.sessionId ∧
      computeContentHash ext envelope.payload = some envelope.contentHash ∧
      participants.get? envelope.actorUsername = some envelope.actorAgentId ∧
      envelope.signature.getD "" ≠ "" ∧
      ∃ key, getPublicKey (.text envelope.actorUsername) = some key ∧
        verifyEnvelopeSignature ext raw key = true := by
  unfold verifyAndBuildEnvelope
  cases hv : validateEnvelope raw with
  | none => cases validateUnencodable raw <;> simp
  | some e =>
      simp only [Option.some.injEq]
      constructor
      · intro h
        split at h
        · cases h
        rename_i hactive
        split at h
        · cases h
        rename_i hash hhash
        split at h
        · cases h
        rename_i hcontent
        split at h
        · cases h
        rename_i agent hagent
        split at h
        · cases h
        rename_i hid
        split at h
        · cases h
        rename_i key hkey
        split at h
        · cases h
        rename_i hsig
        cases h
        rw [not_or] at hsig
        exact ⟨rfl, by simpa using hactive, by rw [hhash, not_not.mp hcontent],
          by rw [hagent, not_not.mp hid], hsig.1, key, hkey, by simpa using hsig.2⟩
      · rintro ⟨rfl, hactive, hhash, hagent, hsig, key, hkey, hver⟩
        simp [hactive, hhash, hagent, hkey, hsig, hver]

/-! ### Acknowledgements and offers -/

inductive AckStatus
  | delivered
  | queued
  | rejected
  deriving DecidableEq, Repr

structure TransportAcknowledgement where
  envelopeSessionId : PyStr
  envelopeSequence : Int
  status : AckStatus
  receivedAt : String
  verifiedHash : PyStr
  errorCode : Option ErrorCode
  errorMessage : Option PyStr
  deriving DecidableEq

/-- The constructor of `TransportAcknowledgement`, with its field checks. The
time text of the caller always matches `TIMESTAMP_REGEX`. -/
def transportAcknowledgement (ext : Externals) (sessionId sequence verifiedHash : Json)
    (status : AckStatus) (receivedAt : String) (errorCode : Option ErrorCode)
    (errorMessage : Option PyStr) : Except PyExc TransportAcknowledgement :=
  match asStr sessionId, laxInt ext.intOfText sequence, asStr verifiedHash with
  | some s, some n, some h =>
      if 1 ≤ n then
        .ok { envelopeSessionId := s, envelopeSequence := n, status, receivedAt,
              verifiedHash := h, errorCode, errorMessage }
      else .error .validationError
  | _, _, _ => .error .validationError

/-- A validated `ArtifactOffer`. -/
structure ArtifactOffer where
  artifactId : String
  sessionId : String
  sha256 : String
  mimeType : String
  sizeBytes : Int
  offeredBy : String
  previewPolicy : String
  deriving DecidableEq

/-- `ArtifactOffer.model_validate` of the eight fields ingestion copies out of
an offer's payload. A missing field is `None`, except `schema_version`. -/
def validateArtifactOffer (ext : Externals) (payload : Fields) : Option ArtifactOffer := do
  guard (asText (payload.getD "schema_version" (.text "1.1")) == some "1.1")
  let artifactId ← textField payload "artifact_id"
  let sessionId ← textField payload "session_id"
  let sha256 ← textField payload "sha256"
  let mimeType ← textField payload "mime_type"
  let sizeBytes ← (payload.get? "size_bytes").bind (laxInt ext.intOfText)
  guard (0 ≤ sizeBytes)
  let offeredBy ← textField payload "offered_by"
  let previewPolicy ← textField payload "preview_policy"
  pure { artifactId, sessionId, sha256, mimeType, sizeBytes, offeredBy, previewPolicy }

end Kin.Schemas
