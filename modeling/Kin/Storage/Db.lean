import Mathlib.Data.List.Nodup
import Kin.Lib.Rows
import Kin.Session.Reducer

/-!
The profile database: the tables of `kin/storage/migrations.py` that sessions
use, with the columns the modelled functions read or write. Columns that hold
vault ciphertext are kept as their plaintext, and timestamps that are only
compared after parsing are kept as instants; `next_retry_at` stays text because
SQLite compares it as text.
-/

namespace Kin.Storage

open Kin.Py Kin.Lib Kin.Schemas Kin.Session

structure ContactRow where
  username : String
  endpoint : Option String
  x25519PublicKey : Option PublicKey
  publicKey : Option PublicKey
  fingerprintVerified : Bool
  deriving DecidableEq

/-- A local agent. `maxArtifactBytes` is the boundary of its stored card, when
the card parses. -/
structure AgentRow where
  agentId : String
  enabled : Bool
  availability : String
  maxArtifactBytes : Option Int
  deriving DecidableEq

structure SessionRow where
  sessionId : String
  sessionType : SessionType
  initiatorUsername : String
  receiverUsername : String
  status : Status
  objective : Option String
  senderAgentId : Option String
  receiverAgentId : Option String
  turnLimit : Nat
  runtimeBudgetSeconds : SqlValue
  artifactBytesBudget : SqlValue
  cumulativeArtifactBytes : Nat
  costBudgetEstimate : SqlValue
  cumulativeCostEstimate : Nat
  createdAt : Instant
  updatedAt : Instant
  expiresAt : Option Instant

structure SessionEventRow where
  eventId : Nat
  sessionId : String
  eventOrder : Nat
  sequence : Option Nat
  actorUsername : String
  actorAgentId : Option String
  kind : EventKind
  visibility : Visibility
  payload : Option Json
  signature : Option String
  createdAt : Instant

structure ArtifactRow where
  artifactId : String
  sessionId : String
  sha256 : String
  mimeType : String
  bytes : Bytes
  previewPolicy : String
  source : String
  offeredBy : String
  createdAt : Instant
  deriving DecidableEq

structure ApprovalRow where
  approvalId : String
  sessionId : String
  agentId : Option String
  actionClass : String
  decision : Option String
  decidedAt : Option String
  expiresAt : String
  consumedAt : Option String
  deriving DecidableEq

structure AuditRow where
  category : String
  sessionId : Option String
  actorUsername : Option String
  summary : String
  deriving DecidableEq

/-! ### The outbound queue -/

inductive DeliveryState
  | pending
  | delivered
  | relayed
  | failed
  | expired
  | abandoned
  deriving DecidableEq, Repr

/-- The columns of a queued envelope that a sweep updates. -/
structure Delivery where
  state : DeliveryState
  attemptCount : Nat
  nextRetryAt : String
  lastError : Option String
  deriving DecidableEq

structure QueueRow where
  queueId : String
  sessionId : String
  sequence : Nat
  recipientUsername : String
  envelopeKind : MessageKind
  envelope : Fields
  delivery : Delivery

/-- `UNIQUE(session_id, sequence, recipient_username)`. -/
def QueueRow.envelopeKey (r : QueueRow) : String × Nat × String :=
  (r.sessionId, r.sequence, r.recipientUsername)

/-- `outbound_envelope_queue` with its two uniqueness constraints. -/
structure OutboundQueue where
  rows : List QueueRow
  primaryKey : (rows.map (·.queueId)).Nodup
  uniqueEnvelope : (rows.map QueueRow.envelopeKey).Nodup

namespace OutboundQueue

def empty : OutboundQueue := ⟨[], List.nodup_nil, List.nodup_nil⟩

def hasId (q : OutboundQueue) (queueId : String) : Bool :=
  q.rows.any fun r => r.queueId == queueId

def hasEnvelope (q : OutboundQueue) (key : String × Nat × String) : Bool :=
  q.rows.any fun r => r.envelopeKey == key

/-- `INSERT`; `none` is the driver's `IntegrityError`. -/
def insert? (q : OutboundQueue) (r : QueueRow) : Option OutboundQueue :=
  if h : q.hasId r.queueId = false ∧ q.hasEnvelope r.envelopeKey = false then
    some
      { rows := q.rows ++ [r]
        primaryKey := by
          have h1 := h.1
          simp only [hasId, List.any_eq_false, beq_iff_eq] at h1
          simpa [List.nodup_append] using ⟨q.primaryKey, h1⟩
        uniqueEnvelope := by
          have h2 := h.2
          simp only [hasEnvelope, List.any_eq_false, beq_iff_eq] at h2
          rw [List.map_append, List.nodup_append]
          refine ⟨q.uniqueEnvelope, List.nodup_singleton _, ?_⟩
          intro a ha b hb hab
          obtain ⟨row, hrow, rfl⟩ := List.mem_map.mp ha
          rw [List.map_singleton, List.mem_singleton] at hb
          exact h2 row hrow (hab.trans hb) }
  else none

/-- `UPDATE ... WHERE queue_id = ?` of the delivery columns. -/
def update (q : OutboundQueue) (queueId : String) (f : Delivery → Delivery) : OutboundQueue where
  rows := q.rows.map fun r =>
    if r.queueId = queueId then { r with delivery := f r.delivery } else r
  primaryKey := by
    have h : (q.rows.map fun r => if r.queueId = queueId then { r with delivery := f r.delivery }
        else r).map (·.queueId) = q.rows.map (·.queueId) := by
      rw [List.map_map]
      apply List.map_congr_left
      intro r _
      simp only [Function.comp]
      split <;> rfl
    rw [h]
    exact q.primaryKey
  uniqueEnvelope := by
    have h : (q.rows.map fun r => if r.queueId = queueId then { r with delivery := f r.delivery }
        else r).map QueueRow.envelopeKey = q.rows.map QueueRow.envelopeKey := by
      rw [List.map_map]
      apply List.map_congr_left
      intro r _
      simp only [Function.comp]
      split <;> rfl
    rw [h]
    exact q.uniqueEnvelope

end OutboundQueue

/-! ### The database -/

structure Db where
  /-- `SELECT username FROM identity LIMIT 1`. -/
  identity : Option String
  contacts : List ContactRow
  agents : List AgentRow
  sessions : List SessionRow
  sessionEvents : List SessionEventRow
  artifacts : List ArtifactRow
  approvals : List ApprovalRow
  outboundEnvelopeQueue : OutboundQueue
  auditEvents : List AuditRow

namespace Db

def fresh (identity : Option String) (contacts : List ContactRow) (agents : List AgentRow) : Db :=
  { identity, contacts, agents, sessions := [], sessionEvents := [], artifacts := [],
    approvals := [], outboundEnvelopeQueue := .empty, auditEvents := [] }

/-- `my_identity_row[0] if my_identity_row else ""`. -/
def myUsername (db : Db) : String := db.identity.getD ""

/-- `SELECT ... FROM sessions WHERE session_id = ?`. -/
def session? (db : Db) (sessionId : String) : Option SessionRow :=
  Rows.lookup SessionRow.sessionId db.sessions sessionId

/-- `INSERT INTO sessions`. -/
def addSession (db : Db) (row : SessionRow) : Db := { db with sessions := db.sessions ++ [row] }

/-- `UPDATE sessions SET ... WHERE session_id = ?`. -/
def updateSession (db : Db) (sessionId : String) (f : SessionRow → SessionRow) : Db :=
  { db with sessions := Rows.modify SessionRow.sessionId db.sessions sessionId f }

def status? (db : Db) (sessionId : String) : Option Status := (db.session? sessionId).map (·.status)

/-- `SELECT ... FROM session_events WHERE session_id = ? ORDER BY event_order`.
Rows are appended with increasing order, so table order is that order. -/
def eventsOf (db : Db) (sessionId : String) : List SessionEventRow :=
  db.sessionEvents.filter fun e => e.sessionId == sessionId

def withArtifacts (db : Db) (rows : List ArtifactRow) : Db := { db with artifacts := rows }

def withAudit (db : Db) (rows : List AuditRow) : Db := { db with auditEvents := rows }

def writeAuditEvent (db : Db) (category summary : String) (sessionId : Option String)
    (actorUsername : Option String := none) : Db :=
  db.withAudit (db.auditEvents ++ [⟨category, sessionId, actorUsername, summary⟩])

/-- A nullable text, when it is truthy. -/
def given (column : Option String) : Option String := column.filter (· ≠ "")

/-- `_resolve_peer_contact_info`: endpoint, X25519 key and Ed25519 key of a
verified contact. -/
def resolvePeerContactInfo (db : Db) (peerUsername : String) :
    Option String × Option PublicKey × Option PublicKey :=
  match Rows.lookup ContactRow.username db.contacts peerUsername with
  | some c =>
      if c.fingerprintVerified then (c.endpoint, given c.x25519PublicKey, given c.publicKey)
      else (none, none, none)
  | none => (none, none, none)

def getCard (db : Db) (agentId : String) : Option AgentRow :=
  Rows.lookup AgentRow.agentId db.agents agentId

end Db

/-! ### Reading back an update -/

section Reading

variable (db : Db) (sid sid' : String) (f : SessionRow → SessionRow) (c s : String)
  (o a : Option String)

@[simp] theorem sessions_writeAuditEvent : (db.writeAuditEvent c s o a).sessions = db.sessions := rfl

@[simp] theorem session?_writeAuditEvent :
    (db.writeAuditEvent c s o a).session? sid = db.session? sid := rfl

@[simp] theorem sessionEvents_writeAuditEvent :
    (db.writeAuditEvent c s o a).sessionEvents = db.sessionEvents := rfl

@[simp] theorem eventsOf_writeAuditEvent :
    (db.writeAuditEvent c s o a).eventsOf sid = db.eventsOf sid := rfl

@[simp] theorem artifacts_writeAuditEvent :
    (db.writeAuditEvent c s o a).artifacts = db.artifacts := rfl

@[simp] theorem approvals_writeAuditEvent :
    (db.writeAuditEvent c s o a).approvals = db.approvals := rfl

@[simp] theorem outboundEnvelopeQueue_writeAuditEvent :
    (db.writeAuditEvent c s o a).outboundEnvelopeQueue = db.outboundEnvelopeQueue := rfl

@[simp] theorem identity_writeAuditEvent :
    (db.writeAuditEvent c s o a).identity = db.identity := rfl

@[simp] theorem contacts_writeAuditEvent :
    (db.writeAuditEvent c s o a).contacts = db.contacts := rfl

@[simp] theorem agents_writeAuditEvent : (db.writeAuditEvent c s o a).agents = db.agents := rfl

@[simp] theorem sessionEvents_updateSession :
    (db.updateSession sid f).sessionEvents = db.sessionEvents := rfl

@[simp] theorem eventsOf_updateSession :
    (db.updateSession sid f).eventsOf sid' = db.eventsOf sid' := rfl

@[simp] theorem artifacts_updateSession : (db.updateSession sid f).artifacts = db.artifacts := rfl

@[simp] theorem approvals_updateSession : (db.updateSession sid f).approvals = db.approvals := rfl

@[simp] theorem outboundEnvelopeQueue_updateSession :
    (db.updateSession sid f).outboundEnvelopeQueue = db.outboundEnvelopeQueue := rfl

@[simp] theorem identity_updateSession : (db.updateSession sid f).identity = db.identity := rfl

@[simp] theorem contacts_updateSession : (db.updateSession sid f).contacts = db.contacts := rfl

@[simp] theorem agents_updateSession : (db.updateSession sid f).agents = db.agents := rfl

variable {db sid sid' f}

theorem session?_updateSession_self (hf : ∀ r, (f r).sessionId = r.sessionId) :
    (db.updateSession sid f).session? sid = (db.session? sid).map f :=
  Rows.lookup_modify_self hf

theorem session?_updateSession_of_ne (hf : ∀ r, (f r).sessionId = r.sessionId) (h : sid' ≠ sid) :
    (db.updateSession sid f).session? sid' = db.session? sid' :=
  Rows.lookup_modify_of_ne hf h

theorem isSome_session?_updateSession (hf : ∀ r, (f r).sessionId = r.sessionId) :
    ((db.updateSession sid f).session? sid').isSome = (db.session? sid').isSome := by
  by_cases h : sid' = sid
  · subst h
    rw [session?_updateSession_self hf, Option.isSome_map]
  · rw [session?_updateSession_of_ne hf h]

/-- An update that changes no row changes nothing. -/
theorem updateSession_eq_self (hf : ∀ r, f r = r) : db.updateSession sid f = db := by
  rw [Db.updateSession, Rows.modify_eq_self (fun r _ _ => hf r)]

end Reading

end Kin.Storage
