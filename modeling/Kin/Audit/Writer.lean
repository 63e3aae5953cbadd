import Kin.Storage.Db

/-!
The append-only event log of `kin/audit/writer.py`: the duplicate check on
`(session, actor, sequence)` and the append that assigns `event_order`. Event
ids are uuids in the source; the model numbers them by table position.
-/

namespace Kin.Audit

open Kin.Py Kin.Lib Kin.Schemas Kin.Session Kin.Storage

/-! ### Changes that only grow the audit table -/

/-- `db'` differs from `db` in the audit table only. -/
def SameTables (db db' : Db) : Prop := ∃ rows, db' = db.withAudit rows

theorem SameTables.refl (db : Db) : SameTables db db := ⟨db.auditEvents, rfl⟩

theorem SameTables.trans {a b c : Db} (hab : SameTables a b) (hbc : SameTables b c) :
    SameTables a c := by
  obtain ⟨_, rfl⟩ := hab
  obtain ⟨_, rfl⟩ := hbc
  exact ⟨_, rfl⟩

theorem SameTables.symm {a b : Db} (h : SameTables a b) : SameTables b a := by
  obtain ⟨_, rfl⟩ := h
  exact ⟨a.auditEvents, rfl⟩

theorem sameTables_writeAuditEvent (db : Db) (c s : String) (o a : Option String) :
    SameTables db (db.writeAuditEvent c s o a) := ⟨_, rfl⟩

namespace SameTables

variable {db db' : Db} (h : SameTables db db')
include h

theorem sessions : db'.sessions = db.sessions := by
  obtain ⟨_, rfl⟩ := h
  rfl

theorem sessionEvents : db'.sessionEvents = db.sessionEvents := by
  obtain ⟨_, rfl⟩ := h
  rfl

theorem session? (sid : String) : db'.session? sid = db.session? sid := by
  rw [Db.session?, h.sessions, Db.session?]

theorem eventsOf (sid : String) : db'.eventsOf sid = db.eventsOf sid := by
  rw [Db.eventsOf, h.sessionEvents, Db.eventsOf]

theorem artifacts : db'.artifacts = db.artifacts := by
  obtain ⟨_, rfl⟩ := h
  rfl

theorem approvals : db'.approvals = db.approvals := by
  obtain ⟨_, rfl⟩ := h
  rfl

theorem outboundEnvelopeQueue : db'.outboundEnvelopeQueue = db.outboundEnvelopeQueue := by
  obtain ⟨_, rfl⟩ := h
  rfl

theorem identity : db'.identity = db.identity := by
  obtain ⟨_, rfl⟩ := h
  rfl

theorem contacts : db'.contacts = db.contacts := by
  obtain ⟨_, rfl⟩ := h
  rfl

theorem myUsername : db'.myUsername = db.myUsername := by
  rw [Db.myUsername, h.identity, Db.myUsername]

theorem updateSession (sid : String) (f : SessionRow → SessionRow) :
    SameTables (db.updateSession sid f) (db'.updateSession sid f) := by
  obtain ⟨rows, rfl⟩ := h
  exact ⟨rows, rfl⟩

end SameTables

/-! ### Duplicate detection -/

def canonicalPayloadHash (ext : Externals) : Option Json → String
  | none => ""
  | some (.str (.text s)) =>
      match ext.loads s with
      | some v => ext.dumpsHash v
      | none => ext.textHash s
  | some v => ext.dumpsHash v

inductive ConflictStatus
  | new
  | duplicate (eventId : Nat)
  | conflict (eventId : Nat)
  deriving DecidableEq

def storedEvent? (db : Db) (sessionId actorUsername : String) (sequence : Nat) :
    Option SessionEventRow :=
  db.sessionEvents.find? fun e =>
    e.sessionId == sessionId && e.actorUsername == actorUsername && e.sequence == some sequence

def checkSequenceConflict (ext : Externals) (db : Db) (sessionId actorUsername : String)
    (sequence : Nat) (payload : Option Json) : Db × ConflictStatus :=
  match storedEvent? db sessionId actorUsername sequence with
  | none => (db, .new)
  | some existing =>
      if canonicalPayloadHash ext payload = canonicalPayloadHash ext existing.payload then
        (db.writeAuditEvent "duplicate_delivery"
          ("Duplicate envelope sequence " ++ toString sequence ++ " received for session " ++
            sessionId) (some sessionId) (some actorUsername),
          .duplicate existing.eventId)
      else
        (db.writeAuditEvent "security_rejection"
          ("Sequence reuse mismatch: sequence " ++ toString sequence ++
            " received with different content for session " ++ sessionId)
          (some sessionId) (some actorUsername),
          .conflict existing.eventId)

theorem sameTables_checkSequenceConflict (ext : Externals) (db : Db) (sid actor : String)
    (sequence : Nat) (payload : Option Json) :
    SameTables db (checkSequenceConflict ext db sid actor sequence payload).1 := by
  unfold checkSequenceConflict
  split
  · exact .refl db
  · split <;> exact sameTables_writeAuditEvent ..

theorem checkSequenceConflict_new {ext : Externals} {db : Db} {sid actor : String}
    {sequence : Nat} {payload : Option Json} :
    (checkSequenceConflict ext db sid actor sequence payload).2 = .new ↔
      storedEvent? db sid actor sequence = none := by
  unfold checkSequenceConflict
  split
  · simp_all
  · split <;> simp_all

/-- A new sequence is found without touching the database. -/
theorem checkSequenceConflict_of_none {ext : Externals} {db : Db} {sid actor : String}
    {sequence : Nat} {payload : Option Json} (h : storedEvent? db sid actor sequence = none) :
    checkSequenceConflict ext db sid actor sequence payload = (db, .new) := by
  simp [checkSequenceConflict, h]

/-! ### Appending -/

/-- The arguments of `append_session_event`; `createdAt` is its clock reading. -/
structure NewEvent where
  sessionId : String
  actorUsername : String
  actorAgentId : Option String
  kind : EventKind
  visibility : Visibility := .peerVisible
  payload : Option Json := none
  signature : Option String := none
  sequence : Option Nat := none
  createdAt : Instant

inductive AppendResult
  | appended (eventId eventOrder : Nat)
  | duplicate (eventId : Nat)
  | rejected (code : ErrorCode)
  deriving DecidableEq

/-- `COALESCE(MAX(event_order), -1) + 1`. -/
def nextOrder (db : Db) (sessionId : String) : Nat :=
  match ((db.eventsOf sessionId).map (·.eventOrder)).max? with
  | none => 0
  | some m => m + 1

/-- The check `SessionEvent.model_validate` makes on a dictionary payload. -/
def validEventFields (fields : Fields) : Bool :=
  Json.validFields fields

/-- Whether the payload passes `SessionEvent` and can be encrypted. -/
def checkEventPayload (ext : Externals) : Option Json → Except PyExc Unit
  | some (.obj fields) => if validEventFields fields then .ok () else .error .validationError
  | some (.str (.text s)) =>
      match ext.loads s with
      | some (.obj fields) => if validEventFields fields then .ok () else .error .validationError
      | _ => .ok ()
  | some (.str (.lone _)) => .error .unicodeEncodeError
  | _ => .ok ()

def eventRow (db : Db) (ev : NewEvent) : SessionEventRow where
  eventId := db.sessionEvents.length
  sessionId := ev.sessionId
  eventOrder := nextOrder db ev.sessionId
  sequence := ev.sequence
  actorUsername := ev.actorUsername
  actorAgentId := ev.actorAgentId
  kind := ev.kind
  visibility := ev.visibility
  payload := ev.payload
  signature := ev.signature
  createdAt := ev.createdAt

def addEvent (db : Db) (ev : NewEvent) : Db :=
  { db with sessionEvents := db.sessionEvents ++ [eventRow db ev] }

/-- The insert at the end of `append_session_event`: order, validation, foreign
key, row and audit record. -/
def insertEvent (ext : Externals) (db : Db) (ev : NewEvent) : Db × Except PyExc AppendResult :=
  match checkEventPayload ext ev.payload with
  | .error e => (db, .error e)
  | .ok () =>
      match db.session? ev.sessionId with
      | none => (db, .error .integrityError)
      | some _ =>
          let row := eventRow db ev
          ((addEvent db ev).writeAuditEvent
            ("session_event_" ++ ev.kind.value)
            ("Session event " ++ ev.kind.value ++ " appended (order " ++
              toString row.eventOrder ++ ")")
            (some ev.sessionId) (some ev.actorUsername),
            .ok (.appended row.eventId row.eventOrder))

def appendSessionEvent (ext : Externals) (db : Db) (ev : NewEvent) :
    Db × Except PyExc AppendResult :=
  match ev.sequence with
  | none => insertEvent ext db ev
  | some sequence =>
      match checkSequenceConflict ext db ev.sessionId ev.actorUsername sequence ev.payload with
      | (db', .duplicate eventId) => (db', .ok (.duplicate eventId))
      | (db', .conflict _) => (db', .ok (.rejected .sequenceReuseMismatch))
      | (db', .new) => insertEvent ext db' ev

/-- `db'` is `db` with one more event, up to the audit table. -/
def Appended (db : Db) (ev : NewEvent) (db' : Db) : Prop :=
  SameTables (addEvent db ev) db'

theorem eventsOf_addEvent_self (db : Db) (ev : NewEvent) :
    (addEvent db ev).eventsOf ev.sessionId = db.eventsOf ev.sessionId ++ [eventRow db ev] := by
  simp [Db.eventsOf, addEvent, eventRow]

theorem eventsOf_addEvent_of_ne (db : Db) (ev : NewEvent) {sid : String} (h : sid ≠ ev.sessionId) :
    (addEvent db ev).eventsOf sid = db.eventsOf sid := by
  simp [Db.eventsOf, addEvent, eventRow, Ne.symm h]

theorem SameTables.addEvent {db db' : Db} (h : SameTables db db') (ev : NewEvent) :
    SameTables (addEvent db ev) (addEvent db' ev) := by
  obtain ⟨rows, rfl⟩ := h
  exact ⟨rows, rfl⟩

theorem SameTables.appended {db db' db'' : Db} {ev : NewEvent} (h : SameTables db db')
    (ha : Appended db' ev db'') : Appended db ev db'' :=
  (h.addEvent ev).trans ha

/-- What an append can do: store the event under a new sequence in an existing
session, or change nothing but the audit table. -/
theorem appendSessionEvent_cases (ext : Externals) (db : Db) (ev : NewEvent) :
    (Appended db ev (appendSessionEvent ext db ev).1 ∧
      (db.session? ev.sessionId).isSome = true ∧
      (∀ n, ev.sequence = some n → storedEvent? db ev.sessionId ev.actorUsername n = none) ∧
      ∃ id order, (appendSessionEvent ext db ev).2 = .ok (.appended id order)) ∨
    (SameTables db (appendSessionEvent ext db ev).1 ∧
      ∀ id order, (appendSessionEvent ext db ev).2 ≠ .ok (.appended id order)) := by
  have hinsert : (Appended db ev (insertEvent ext db ev).1 ∧
        (db.session? ev.sessionId).isSome = true ∧
        ∃ id order, (insertEvent ext db ev).2 = .ok (.appended id order)) ∨
      (SameTables db (insertEvent ext db ev).1 ∧
        ∀ id order, (insertEvent ext db ev).2 ≠ .ok (.appended id order)) := by
    unfold insertEvent
    split
    · exact .inr ⟨.refl db, by simp⟩
    · split
      · exact .inr ⟨.refl db, by simp⟩
      · rename_i hsome
        exact .inl ⟨sameTables_writeAuditEvent .., by simp [hsome], _, _, rfl⟩
  unfold appendSessionEvent
  split
  · rename_i hseq
    rcases hinsert with ⟨ha, hs, hr⟩ | hsame
    · exact .inl ⟨ha, hs, by simp [hseq], hr⟩
    · exact .inr hsame
  · rename_i n hseq
    have hsame := sameTables_checkSequenceConflict ext db ev.sessionId ev.actorUsername n ev.payload
    split
    · rename_i db' id hc
      rw [hc] at hsame
      exact .inr ⟨hsame, by simp⟩
    · rename_i db' id hc
      rw [hc] at hsame
      exact .inr ⟨hsame, by simp⟩
    · rename_i db' hc
      have hnone : storedEvent? db ev.sessionId ev.actorUsername n = none :=
        checkSequenceConflict_new.mp (congrArg Prod.snd hc)
      rw [checkSequenceConflict_of_none hnone] at hc
      cases hc
      rcases hinsert with ⟨ha, hs, hr⟩ | hsame
      · exact .inl ⟨ha, hs, by
          intro m hm
          rw [hseq] at hm
          cases hm
          exact hnone, hr⟩
      · exact .inr hsame

end Kin.Audit
