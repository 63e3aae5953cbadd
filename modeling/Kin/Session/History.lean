import Kin.Session.Reconstruct

/-!
The outcome card of `kin/session/history.py`: ingestion of a final result
derives one, which appends an `outcome` event of the actor `system` to the log.
-/

namespace Kin.Session

open Kin.Py Kin.Lib Kin.Schemas Kin.Storage Kin.Audit

/-- `str.isspace` on one code point. -/
def isSpaceCode (c : Nat) : Bool :=
  (9 ≤ c && c ≤ 13) || (28 ≤ c && c ≤ 32) || c == 0x85 || c == 0xa0 || c == 0x1680 ||
    (0x2000 ≤ c && c ≤ 0x200a) || c == 0x2028 || c == 0x2029 || c == 0x202f || c == 0x205f ||
    c == 0x3000

/-- `str.strip()`. -/
def strip : PyStr → PyStr
  | .text s => .text (String.ofList
      (((s.toList.dropWhile fun c => isSpaceCode c.toNat).reverse.dropWhile
        fun c => isSpaceCode c.toNat).reverse))
  | .lone cs => .lone (((cs.dropWhile isSpaceCode).reverse.dropWhile isSpaceCode).reverse)

/-- The events `replay_session` counts as evidence. -/
def isEvidence (event : SessionEventRow) : Bool :=
  event.kind != .internal .privateNote &&
    (event.visibility != .localOnly || event.kind == .internal .checkpoint ||
      event.kind == .internal .decision || event.kind == .internal .outcome)

def Visibility.value : Visibility → String
  | .peerVisible => "peer_visible"
  | .localOnly => "local_only"

/-- `json.loads(decrypt_field(vault_key, payload_json) or "{}")`, also for a missing payload. -/
def storedPayload (ext : Externals) : Option Json → Except PyExc Json
  | none => .ok (.obj [])
  | some (.str (.text s)) =>
      if s = "" then .ok (.obj [])
      else
        match ext.loads s with
        | some v => .ok v
        | none => .error .valueError
  | some (.str (.lone _)) => .error .unicodeEncodeError
  | some v => .ok v

/-- The `created_at` column of an event. -/
def createdAtText (event : SessionEventRow) : String := isoBody event.createdAt ++ "+00:00"

/-- The dictionary `replay_session` builds for an event. -/
def replayEntry (ext : Externals) (event : SessionEventRow) : Except PyExc Json :=
  (storedPayload ext event.payload).map fun payload =>
    .obj
      [(.text "event_order", .int event.eventOrder),
       (.text "sequence", event.sequence.elim .null fun n => .int n),
       (.text "actor_username", .text event.actorUsername),
       (.text "actor_agent_id", event.actorAgentId.elim .null .text),
       (.text "kind", .text event.kind.value),
       (.text "visibility", .text event.visibility.value),
       (.text "payload", payload),
       (.text "signature", event.signature.elim .null .text),
       (.text "created_at", .text (createdAtText event))]

structure ReplaySnapshot where
  sessionId : String
  throughEventOrder : Option Int
  eventCount : Nat
  events : List Json
  digest : String

/-- The rows `replay_session` selects: without a bound, or through an event order. -/
def replayRows (db : Db) (sessionId : String) (throughEventOrder : Option Int) :
    List SessionEventRow :=
  (db.eventsOf sessionId).filter fun e =>
    throughEventOrder.all (fun k => decide ((e.eventOrder : Int) ≤ k)) && isEvidence e

/-- The snapshot of the selected rows. A payload that does not load raises, and so
does a text without a UTF-8 encoding when the digest is taken. -/
def replaySnapshot (ext : Externals) (sessionId : String) (throughEventOrder : Option Int)
    (rows : List SessionEventRow) : Except PyExc ReplaySnapshot :=
  match rows.mapM (replayEntry ext) with
  | .error e => .error e
  | .ok events =>
      if (Json.arr events).encodable then
        .ok ⟨sessionId, throughEventOrder, events.length, events, ext.replayHash (.arr events)⟩
      else .error .unicodeEncodeError

def replaySession (ext : Externals) (db : Db) (sessionId : String)
    (throughEventOrder : Option Int) : Except PyExc ReplaySnapshot :=
  match db.session? sessionId with
  | none => .error .valueError
  | some _ =>
      replaySnapshot ext sessionId throughEventOrder (replayRows db sessionId throughEventOrder)

structure OutcomeCard where
  outcomeId : Nat
  sessionId : String
  eventOrder : Nat
  status : String
  summary : String
  evidenceEventCount : Nat
  replayDigest : String
  createdAt : String
  deriving DecidableEq

/-- The card a stored outcome event holds. A missing key, a value of another type
and a negative count all raise. -/
def readOutcomeCard (ext : Externals) (sessionId : String) (event : SessionEventRow) :
    Except PyExc OutcomeCard :=
  match storedPayload ext event.payload with
  | .error e => .error e
  | .ok (.obj fields) =>
      match textField fields "status", textField fields "summary",
        (Fields.get? fields "evidence_event_count").bind (laxInt ext.intOfText),
        textField fields "replay_digest" with
      | some status, some summary, some (.ofNat count), some digest =>
          .ok ⟨event.eventId, sessionId, event.eventOrder, status, summary, count, digest,
            createdAtText event⟩
      | _, _, _, _ => .error .validationError
  | .ok _ => .error .typeError

/-- The outcome event with the largest order. -/
def latestOutcome (db : Db) (sessionId : String) : Option SessionEventRow :=
  (db.eventsOf sessionId).reverse.find? fun e => e.kind == .internal .outcome

def getOutcomeCard (ext : Externals) (db : Db) (sessionId : String) :
    Except PyExc (Option OutcomeCard) :=
  match latestOutcome db sessionId with
  | none => .ok none
  | some event => (readOutcomeCard ext sessionId event).map some

/-- `summary.strip() or f"Session ended with status {status}."`. -/
def outcomeText (status : Status) (summary : PyStr) : PyStr :=
  if (strip summary).codePoints.isEmpty then
    .text ("Session ended with status " ++ status.value ++ ".")
  else strip summary

def outcomePayload (status : Status) (summary : PyStr) (replay : ReplaySnapshot) : Fields :=
  [(.text "content", .str (outcomeText status summary)),
   (.text "summary", .str (outcomeText status summary)),
   (.text "status", .text status.value),
   (.text "evidence_event_count", .int replay.eventCount),
   (.text "replay_digest", .text replay.digest)]

/-- The event `create_outcome_card` appends. -/
def outcomeEvent (sessionId : String) (status : Status) (summary : PyStr)
    (replay : ReplaySnapshot) (now : Instant) : NewEvent where
  sessionId := sessionId
  actorUsername := "system"
  actorAgentId := none
  kind := .internal .outcome
  visibility := .localOnly
  payload := some (.obj (outcomePayload status summary replay))
  createdAt := now

/-- `create_outcome_card`. `_load_event` reads back the row that was just inserted. -/
def createOutcomeCard (ext : Externals) (db : Db) (sessionId : String) (summary : PyStr)
    (now : Instant) : Db × Except PyExc OutcomeCard :=
  match getOutcomeCard ext db sessionId with
  | .error e => (db, .error e)
  | .ok (some existing) => (db, .ok existing)
  | .ok none =>
      match db.session? sessionId with
      | none => (db, .error .valueError)
      | some row =>
          if isTerminalState row.status = false then (db, .error .valueError)
          else
            match replaySession ext db sessionId none with
            | .error e => (db, .error e)
            | .ok replay =>
                let ev := outcomeEvent sessionId row.status summary replay now
                match appendSessionEvent ext db ev with
                | (db', .ok _) => (db', readOutcomeCard ext sessionId (eventRow db ev))
                | (db', .error e) => (db', .error e)

/-- `payload.get("outcome") or payload.get("message") or payload.get("content") or ...`,
as text. -/
def outcomeSummary (ext : Externals) (payload : Fields) : PyStr :=
  let value := Fields.firstTruthy (payload.getD "outcome" .null)
    (Fields.firstTruthy (payload.getD "message" .null)
      (Fields.firstTruthy (payload.getD "content" .null)
        (.text "Session completed with a signed final result.")))
  match value with
  | .str s => s
  | v => .text (ext.strOf v)

/-- Outcome derivation inside ingestion: any exception becomes an audit record. -/
def deriveOutcomeCard (ext : Externals) (db : Db) (sessionId : String) (payload : Fields)
    (now : Instant) : Db :=
  match createOutcomeCard ext db sessionId (outcomeSummary ext payload) now with
  | (db', .ok _) => db'
  | (db', .error _) =>
      db'.writeAuditEvent "outcome_card_error" "Failed to derive local outcome card"
        (some sessionId)

theorem getOutcomeCard_eq_none {ext : Externals} {db : Db} {sid : String} :
    getOutcomeCard ext db sid = .ok none ↔ latestOutcome db sid = none := by
  unfold getOutcomeCard
  cases latestOutcome db sid with
  | none => simp
  | some event =>
      dsimp only
      cases readOutcomeCard ext sid event <;> simp [Except.map]

theorem getOutcomeCard_eq_some {ext : Externals} {db : Db} {sid : String} {card : OutcomeCard} :
    getOutcomeCard ext db sid = .ok (some card) ↔
      ∃ event, latestOutcome db sid = some event ∧ readOutcomeCard ext sid event = .ok card := by
  unfold getOutcomeCard
  cases latestOutcome db sid with
  | none => simp
  | some event =>
      dsimp only
      cases hread : readOutcomeCard ext sid event <;> simp [Except.map, hread]

theorem createOutcomeCard_of_card {ext : Externals} {db : Db} {sid : String} {card : OutcomeCard}
    (h : getOutcomeCard ext db sid = .ok (some card)) (summary : PyStr) (now : Instant) :
    createOutcomeCard ext db sid summary now = (db, .ok card) := by
  rw [createOutcomeCard, h]

/-- An outcome event is always accepted by a stored session. -/
theorem appendSessionEvent_outcomeEvent (ext : Externals) {db : Db} {sid : String}
    {row : SessionRow} (h : db.session? sid = some row) (status : Status) (summary : PyStr)
    (replay : ReplaySnapshot) (now : Instant) :
    ∃ db' result, appendSessionEvent ext db (outcomeEvent sid status summary replay now) =
        (db', .ok result) ∧
      Appended db (outcomeEvent sid status summary replay now) db' := by
  have hpayload : checkEventPayload ext (outcomeEvent sid status summary replay now).payload =
      .ok () := rfl
  simp only [appendSessionEvent, outcomeEvent, insertEvent] at hpayload ⊢
  rw [hpayload]
  simp only [h]
  exact ⟨_, _, rfl, sameTables_writeAuditEvent ..⟩

/-- What creating a card can do: nothing but read a card, or append one outcome event
with the digest of the whole evidence to a session that has none, and read it back. -/
theorem createOutcomeCard_cases (ext : Externals) (db : Db) (sid : String) (summary : PyStr)
    (now : Instant) :
    ((createOutcomeCard ext db sid summary now).1 = db ∧
      ∀ card, (createOutcomeCard ext db sid summary now).2 = .ok card →
        getOutcomeCard ext db sid = .ok (some card)) ∨
    ∃ (status : Status) (replay : ReplaySnapshot), latestOutcome db sid = none ∧
      replaySession ext db sid none = .ok replay ∧
      Appended db (outcomeEvent sid status summary replay now)
        (createOutcomeCard ext db sid summary now).1 ∧
      (createOutcomeCard ext db sid summary now).2 =
        readOutcomeCard ext sid (eventRow db (outcomeEvent sid status summary replay now)) := by
  unfold createOutcomeCard
  split
  · exact .inl ⟨rfl, by simp⟩
  · rename_i existing hget
    exact .inl ⟨rfl, by simp [hget]⟩
  · rename_i hget
    split
    · exact .inl ⟨rfl, by simp⟩
    · rename_i row hrow
      split
      · exact .inl ⟨rfl, by simp⟩
      · split
        · exact .inl ⟨rfl, by simp⟩
        · rename_i replay hreplay
          obtain ⟨db', result, hres, ha⟩ :=
            appendSessionEvent_outcomeEvent ext hrow row.status summary replay now
          dsimp only
          rw [hres]
          exact .inr ⟨_, _, getOutcomeCard_eq_none.mp hget, hreplay, ha, rfl⟩

theorem deriveOutcomeCard_cases (ext : Externals) (db : Db) (sid : String) (payload : Fields)
    (now : Instant) :
    SameTables db (deriveOutcomeCard ext db sid payload now) ∨
    ∃ ev : NewEvent, ev.sessionId = sid ∧ ev.sequence = none ∧ ev.kind = .internal .outcome ∧
      Appended db ev (deriveOutcomeCard ext db sid payload now) := by
  have h : SameTables db (createOutcomeCard ext db sid (outcomeSummary ext payload) now).1 ∨
      ∃ ev : NewEvent, ev.sessionId = sid ∧ ev.sequence = none ∧ ev.kind = .internal .outcome ∧
        Appended db ev (createOutcomeCard ext db sid (outcomeSummary ext payload) now).1 := by
    rcases createOutcomeCard_cases ext db sid (outcomeSummary ext payload) now with
      ⟨hdb, -⟩ | ⟨status, replay, -, -, ha, -⟩
    · exact .inl (by rw [hdb]; exact .refl db)
    · exact .inr ⟨_, rfl, rfl, rfl, ha⟩
  unfold deriveOutcomeCard
  rcases hres : createOutcomeCard ext db sid (outcomeSummary ext payload) now with ⟨db', _ | _⟩ <;>
    rw [hres] at h
  · rcases h with hs | ⟨ev, hsid, hsequence, hkind, ha⟩
    · exact .inl (hs.trans (sameTables_writeAuditEvent ..))
    · exact .inr ⟨ev, hsid, hsequence, hkind, ha.trans (sameTables_writeAuditEvent ..)⟩
  · exact h

end Kin.Session
