import Kin.Transport.IngestMoves
import Kin.Transport.Outbound

/-!
Atomicity of rejection. Every exit with a rejection lies before the first write,
except one: a task request that opens a session is checked for its sequence only
after the session row was committed.
-/

namespace Kin.Transport

open Kin.Py Kin.Lib Kin.Schemas Kin.Session Kin.Storage Kin.Audit Kin.Artifacts

/-! ### Acknowledgements of a verified body -/

theorem status_of_acknowledgement {ext : Externals} {sid sequence hash : Json} {status : AckStatus}
    {time : String} {code : Option ErrorCode} {message : Option PyStr}
    {ack : TransportAcknowledgement}
    (h : transportAcknowledgement ext sid sequence hash status time code message = .ok ack) :
    ack.status = status := by
  unfold transportAcknowledgement at h
  split at h
  · split at h
    · cases h
      rfl
    · cases h
  · cases h

theorem errorCode_of_acknowledgement {ext : Externals} {sid sequence hash : Json}
    {status : AckStatus} {time : String} {code : Option ErrorCode} {message : Option PyStr}
    {ack : TransportAcknowledgement}
    (h : transportAcknowledgement ext sid sequence hash status time code message = .ok ack) :
    ack.errorCode = code := by
  unfold transportAcknowledgement at h
  split at h
  · split at h
    · cases h
      rfl
    · cases h
  · cases h

theorem acknowledgement_of_readFrom (ext : Externals) {raw : Fields} {envelope : SessionEnvelope}
    (hread : ReadFrom raw envelope) (status : AckStatus) (time : String) (code : Option ErrorCode)
    (message : Option PyStr) :
    ∃ ack, transportAcknowledgement ext (rawSessionId raw) (rawSequence raw)
      (.text envelope.contentHash) status time code message = .ok ack := by
  have hpos : (1 : Int) ≤ envelope.sequence := by
    have := envelope.sequence_pos
    omega
  simp only [transportAcknowledgement, hread.sessionId, hread.sequence, asStr, laxInt, if_pos hpos]
  exact ⟨_, rfl⟩

theorem deliveredAck_ok {raw : Fields} {envelope : SessionEnvelope} (hread : ReadFrom raw envelope)
    (ctx : IngestContext) :
    ∃ ack, deliveredAck ctx raw envelope = .ok ack ∧ ack.status = .delivered := by
  obtain ⟨ack, h⟩ := acknowledgement_of_readFrom ctx.ext hread .delivered (isoNow ctx.now)
    none none
  exact ⟨ack, h, status_of_acknowledgement h⟩

theorem rejectVerified_ok {raw : Fields} {envelope : SessionEnvelope}
    (hread : ReadFrom raw envelope) (ctx : IngestContext) (code : Option ErrorCode)
    (message : Option PyStr) :
    ∃ ack, rejectVerified ctx raw envelope code message = .ok ack ∧ ack.status = .rejected := by
  obtain ⟨ack, h⟩ := acknowledgement_of_readFrom ctx.ext hread .rejected (isoNow ctx.now)
    code message
  exact ⟨ack, h, status_of_acknowledgement h⟩

/-! ### Atomicity -/

/-- The tables that carry sessions are as before, up to the lazy `mark_expired`
of a session whose `expires_at` has passed. -/
structure Unchanged (now : Instant) (db db' : Db) : Prop where
  sessionEvents : db'.sessionEvents = db.sessionEvents
  artifacts : db'.artifacts = db.artifacts
  approvals : db'.approvals = db.approvals
  outboundEnvelopeQueue : db'.outboundEnvelopeQueue = db.outboundEnvelopeQueue
  sessions : db'.sessions = db.sessions ∨
    ∃ sid row, db.session? sid = some row ∧ isOverdue row now = true ∧
      db'.sessions = Rows.modify SessionRow.sessionId db.sessions sid (setStatus .expired now)

def RejectionAtomic (ctx : IngestContext) (db : Db) (raw : Fields) : Prop :=
  ∀ ack, (ingestEnvelope ctx db raw).exit = .ok ack → ack.status = .rejected →
    Unchanged ctx.now db (ingestEnvelope ctx db raw).db

/-- The body opens a session with a sequence other than 1: it verifies, no
session and no event under its key are stored, it asks for a valid session type,
every column of the new row can be bound, and its receiver is a string. -/
def orphansSession (ctx : IngestContext) (db : Db) (raw : Fields) : Bool :=
  match verified? ctx db raw with
  | none => false
  | some envelope =>
      (db.session? envelope.sessionId).isNone &&
        (storedEvent? db envelope.sessionId envelope.actorUsername envelope.sequence).isNone &&
        (match SessionType.ofJson
            (envelope.payload.getD "collaboration_mode" (.text "ask")) with
          | none => false
          | some type => (bootstrapRow ctx db type envelope).isOk) &&
        (asText (receiverOf db envelope)).isSome && decide (envelope.sequence ≠ 1)

theorem unchanged_of_expires {now : Instant} {db db' : Db} (h : Expires now db db') :
    Unchanged now db db' := by
  rcases h with h | ⟨sid, row, hrow, hdue, h⟩
  · exact ⟨h.sessionEvents, h.artifacts, h.approvals, h.outboundEnvelopeQueue, .inl h.sessions⟩
  · have hsame : SameTables (db.updateSession sid (setStatus .expired now)) db' := h
    exact ⟨hsame.sessionEvents, hsame.artifacts, hsame.approvals, hsame.outboundEnvelopeQueue,
      .inr ⟨sid, row, hrow, (Bool.and_eq_true_iff.mp hdue).1, hsame.sessions⟩⟩

theorem orphansSession_eq_true {ctx : IngestContext} {db : Db} {raw : Fields} :
    orphansSession ctx db raw = true ↔
      ∃ envelope row, verified? ctx db raw = some envelope ∧ Opens ctx db envelope row ∧
        (asText (receiverOf db envelope)).isSome = true ∧ envelope.sequence ≠ 1 := by
  unfold orphansSession
  cases hver : verified? ctx db raw with
  | none => simp
  | some envelope =>
      simp only [Bool.and_eq_true, Option.isNone_iff_eq_none, decide_eq_true_eq]
      constructor
      · rintro ⟨⟨⟨⟨habsent, hfresh⟩, hrow⟩, hreceiver⟩, hseq⟩
        split at hrow
        · cases hrow
        rename_i type hmode
        cases hboot : bootstrapRow ctx db type envelope with
        | error e =>
            rw [hboot] at hrow
            cases hrow
        | ok row =>
            exact ⟨envelope, row, rfl, ⟨habsent, hfresh, type, hmode, hboot⟩, hreceiver, hseq⟩
      · rintro ⟨e, row, he, ⟨habsent, hfresh, type, hmode, hboot⟩, hreceiver, hseq⟩
        cases he
        refine ⟨⟨⟨⟨habsent, hfresh⟩, ?_⟩, hreceiver⟩, hseq⟩
        rw [hmode]
        simp only [hboot]
        rfl

/-- Under the condition the row is committed and the body is then rejected. -/
theorem ingestCommit_of_opens {ctx : IngestContext} {db : Db} {raw : Fields}
    {envelope : SessionEnvelope} {row : SessionRow} (hver : verified? ctx db raw = some envelope)
    (hopens : Opens ctx db envelope row)
    (hreceiver : (asText (receiverOf db envelope)).isSome = true) (hseq : envelope.sequence ≠ 1) :
    ∃ message, ingestCommit ctx db raw = (db.addSession row,
      .error (rejectVerified ctx raw envelope (some .outOfOrderSequence) (some (.text message)))) := by
  have hkind := verified_isTaskRequest hver hopens.absent
  have hafter : afterExpiry ctx db envelope.sessionId = db := by
    simp [afterExpiry, hopens.absent]
  have hloaded := Loaded.created hopens.absent hkind hopens.creates hreceiver
  obtain ⟨message, hred⟩ :=
    processPeerEnvelope_bootstrapState (newRow_of_creates hopens.creates) hkind hseq
  refine ⟨message, ?_⟩
  rw [ingestCommit_of_verified hver, hafter, ingestVerified_of_loaded hopens.fresh hloaded rfl]
  simp only [ingestLoaded, advanceToReview_bootstrapState, hred, ReducerResult.refuse, if_true,
    Option.map_some]

/-- After the commit no exit is a rejection. -/
theorem handleOffer_exit (ctx : IngestContext) (db : Db) (raw : Fields) (committed : Committed) :
    (∃ e, (handleOffer ctx db raw committed).exit = .error e) ∨
      (handleOffer ctx db raw committed).exit = deliveredAck ctx raw committed.envelope := by
  unfold handleOffer
  simp only
  split
  · exact .inl ⟨_, rfl⟩
  · exact .inr rfl
  split
  · exact .inl ⟨_, rfl⟩
  split
  · exact .inr rfl
  split
  · exact .inl ⟨_, rfl⟩
  · exact .inr rfl

theorem not_rejected_of_committed {ctx : IngestContext} {db db' : Db} {raw : Fields}
    {committed : Committed} (heq : ingestCommit ctx db raw = (db', .ok committed))
    {ack : TransportAcknowledgement} (hexit : (ingestEnvelope ctx db raw).exit = .ok ack) :
    ack.status = .delivered := by
  simp only [ingestEnvelope, heq] at hexit
  have hdelivered : deliveredAck ctx raw committed.envelope = .ok ack := by
    split at hexit
    · rcases handleOffer_exit ctx db' raw committed with ⟨e, he⟩ | he
      · rw [he] at hexit
        cases hexit
      · exact he.symm.trans hexit
    · exact hexit
  exact status_of_acknowledgement hdelivered

/-- A request that is refused for its sequence leaves its session row behind. -/
theorem not_rejectionAtomic_of_orphansSession {ctx : IngestContext} {db : Db} {raw : Fields}
    (horphan : orphansSession ctx db raw = true) : ¬RejectionAtomic ctx db raw := by
  intro hatomic
  obtain ⟨envelope, row, hver, hopens, hreceiver, hseq⟩ := orphansSession_eq_true.mp horphan
  obtain ⟨message, heq⟩ := ingestCommit_of_opens hver hopens hreceiver hseq
  obtain ⟨ack, hack, hstatus⟩ := rejectVerified_ok (readFrom_of_verified hver) ctx
    (some .outOfOrderSequence) (some (.text message))
  have hres : ingestEnvelope ctx db raw =
      { db := db.addSession row,
        exit := rejectVerified ctx raw envelope (some .outOfOrderSequence)
          (some (.text message)) } := by
    simp only [ingestEnvelope, heq]
  have hunchanged := hatomic ack (by rw [hres]; exact hack) hstatus
  rw [hres] at hunchanged
  -- a row was added, and expiry keeps the number of rows
  rcases hunchanged.sessions with hsame | ⟨sid, r, -, -, hsame⟩
  · have hlength := congrArg List.length hsame
    simp [Db.addSession] at hlength
  · have hlength := congrArg List.length hsame
    simp [Db.addSession, Rows.modify] at hlength

/-- Rejection is atomic exactly when the body does not open a session with a
sequence other than 1. -/
theorem rejectionAtomic_iff (ctx : IngestContext) (db : Db) (raw : Fields) :
    RejectionAtomic ctx db raw ↔ orphansSession ctx db raw = false := by
  constructor
  · intro hatomic
    by_contra horphan
    exact not_rejectionAtomic_of_orphansSession (by simpa using horphan) hatomic
  · intro horphan ack hexit hstatus
    rcases ingestCommit_cases ctx db raw with ⟨db', exit, heq, hexp⟩ |
      ⟨envelope, newRow, exit, hver, hopens, heq, hcase⟩ |
      ⟨envelope, base, stored, state, participants, db', haccepts, heq, hcommits⟩
    · simp only [ingestEnvelope, heq]
      exact unchanged_of_expires hexp
    · rcases hcase with ⟨hreceiver, rfl⟩ | ⟨hreceiver, hseq, -⟩
      · simp only [ingestEnvelope, heq] at hexit
        cases hexit
      · rw [orphansSession_eq_true.mpr ⟨envelope, newRow, hver, hopens, hreceiver, hseq⟩] at horphan
        cases horphan
    · rw [not_rejected_of_committed heq hexit] at hstatus
      cases hstatus

/-- A request of `alice` with sequence 2. -/
theorem second_request_orphans_session : ¬RejectionAtomic Sample.context Sample.bobDb
    (Sample.envelope "s1" "alice" "scout" 2 .taskRequest Sample.request) :=
  not_rejectionAtomic_of_orphansSession (by decide +kernel)

end Kin.Transport
