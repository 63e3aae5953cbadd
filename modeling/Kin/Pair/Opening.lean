import Kin.Pair.View

/-!
The request that opens the session. The row either node creates for it has the
same agents and the same turn limit, so both start from one ledger; only the
initiator's row is read from the payload as to who receives.
-/

namespace Kin.Pair

open Kin.Py Kin.Lib Kin.Schemas Kin.Session Kin.Storage Kin.Audit Kin.Node Kin.Transport

def openedLedger (p : Parties) (row : SessionRow) (envelope : SessionEnvelope) : Ledger :=
  (ledgerOf p row []).record (letterOf .initiator envelope)

def Asks (p : Parties) (body : Fields) (ledger : Ledger) : Prop :=
  ∃ envelope, Genuine p .initiator body envelope ∧ envelope.kind = .taskRequest ∧
    envelope.sequence = 1 ∧ ∃ ctx db row, ctx.ext = p.ext ∧ Creates ctx db envelope row ∧
      ledger = openedLedger p row envelope

structure Absent (p : Parties) (me : Side) (db : Db) : Prop where
  identity : db.myUsername = p.name me
  log : LogInvariant db
  session : db.session? p.sessionId = none

variable {p : Parties} {me : Side} {ctx ctx' : IngestContext} {db db' : Db} {body : Fields}
  {envelope : SessionEnvelope} {row : SessionRow}

/-! ### One row on two nodes -/

/-- The ledger does not depend on the node that creates the row. -/
theorem creates_elsewhere (hext : ctx'.ext = ctx.ext) {receiver : String}
    (hreceiver : receiverOf db' envelope = .text receiver) (h : Creates ctx db envelope row) :
    ∃ row', Creates ctx' db' envelope row' ∧
      openedLedger p row' envelope = openedLedger p row envelope := by
  obtain ⟨type, htype, hrow⟩ := h
  exact ⟨_, ⟨type, htype, bootstrapRow_elsewhere hext hreceiver hrow⟩, rfl⟩

theorem Absent.eventsOf (h : Absent p me db) : db.eventsOf p.sessionId = [] :=
  h.log.stored _ h.session

/-! ### Opening the session -/

theorem Absent.of_commits (h : Absent p me db) {base stored state participants} {s : Status}
    {now : Instant} (haccepts : Accepts ctx db body envelope base stored state participants)
    (hcommits : Commits base envelope s now db') (hsid : envelope.sessionId = p.sessionId)
    (hactor : envelope.actorUsername = p.name .initiator)
    (hreceiver : asText (receiverOf db envelope) = some (p.name .receiver)) :
    Creates ctx db envelope stored ∧ envelope.kind = .taskRequest ∧ envelope.sequence = 1 ∧
      Holds p me db' s (openedLedger p stored envelope) := by
  have hidentity : db'.myUsername = p.name me := by
    rw [← h.identity, Db.myUsername, hcommits.identity, haccepts.loaded.base_identity,
      Db.myUsername]
  have hlog := h.log.of_commits haccepts hcommits
  have hseq := sequence_of_accepts h.log haccepts
  rw [sequencesOf, hsid, h.eventsOf] at hseq
  have hself := hcommits.session?_self haccepts.loaded.base_session?
  have hevents := haccepts.loaded.base_eventsOf p.sessionId
  rw [h.eventsOf] at hevents
  cases haccepts.loaded with
  | stored hrow =>
      rw [hsid, h.session] at hrow
      cases hrow
  | created hnone hkind hcreates _ =>
      have hnew := newRow_of_creates hcreates
      rw [hsid] at hself
      refine ⟨hcreates, hkind, hseq, hidentity, hlog, _, hself, ⟨?_, ?_, ?_⟩, rfl, ?_⟩
      · rw [setStatus_sessionId, acceptedRow_sessionId, hnew.sessionId]
        exact hsid
      · exact ((acceptedRow_initiatorUsername envelope stored).trans hnew.initiator).trans hactor
      · exact (acceptedRow_receiverUsername stored).trans
          (receiverUsername_of_creates hcreates hreceiver)
      · rw [ledgerOf_commits hcommits hsid hactor, hevents, openedLedger]

theorem finalState_opened (state : SessionState) (hkind : envelope.kind = .taskRequest)
    (participants : Dict String ParticipantInfo) :
    (finalState db state envelope participants).status =
      if envelope.actorUsername = db.myUsername then .sent else .peerReview := by
  rw [finalState_status, advanceToReview_eq, hkind]
  by_cases hown : envelope.actorUsername = db.myUsername <;>
    simp [targetStatus, peerKindTransition, settledStatus, hown]

/-- The initiator's own request opens the session as `sent`, and asks the
receiver for the same ledger. -/
theorem Absent.opens (h : Absent p .initiator db) (hknows : Knows p .initiator ctx)
    (htakes : Takes ctx db body envelope) (hsid : envelope.sessionId = p.sessionId)
    (hactor : envelope.actorUsername = p.name .initiator)
    (hpeer : envelope.payload.getD "peer_username" (.text "") = .text (p.name .receiver)) :
    ∃ ledger, Asks p body ledger ∧
      Holds p .initiator (ingestEnvelope ctx db body).db .sent ledger := by
  obtain ⟨base, stored, state, participants, haccepts⟩ := htakes
  have hown : envelope.actorUsername = db.myUsername := by rw [hactor, h.identity]
  have hreceiver : asText (receiverOf db envelope) = some (p.name .receiver) := by
    rw [receiverOf, if_pos hown, hpeer]
    rfl
  obtain ⟨db', hcommits, hres⟩ := ingestEnvelope_of_accepts haccepts (.inr hown)
  obtain ⟨hcreates, hkind, hseq, hholds⟩ :=
    h.of_commits haccepts hcommits hsid hactor hreceiver
  rw [finalState_opened state hkind, if_pos hown] at hholds
  rw [hres]
  refine ⟨openedLedger p stored envelope, ⟨envelope, ?_, hkind, hseq, ctx, db, stored,
    hknows.ext, hcreates, rfl⟩, hholds⟩
  exact genuine_of_verified haccepts.verified hknows hsid hactor

/-- The receiver accepts the request and holds the session in `peer_review`. -/
theorem Absent.receives (h : Absent p .receiver db) (hknows : Knows p .initiator ctx)
    {ledger : Ledger} (hasks : Asks p body ledger) :
    (∃ envelope, Takes ctx db body envelope) ∧
      Holds p .receiver (ingestEnvelope ctx db body).db .peerReview ledger ∧
      ∃ ack, (ingestEnvelope ctx db body).exit = .ok ack ∧ ack.status = .delivered := by
  obtain ⟨envelope, hgenuine, hkind, hseq, ctx0, db0, row0, hext, hcreates0, rfl⟩ := hasks
  have hread := readFrom_of_validateEnvelope hgenuine.valid
  have hother : envelope.actorUsername ≠ db.myUsername := by
    rw [hgenuine.actor, h.identity]
    exact p.distinct
  have hreceiver : receiverOf db envelope = .text (p.name .receiver) := by
    rw [receiverOf, if_neg hother, h.identity]
  have hnone : db.session? envelope.sessionId = none := by rw [hgenuine.session, h.session]
  have hkey : ctx.getPublicKey (.text envelope.actorUsername) = some (p.publicKey .initiator) := by
    rw [hgenuine.actor]
    exact hknows.key
  obtain ⟨row, hcreates, hledger⟩ :=
    creates_elsewhere (p := p) (hknows.ext.trans hext.symm) hreceiver hcreates0
  have haccepts : Accepts ctx db body envelope (db.addSession row) row (bootstrapState row envelope)
      (bootstrapState row envelope).participants :=
    { verified := by
        refine verified?_eq_some.mpr ⟨_, _, openSession_of_new hread hnone hkind hkey, ?_⟩
        refine verifyAndBuildEnvelope_eq_ok.mpr ⟨hgenuine.valid, ?_, ?_, ?_, hgenuine.signed, _,
          hkey, ?_⟩
        · rw [hread.sessionId]
          rfl
        · rw [hknows.ext]
          exact hgenuine.hash
        · exact Dict.get?_set_self ..
        · rw [hknows.ext]
          exact hgenuine.verifies
      fresh := by
        refine storedEvent?_next h.log ?_
        rw [sequencesOf, hgenuine.session, h.eventsOf]
        exact hseq
      timely := fun row hrow => by
        rw [hnone] at hrow
        cases hrow
      loaded := .created hnone hkind hcreates (by rw [hreceiver]; rfl)
      admitted := by
        rw [advanceToReview_bootstrapState]
        exact admitted_bootstrapState (newRow_of_creates hcreates) hkind hseq }
  obtain ⟨db', hcommits, hres⟩ := ingestEnvelope_of_accepts haccepts
    (.inl (by rw [hkind]; decide))
  obtain ⟨-, -, -, hholds⟩ := h.of_commits haccepts hcommits hgenuine.session
    hgenuine.actor (by rw [hreceiver]; rfl)
  rw [finalState_opened _ hkind, if_neg hother, hledger] at hholds
  rw [hres]
  exact ⟨⟨envelope, _, _, _, _, haccepts⟩, hholds, deliveredAck_ok hread ctx⟩

end Kin.Pair
