import Kin.Transport.Ingest

/-!
What `ingest_envelope` does to the database, stated once. A call makes at most
these moves: the lazy expiry of an overdue session, the creation of a session
row, the commit of a verified envelope the reducer admits, and the storing of an
offered artifact. The results about whole runs follow the moves and never look
into the pipeline again.
-/

namespace Kin.Transport

open Kin.Py Kin.Lib Kin.Schemas Kin.Session Kin.Storage Kin.Audit Kin.Artifacts

/-! ### A structurally valid body

Validation is strict, so the fields read before it are the envelope's own. -/

/-- The fields of the body that ingestion reads directly are those of `envelope`. -/
structure ReadFrom (raw : Fields) (envelope : SessionEnvelope) : Prop where
  sessionId : rawSessionId raw = .text envelope.sessionId
  sequence : rawSequence raw = .int envelope.sequence
  actorUsername : rawActorUsername raw = .text envelope.actorUsername
  actorAgentId : rawActorAgentId raw = .text envelope.actorAgentId
  kind : rawKind raw = .text envelope.kind.value
  payload : validEventFields envelope.payload = true

theorem asText_eq_some {v : Json} {s : String} (h : asText v = some s) : v = .text s := by
  unfold asText at h
  split at h
  · cases h; rfl
  · cases h

theorem asStr_eq_some {v : Json} {s : PyStr} (h : asStr v = some s) : v = .str s := by
  unfold asStr at h
  split at h
  · cases h; rfl
  · cases h

theorem getD_of_textField {raw : Fields} {key s : String} (h : textField raw key = some s)
    (default : Json) : Fields.getD raw key default = .text s := by
  obtain ⟨v, hv, hs⟩ := Option.bind_eq_some_iff.mp h
  rw [Fields.getD, hv, Option.getD_some, asText_eq_some hs]

theorem getD_of_strictSequence {raw : Fields} {n : { n : Nat // 1 ≤ n }}
    (h : strictSequence raw = some n) : rawSequence raw = .int n.1 := by
  unfold strictSequence at h
  split at h
  · rename_i m hm
    split at h
    · rename_i hpos
      cases h
      have hm' : (m.toNat : Int) = m := Int.toNat_of_nonneg (by omega)
      rw [rawSequence, Fields.getD, hm, Option.getD_some, hm']
    · cases h
  · cases h

theorem validEventFields_of_payloadField {raw payload : Fields}
    (h : payloadField raw = some payload) : validEventFields payload = true := by
  unfold payloadField at h
  split at h
  · split at h
    · cases h; assumption
    · cases h
  · cases h

theorem readFrom_of_validateEnvelope {raw : Fields} {envelope : SessionEnvelope}
    (h : validateEnvelope raw = some envelope) : ReadFrom raw envelope := by
  simp only [validateEnvelope, bind, Option.bind_eq_some_iff, pure, Option.some.injEq] at h
  obtain ⟨-, -, -, -, -, -, sid, hsid, seq, hseq, actor, hactor, agent, hagent, _, _, -, _, kind,
    ⟨text, htext, hkind⟩, _, _, -, _, payload, hpayload, _, _, rfl⟩ := h
  exact
    { sessionId := getD_of_textField hsid _
      sequence := getD_of_strictSequence hseq
      actorUsername := getD_of_textField hactor _
      actorAgentId := getD_of_textField hagent _
      kind := by rw [MessageKind.value_of_ofText hkind]; exact getD_of_textField htext _
      payload := validEventFields_of_payloadField hpayload }

/-- The payload of the envelope is the body's. -/
theorem payload_of_validateEnvelope {raw : Fields} {envelope : SessionEnvelope}
    (h : validateEnvelope raw = some envelope) :
    raw.get? "payload" = some (.obj envelope.payload) := by
  simp only [validateEnvelope, bind, Option.bind_eq_some_iff, pure, Option.some.injEq] at h
  obtain ⟨-, -, -, -, -, -, _, _, _, _, _, _, _, _, _, _, -, _, _, _, _, _, -, _, payload, hpayload,
    _, _, rfl⟩ := h
  unfold payloadField at hpayload
  split at hpayload
  · rename_i fields hfields
    split at hpayload
    · cases hpayload
      exact hfields
    · cases hpayload
  · cases hpayload

/-! ### Session lookup and verification -/

section Lookup

variable {ctx : IngestContext} {db : Db} {raw : Fields} {envelope : SessionEnvelope}
  {row : SessionRow}

/-- The envelope the body verifies to against the stored session, if it does. -/
def verified? (ctx : IngestContext) (db : Db) (raw : Fields) : Option SessionEnvelope :=
  match openSession ctx db raw with
  | (_, .ok opened) =>
      (verifyAndBuildEnvelope ctx.ext raw ctx.getPublicKey (asText (rawSessionId raw))
        opened.participants).toOption
  | (_, .error _) => none

def afterExpiry (ctx : IngestContext) (db : Db) (sessionId : String) : Db :=
  match db.session? sessionId with
  | some row => lazyExpire ctx db row
  | none => db

theorem openSession_of_stored (h : ReadFrom raw envelope)
    (hrow : db.session? envelope.sessionId = some row) :
    openSession ctx db raw = (lazyExpire ctx db row, .ok ⟨some row, participantMap row raw⟩) := by
  simp [openSession, sessionKey, h.sessionId, sqlText, hrow, h.actorUsername, Json.hashable]

theorem openSession_of_new (h : ReadFrom raw envelope)
    (hnone : db.session? envelope.sessionId = none) (hkind : envelope.kind = .taskRequest)
    {key : PublicKey} (hkey : ctx.getPublicKey (.text envelope.actorUsername) = some key) :
    openSession ctx db raw =
      (db, .ok ⟨none, Dict.empty.set envelope.actorUsername envelope.actorAgentId⟩) := by
  simp [openSession, sessionKey, h.sessionId, sqlText, hnone, h.actorUsername, Json.hashable,
    h.kind, hkind, hkey, setRawEntry, h.actorAgentId, asText]

/-- A body that verifies without a stored session is a task request. -/
theorem kind_of_openSession_new (h : ReadFrom raw envelope)
    (hnone : db.session? envelope.sessionId = none) {db' : Db} {opened : Opened}
    (hopen : openSession ctx db raw = (db', .ok opened)) : envelope.kind = .taskRequest := by
  by_contra hkind
  simp [openSession, sessionKey, h.sessionId, sqlText, hnone, h.kind, hkind, asText] at hopen

theorem verified?_eq_some : verified? ctx db raw = some envelope ↔
    ∃ db' opened, openSession ctx db raw = (db', .ok opened) ∧
      verifyAndBuildEnvelope ctx.ext raw ctx.getPublicKey (asText (rawSessionId raw))
        opened.participants = .ok envelope := by
  unfold verified?
  constructor
  · intro h
    split at h
    · rename_i db' opened hopen
      refine ⟨db', opened, hopen, ?_⟩
      cases hv : verifyAndBuildEnvelope ctx.ext raw ctx.getPublicKey (asText (rawSessionId raw))
          opened.participants with
      | error r => simp [hv, Except.toOption] at h
      | ok e =>
          rw [hv] at h
          cases h
          rfl
    · cases h
  · rintro ⟨db', opened, hopen, hv⟩
    simp only [hopen, hv]
    rfl

/-- A body that verifies is structurally valid. -/
theorem validateEnvelope_of_verified (h : verified? ctx db raw = some envelope) :
    validateEnvelope raw = some envelope := by
  obtain ⟨db', opened, -, hv⟩ := verified?_eq_some.mp h
  exact (verifyAndBuildEnvelope_eq_ok.mp hv).1

theorem readFrom_of_verified (h : verified? ctx db raw = some envelope) :
    ReadFrom raw envelope :=
  readFrom_of_validateEnvelope (validateEnvelope_of_verified h)

/-- After verification the call goes on with the stored row and the database
after lazy expiry. -/
theorem ingestCommit_of_verified (h : verified? ctx db raw = some envelope) :
    ingestCommit ctx db raw =
      ingestVerified ctx (afterExpiry ctx db envelope.sessionId) raw
        (db.session? envelope.sessionId) envelope := by
  have hread := readFrom_of_verified h
  obtain ⟨db', opened, hopen, hv⟩ := verified?_eq_some.mp h
  have hpair : db' = afterExpiry ctx db envelope.sessionId ∧
      opened.row = db.session? envelope.sessionId := by
    cases hrow : db.session? envelope.sessionId with
    | some row =>
        rw [openSession_of_stored hread hrow] at hopen
        cases hopen
        exact ⟨by simp [afterExpiry, hrow], rfl⟩
    | none =>
        obtain ⟨-, -, -, -, -, key, hkey, -⟩ := verifyAndBuildEnvelope_eq_ok.mp hv
        rw [openSession_of_new hread hrow (kind_of_openSession_new hread hrow hopen) hkey] at hopen
        cases hopen
        exact ⟨by simp [afterExpiry, hrow], rfl⟩
  simp only [ingestCommit, hopen, hv, hpair.1, hpair.2]

/-- A body that does not verify ends the call with the lookup's database. -/
theorem ingestCommit_of_unverified (h : verified? ctx db raw = none) :
    ∃ exit, ingestCommit ctx db raw = ((openSession ctx db raw).1, .error exit) := by
  unfold verified? at h
  unfold ingestCommit
  split at h
  · rename_i db' opened hopen
    rw [hopen]
    cases hv : verifyAndBuildEnvelope ctx.ext raw ctx.getPublicKey (asText (rawSessionId raw))
        opened.participants with
    | error r => exact ⟨rejectRaw ctx raw r.code r.message, by simp only [hv]⟩
    | ok e => simp [hv, Except.toOption] at h
  · rename_i db' exit hopen
    exact ⟨exit, by rw [hopen]⟩

end Lookup

/-! ### Lazy expiry -/

/-- Whether the lazy expiry of a session takes effect. -/
def expiresNow (row : SessionRow) (now : Instant) : Bool :=
  isOverdue row now && isValidTransition row.status .expired

/-- The tables are as before, up to the expiry of a session whose `expires_at`
has passed. -/
def Expires (now : Instant) (db db' : Db) : Prop :=
  SameTables db db' ∨
    ∃ sid row, db.session? sid = some row ∧ expiresNow row now = true ∧
      StatusWritten db sid .expired now db'

theorem Expires.trans_sameTables {now : Instant} {a b c : Db} (hab : Expires now a b)
    (hbc : SameTables b c) : Expires now a c := by
  rcases hab with hab | ⟨sid, row, hrow, hdue, hab⟩
  · exact .inl (hab.trans hbc)
  · exact .inr ⟨sid, row, hrow, hdue, hab.trans hbc⟩

theorem lazyExpire_cases (ctx : IngestContext) {db : Db} {row : SessionRow}
    (hrow : db.session? row.sessionId = some row) :
    (expiresNow row ctx.now = true ∧
      StatusWritten db row.sessionId .expired ctx.now (lazyExpire ctx db row)) ∨
    (expiresNow row ctx.now = false ∧ SameTables db (lazyExpire ctx db row)) := by
  unfold lazyExpire
  split
  · rename_i hdue
    rcases applyNodeCommandTransition_cases ctx.ext db row.sessionId .markExpired ctx.now with
      ⟨row', target, hr, ht, hvalid, hw, -⟩ | ⟨hsame, -, hno⟩
    · rw [hrow] at hr
      cases hr
      cases ht
      exact .inl ⟨by simp [expiresNow, hdue, hvalid], hw⟩
    · exact .inr ⟨by simp [expiresNow, hno row .expired hrow rfl], hsame⟩
  · rename_i hdue
    exact .inr ⟨by simp [expiresNow, hdue], .refl db⟩

theorem sessionId_of_session? {db : Db} {sid : String} {row : SessionRow}
    (h : db.session? sid = some row) : row.sessionId = sid :=
  Rows.key_of_lookup h

theorem expires_lazyExpire {ctx : IngestContext} {db : Db} {sid : String} {row : SessionRow}
    (hrow : db.session? sid = some row) : Expires ctx.now db (lazyExpire ctx db row) := by
  have hsid := sessionId_of_session? hrow
  subst hsid
  rcases lazyExpire_cases ctx hrow with ⟨hexp, hw⟩ | ⟨-, hsame⟩
  · exact .inr ⟨row.sessionId, row, hrow, hexp, hw⟩
  · exact .inl hsame

theorem expires_openSession (ctx : IngestContext) (db : Db) (raw : Fields) :
    Expires ctx.now db (openSession ctx db raw).1 := by
  unfold openSession
  split
  · exact .inl (.refl db)
  · rename_i key _
    split
    · split
      · exact .inl (.refl db)
      · split
        · exact .inl (.refl db)
        · split <;> exact .inl (.refl db)
    · rename_i row hrow
      obtain ⟨sid, -, hsid⟩ := Option.bind_eq_some_iff.mp hrow
      split <;> exact expires_lazyExpire hsid

theorem expires_afterExpiry (ctx : IngestContext) (db : Db) (sid : String) :
    Expires ctx.now db (afterExpiry ctx db sid) := by
  unfold afterExpiry
  split
  · exact expires_lazyExpire ‹_›
  · exact .inl (.refl db)

/-! ### The commit -/

section Commit

variable {ctx : IngestContext} {db : Db} {raw : Fields} {envelope : SessionEnvelope}

/-- The row after an acceptance: `recordAcceptance` on one row. -/
def acceptedRow (envelope : SessionEnvelope) (row : SessionRow) : SessionRow :=
  if envelope.kind = .acceptance then
    match asText (acceptingAgentId envelope) with
    | some agentId => if agentId = "" then row else { row with receiverAgentId := some agentId }
    | none => row
  else row

@[simp] theorem acceptedRow_sessionId (row : SessionRow) :
    (acceptedRow envelope row).sessionId = row.sessionId := by
  unfold acceptedRow
  split
  · split
    · split <;> rfl
    · rfl
  · rfl

@[simp] theorem acceptedRow_receiverUsername (row : SessionRow) :
    (acceptedRow envelope row).receiverUsername = row.receiverUsername := by
  unfold acceptedRow
  split
  · split
    · split <;> rfl
    · rfl
  · rfl

theorem acceptedRow_of_ne (h : envelope.kind ≠ .acceptance)
    (row : SessionRow) : acceptedRow envelope row = row := by
  rw [acceptedRow, if_neg h]

/-- `recordAcceptance` is the update of one row. -/
theorem recordAcceptance_eq (db : Db) (envelope : SessionEnvelope) :
    recordAcceptance db envelope = db.updateSession envelope.sessionId (acceptedRow envelope) := by
  unfold recordAcceptance
  split
  · rename_i hkind
    split
    · rename_i agentId hagent
      split
      · rename_i hempty
        rw [updateSession_eq_self fun r => by simp [acceptedRow, hkind, hagent, hempty]]
      · rename_i hne
        congr 1
        funext row
        simp [acceptedRow, hkind, hagent, hne]
    · rename_i hagent
      rw [updateSession_eq_self fun r => by simp [acceptedRow, hkind, hagent]]
  · rename_i hkind
    rw [updateSession_eq_self fun r => by simp [acceptedRow, hkind]]

def committed (db : Db) (envelope : SessionEnvelope) (status : Status) (now : Instant) : Db :=
  (addEvent (db.updateSession envelope.sessionId (acceptedRow envelope))
    (envelopeEvent envelope now)).updateSession envelope.sessionId (setStatus status now)

/-- `db'` is `db` with the envelope committed; a final result may add an
outcome event. -/
def Commits (db : Db) (envelope : SessionEnvelope) (status : Status) (now : Instant) (db' : Db) :
    Prop :=
  SameTables (committed db envelope status now) db' ∨
    envelope.kind = .finalResult ∧ ∃ ev : NewEvent, ev.sessionId = envelope.sessionId ∧
      ev.sequence = none ∧ ev.kind = .internal .outcome ∧
      Appended (committed db envelope status now) ev db'

theorem session?_committed_self {row : SessionRow} {status : Status} {now : Instant}
    (hrow : db.session? envelope.sessionId = some row) :
    (committed db envelope status now).session? envelope.sessionId =
      some (setStatus status now (acceptedRow envelope row)) := by
  rw [committed, session?_updateSession_self (fun _ => setStatus_sessionId _ _ _)]
  change ((db.updateSession envelope.sessionId (acceptedRow envelope)).session? _).map _ = _
  rw [session?_updateSession_self (fun _ => acceptedRow_sessionId _), hrow]
  rfl

theorem session?_committed_of_ne {status : Status} {now : Instant} {sid : String}
    (h : sid ≠ envelope.sessionId) :
    (committed db envelope status now).session? sid = db.session? sid := by
  rw [committed, session?_updateSession_of_ne (fun _ => setStatus_sessionId _ _ _) h]
  exact session?_updateSession_of_ne (fun _ => acceptedRow_sessionId _) h

theorem eventsOf_committed_self (db : Db) (envelope : SessionEnvelope) (status : Status)
    (now : Instant) :
    (committed db envelope status now).eventsOf envelope.sessionId =
      db.eventsOf envelope.sessionId ++ [eventRow db (envelopeEvent envelope now)] :=
  eventsOf_addEvent_self (db.updateSession envelope.sessionId (acceptedRow envelope))
    (envelopeEvent envelope now)

theorem eventsOf_committed_of_ne {status : Status} {now : Instant} {sid : String}
    (h : sid ≠ envelope.sessionId) :
    (committed db envelope status now).eventsOf sid = db.eventsOf sid :=
  eventsOf_addEvent_of_ne (db.updateSession envelope.sessionId (acceptedRow envelope))
    (envelopeEvent envelope now) h

namespace Commits

variable {db' : Db} {status : Status} {now : Instant}

theorem session?_self (h : Commits db envelope status now db') {row : SessionRow}
    (hrow : db.session? envelope.sessionId = some row) :
    db'.session? envelope.sessionId = some (setStatus status now (acceptedRow envelope row)) := by
  rcases h with h | ⟨-, ev, -, -, -, h⟩
  · rw [h.session?, session?_committed_self hrow]
  · rw [SameTables.session? h]
    exact session?_committed_self hrow

theorem session?_of_ne (h : Commits db envelope status now db') {sid : String}
    (hsid : sid ≠ envelope.sessionId) : db'.session? sid = db.session? sid := by
  rcases h with h | ⟨-, ev, -, -, -, h⟩
  · rw [h.session?, session?_committed_of_ne hsid]
  · rw [SameTables.session? h]
    exact session?_committed_of_ne hsid

/-- The log of the session grows by the envelope's event and at most one
unsequenced outcome event after it. -/
theorem eventsOf_self (h : Commits db envelope status now db') :
    db'.eventsOf envelope.sessionId =
        db.eventsOf envelope.sessionId ++ [eventRow db (envelopeEvent envelope now)] ∨
      envelope.kind = .finalResult ∧ ∃ ev : NewEvent, ev.sequence = none ∧
        ev.sessionId = envelope.sessionId ∧ ev.kind = .internal .outcome ∧
        db'.eventsOf envelope.sessionId =
          db.eventsOf envelope.sessionId ++ [eventRow db (envelopeEvent envelope now)] ++
            [eventRow (committed db envelope status now) ev] := by
  rcases h with h | ⟨hkind, ev, hsid, hseq, hev, h⟩
  · rw [h.eventsOf]
    exact .inl (eventsOf_committed_self ..)
  · refine .inr ⟨hkind, ev, hseq, hsid, hev, ?_⟩
    rw [SameTables.eventsOf h, ← eventsOf_committed_self db envelope status now, ← hsid]
    exact eventsOf_addEvent_self _ ev

theorem eventsOf_of_ne (h : Commits db envelope status now db') {sid : String}
    (hsid : sid ≠ envelope.sessionId) : db'.eventsOf sid = db.eventsOf sid := by
  rcases h with h | ⟨-, ev, hev, -, -, h⟩
  · rw [h.eventsOf, eventsOf_committed_of_ne hsid]
  · rw [SameTables.eventsOf h, eventsOf_addEvent_of_ne _ ev (by rw [hev]; exact hsid),
      eventsOf_committed_of_ne hsid]

theorem sessionEvents_prefix (h : Commits db envelope status now db') :
    db.sessionEvents <+: db'.sessionEvents := by
  have hc : db.sessionEvents <+: (committed db envelope status now).sessionEvents :=
    List.prefix_append ..
  rcases h with h | ⟨-, ev, -, -, -, h⟩
  · rw [h.sessionEvents]
    exact hc
  · rw [SameTables.sessionEvents h]
    exact hc.trans (List.prefix_append ..)

theorem identity (h : Commits db envelope status now db') : db'.identity = db.identity := by
  rcases h with h | ⟨-, ev, -, -, -, h⟩
  · rw [h.identity]
    rfl
  · rw [SameTables.identity h]
    rfl

theorem contacts (h : Commits db envelope status now db') : db'.contacts = db.contacts := by
  rcases h with h | ⟨-, ev, -, -, -, h⟩
  · rw [h.contacts]
    rfl
  · rw [SameTables.contacts h]
    rfl

theorem outboundEnvelopeQueue (h : Commits db envelope status now db') :
    db'.outboundEnvelopeQueue = db.outboundEnvelopeQueue := by
  rcases h with h | ⟨-, ev, -, -, -, h⟩
  · rw [h.outboundEnvelopeQueue]
    rfl
  · rw [SameTables.outboundEnvelopeQueue h]
    rfl

end Commits

def settled (db : Db) (state : SessionState) (envelope : SessionEnvelope) : SessionState :=
  settle state envelope.kind (envelope.actorUsername != db.myUsername)

theorem checkEventPayload_of_valid (ext : Externals) {fields : Fields}
    (h : validEventFields fields = true) : checkEventPayload ext (some (.obj fields)) = .ok () := by
  simp [checkEventPayload, h]

theorem appendSessionEvent_of_new (ext : Externals) {db : Db} (ev : NewEvent) {n : Nat}
    {fields : Fields} (hseq : ev.sequence = some n) (hpayload : ev.payload = some (.obj fields))
    (hvalid : validEventFields fields = true) (hrow : (db.session? ev.sessionId).isSome = true)
    (hnew : storedEvent? db ev.sessionId ev.actorUsername n = none) :
    Appended db ev (appendSessionEvent ext db ev).1 ∧
      ∃ id order, (appendSessionEvent ext db ev).2 = .ok (.appended id order) := by
  obtain ⟨row, hrow⟩ := Option.isSome_iff_exists.mp hrow
  have hcheck := checkEventPayload_of_valid ext hvalid
  rw [← hpayload] at hcheck
  simp only [appendSessionEvent, hseq, checkSequenceConflict_of_none hnew, insertEvent, hcheck,
    hrow]
  exact ⟨sameTables_writeAuditEvent .., _, _, rfl⟩

/-- A commit into a stored session, under a new sequence, always succeeds. -/
theorem commitEnvelope_spec (ctx : IngestContext) (raw : Fields) (newState : SessionState)
    (hvalid : validEventFields envelope.payload = true)
    (hrow : (db.session? envelope.sessionId).isSome = true)
    (hnew : storedEvent? db envelope.sessionId envelope.actorUsername envelope.sequence = none) :
    (commitEnvelope ctx db raw envelope newState).2 = .ok () ∧
      Commits db envelope (settled db newState envelope).status ctx.now
        (commitEnvelope ctx db raw envelope newState).1 := by
  have hrow' : ((recordAcceptance db envelope).session? envelope.sessionId).isSome = true := by
    rw [recordAcceptance_eq, session?_updateSession_self (fun _ => acceptedRow_sessionId _)]
    simpa using hrow
  have hnew' : storedEvent? (recordAcceptance db envelope) envelope.sessionId
      envelope.actorUsername envelope.sequence = none := by
    rw [recordAcceptance_eq]
    exact hnew
  obtain ⟨happ, id, order, hres⟩ := appendSessionEvent_of_new ctx.ext
    (envelopeEvent envelope ctx.now) rfl rfl hvalid hrow' hnew'
  rcases hap : appendSessionEvent ctx.ext (recordAcceptance db envelope)
    (envelopeEvent envelope ctx.now) with ⟨db1, res⟩
  rw [hap] at happ hres
  rw [recordAcceptance_eq] at happ
  simp only at hres
  subst hres
  have hsame : SameTables (committed db envelope (settled db newState envelope).status ctx.now)
      (db1.updateSession envelope.sessionId
        (setStatus (settle newState envelope.kind (envelope.actorUsername != db1.myUsername)).status
          ctx.now)) := by
    have hme : db1.myUsername = db.myUsername := happ.myUsername
    rw [hme]
    exact happ.updateSession envelope.sessionId _
  unfold commitEnvelope
  simp only [hap]
  split
  · rename_i hkind
    refine ⟨rfl, ?_⟩
    rcases deriveOutcomeCard_cases ctx.ext (db1.updateSession envelope.sessionId
      (setStatus (settle newState envelope.kind (envelope.actorUsername != db1.myUsername)).status
        ctx.now)) envelope.sessionId envelope.payload ctx.now with hout | ⟨ev, h1, h2, h3, hout⟩
    · exact .inl (hsame.trans hout)
    · exact .inr ⟨hkind, ev, h1, h2, h3, hsame.appended hout⟩
  · exact ⟨rfl, .inl hsame⟩

end Commit

/-! ### The commands around the reducer change the status only -/

section Commands

variable (state : SessionState) (kind : MessageKind)

/-- The status after `advanceToReview`. -/
def reviewStatus (status : Status) (kind : MessageKind) : Status :=
  if (status = .queued ∨ status = .delivered) ∧
      (kind = .acceptance ∨ kind = .decline ∨ kind = .clarification) then .peerReview
  else status

/-- The status after `settle`. -/
def settledStatus (status : Status) (kind : MessageKind) (isPeer : Bool) : Status :=
  if isPeer = true then
    match status with
    | .sent => if kind = .taskRequest then .peerReview else .delivered
    | .accepted => .active
    | s => s
  else status

theorem processNodeCommand_of_edge (command : NodeCommand) (target : Status)
    (ht : command.target = some target) (hvalid : isValidTransition state.status target = true) :
    processNodeCommand state command = .accept { state with status := target } := by
  rcases processNodeCommand_cases state command with ⟨t, ht', -, heq⟩ | ⟨-, hno⟩
  · rw [ht] at ht'
    cases ht'
    exact heq
  · rw [hno target ht] at hvalid
    cases hvalid

theorem tryCommand_of_edge (command : NodeCommand) (target : Status)
    (ht : command.target = some target) (hvalid : isValidTransition state.status target = true) :
    tryCommand state command = { state with status := target } := by
  rw [tryCommand, processNodeCommand_of_edge state command target ht hvalid]
  rfl

theorem advanceToReview_eq :
    advanceToReview state kind = { state with status := reviewStatus state.status kind } := by
  unfold advanceToReview reviewStatus
  split
  · rename_i h
    rcases h.1 with hs | hs
    · simp only [hs, if_true]
      rw [tryCommand_of_edge state .markDelivered .delivered rfl (by rw [hs]; rfl),
        tryCommand_of_edge _ .markPeerReview .peerReview rfl rfl]
    · rw [hs, if_neg (by decide),
        tryCommand_of_edge state .markPeerReview .peerReview rfl (by rw [hs]; rfl)]
  · rfl

theorem settle_eq (isPeer : Bool) :
    settle state kind isPeer =
      { state with status := settledStatus state.status kind isPeer } := by
  cases isPeer with
  | false => simp [settle, settledStatus]
  | true =>
      by_cases hsent : state.status = .sent
      · have hdelivered := processNodeCommand_of_edge state .markDelivered .delivered rfl
          (by rw [hsent]; rfl)
        by_cases hkind : kind = .taskRequest
        · have hreview := tryCommand_of_edge { state with status := .delivered } .markPeerReview
            .peerReview rfl rfl
          simp [settle, settledStatus, hsent, hdelivered, hkind, ReducerResult.accept, hreview]
        · simp [settle, settledStatus, hsent, hdelivered, hkind, ReducerResult.accept]
      · by_cases hacc : state.status = .accepted
        · have hactive := tryCommand_of_edge state .markActive .active rfl (by rw [hacc]; rfl)
          simp [settle, settledStatus, hacc, hactive]
        · have hother : settledStatus state.status kind true = state.status := by
            unfold settledStatus
            cases hs : state.status <;> simp_all
          rw [hother]
          simp [settle, hsent, hacc]

end Commands

/-! ### A session that is being created -/

section Creation

variable {ctx : IngestContext} {db : Db} {envelope : SessionEnvelope} {row : SessionRow}

/-- The envelope creates `row`: it asks for a valid session type and every value
of the row can be bound. -/
def Creates (ctx : IngestContext) (db : Db) (envelope : SessionEnvelope) (row : SessionRow) : Prop :=
  ∃ type, SessionType.ofJson (envelope.payload.getD "collaboration_mode" (.text "ask")) =
    some type ∧ bootstrapRow ctx db type envelope = .ok row

/-- The columns of a new row that do not depend on the payload's types. -/
structure NewRow (ctx : IngestContext) (envelope : SessionEnvelope) (row : SessionRow) : Prop where
  sessionId : row.sessionId = envelope.sessionId
  initiator : row.initiatorUsername = envelope.actorUsername
  status : row.status = .draft
  senderAgent : row.senderAgentId = some envelope.actorAgentId
  turnLimit_pos : 1 ≤ row.turnLimit
  turnLimit_le : row.turnLimit ≤ 12
  expiry : row.expiresAt = some (ctx.now.addSeconds 604800)

theorem turnLimitOf_bounds (v : Json) : 1 ≤ turnLimitOf v ∧ turnLimitOf v ≤ 12 := by
  unfold turnLimitOf
  split
  · split <;> omega
  · omega
  · omega

theorem newRow_of_creates (h : Creates ctx db envelope row) : NewRow ctx envelope row := by
  obtain ⟨type, -, hrow⟩ := h
  simp only [bootstrapRow, bind, Except.bind, pure, Except.pure] at hrow
  repeat' split at hrow
  all_goals try cases hrow
  exact ⟨rfl, rfl, rfl, rfl, (turnLimitOf_bounds _).1, (turnLimitOf_bounds _).2, rfl⟩

/-- A text receiver is stored as it is. -/
theorem receiverUsername_of_creates (h : Creates ctx db envelope row) {receiver : String}
    (hr : asText (receiverOf db envelope) = some receiver) : row.receiverUsername = receiver := by
  obtain ⟨type, -, hrow⟩ := h
  have hr' := asText_eq_some hr
  simp only [bootstrapRow, bind, Except.bind, pure, Except.pure, hr', bindSql_text] at hrow
  repeat' split at hrow
  all_goals try cases hrow
  rename_i htext
  cases htext
  rfl

/-- What one node can create another creates too, if the receiver's name is a
text there. -/
theorem bootstrapRow_elsewhere {ctx' : IngestContext} {db' : Db} {type : SessionType}
    (hext : ctx'.ext = ctx.ext) {receiver : String}
    (hreceiver : receiverOf db' envelope = .text receiver)
    (h : bootstrapRow ctx db type envelope = .ok row) :
    bootstrapRow ctx' db' type envelope =
      .ok { row with
        receiverUsername := receiver
        createdAt := ctx'.now
        updatedAt := ctx'.now
        expiresAt := some (ctx'.now.addSeconds 604800) } := by
  simp only [bootstrapRow, bind, Except.bind, pure, Except.pure] at h
  repeat' split at h
  all_goals try cases h
  simp only [bootstrapRow, bind, Except.bind, pure, Except.pure, bindSql_text, *]
  rfl

@[simp] theorem advanceToReview_bootstrapState (kind : MessageKind) :
    advanceToReview (bootstrapState row envelope) kind = bootstrapState row envelope := by
  simp [advanceToReview, bootstrapState]

theorem admitted_bootstrapState (hnew : NewRow ctx envelope row)
    (hkind : envelope.kind = .taskRequest) (hseq : envelope.sequence = 1) :
    Admitted (bootstrapState row envelope) envelope (bootstrapState row envelope).participants where
  live := rfl
  session := hnew.sessionId.symm
  actor := by simp [authorizeActor, bootstrapState, hkind, ownerOnly]
  sequence := by
    rw [checkSequence_eq_none, hseq]
    rfl
  transition := by
    rw [checkTransition_eq_none, hkind]
    exact .inr (.inl rfl)
  turn := by
    rw [checkTurn_eq_none]
    intro _
    exact .inl (Int.ofNat_lt.mpr hnew.turnLimit_pos)
  after := by simp [participantsAfter, hkind]

theorem processPeerEnvelope_bootstrapState (hnew : NewRow ctx envelope row)
    (hkind : envelope.kind = .taskRequest) (hseq : envelope.sequence ≠ 1) :
    ∃ message, processPeerEnvelope (bootstrapState row envelope) envelope =
      .ok (.refuse (bootstrapState row envelope) ⟨.outOfOrderSequence, message⟩) := by
  have hactor : authorizeActor (bootstrapState row envelope) envelope = none := by
    simp [authorizeActor, bootstrapState, hkind, ownerOnly]
  have hlive : isTerminalState (bootstrapState row envelope).status = false := rfl
  have hsid : envelope.sessionId = (bootstrapState row envelope).sessionId := hnew.sessionId.symm
  have hlast : (bootstrapState row envelope).lastSequence envelope.actorUsername = 0 := rfl
  have hpos : (envelope.sequence : Int) ≠ 0 := by
    have := envelope.sequence_pos
    omega
  have hfirst : (envelope.sequence : Int) ≠ 0 + 1 := by omega
  simp only [processPeerEnvelope, hlive, ← hsid, hactor, checkSequence, hlast, hpos, hfirst,
    ne_eq, not_true_eq_false, not_false_eq_true, Bool.false_eq_true, if_true, if_false]
  exact ⟨_, rfl⟩

end Creation

/-! ### The stages after verification -/

section Verified

variable {ctx : IngestContext} {db : Db} {raw : Fields} {envelope : SessionEnvelope}

/-- The state the reducer starts from, with the row it belongs to and the
database that holds that row. -/
inductive Loaded (ctx : IngestContext) (db : Db) (envelope : SessionEnvelope) :
    Db → SessionRow → SessionState → Prop
  | stored {row : SessionRow} (hrow : db.session? envelope.sessionId = some row) :
      Loaded ctx db envelope db row (stateOf ctx.ext row (db.eventsOf envelope.sessionId))
  | created {row : SessionRow} (hnone : db.session? envelope.sessionId = none)
      (hkind : envelope.kind = .taskRequest) (hcreates : Creates ctx db envelope row)
      (hreceiver : (asText (receiverOf db envelope)).isSome = true) :
      Loaded ctx db envelope (db.addSession row) row (bootstrapState row envelope)

/-- The reducer's state after an admitted envelope and the automatic transitions. -/
def finalState (db : Db) (state : SessionState) (envelope : SessionEnvelope)
    (participants : Dict String ParticipantInfo) : SessionState :=
  settled db (applyEnvelope (advanceToReview state envelope.kind) envelope participants) envelope

theorem finalState_status (db : Db) (state : SessionState) (envelope : SessionEnvelope)
    (participants : Dict String ParticipantInfo) :
    (finalState db state envelope participants).status =
      settledStatus (targetStatus (advanceToReview state envelope.kind) envelope.kind)
        envelope.kind (envelope.actorUsername != db.myUsername) := by
  rw [finalState, settled, settle_eq]
  rfl

inductive Outcome (ctx : IngestContext) (db : Db) (raw : Fields) (row : Option SessionRow)
    (envelope : SessionEnvelope) : Db × Except Exit Committed → Prop
  /-- A duplicate, a conflict, a refusal or an exception, before any write. -/
  | stopped {db' : Db} {exit : Exit} (hsame : SameTables db db') :
      Outcome ctx db raw row envelope (db', .error exit)
  /-- A new session row is committed and the receiver then fails validation. -/
  | orphanRaised {newRow : SessionRow} (hnone : db.session? envelope.sessionId = none)
      (hnew : storedEvent? db envelope.sessionId envelope.actorUsername envelope.sequence = none)
      (hcreates : Creates ctx db envelope newRow)
      (hreceiver : asText (receiverOf db envelope) = none) :
      Outcome ctx db raw row envelope (db.addSession newRow, .error (.error .validationError))
  /-- A new session row is committed and the reducer then refuses the sequence. -/
  | orphanRejected {newRow : SessionRow} {message : String}
      (hnone : db.session? envelope.sessionId = none)
      (hnew : storedEvent? db envelope.sessionId envelope.actorUsername envelope.sequence = none)
      (hcreates : Creates ctx db envelope newRow)
      (hreceiver : (asText (receiverOf db envelope)).isSome = true) (hseq : envelope.sequence ≠ 1) :
      Outcome ctx db raw row envelope (db.addSession newRow,
        .error (rejectVerified ctx raw envelope (some .outOfOrderSequence) (some (.text message))))
  | committed {base : Db} {stored : SessionRow} {state : SessionState}
      {participants : Dict String ParticipantInfo} {db' : Db}
      (hnew : storedEvent? db envelope.sessionId envelope.actorUsername envelope.sequence = none)
      (hloaded : Loaded ctx db envelope base stored state)
      (hadmitted : Admitted (advanceToReview state envelope.kind) envelope participants)
      (hcommits : Commits base envelope (finalState db state envelope participants).status ctx.now
        db') :
      Outcome ctx db raw row envelope (db', .ok ⟨envelope, row⟩)

theorem session?_addSession_self {row : SessionRow} (hnone : db.session? row.sessionId = none) :
    (db.addSession row).session? row.sessionId = some row :=
  Rows.lookup_append_fresh hnone

theorem session?_addSession_of_ne {row : SessionRow} {sid : String} (h : sid ≠ row.sessionId) :
    (db.addSession row).session? sid = db.session? sid :=
  Rows.lookup_append_of_ne h

theorem Loaded.base_session? {base : Db} {stored : SessionRow} {state : SessionState}
    (h : Loaded ctx db envelope base stored state) :
    base.session? envelope.sessionId = some stored := by
  cases h with
  | stored hrow => exact hrow
  | created hnone hkind hcreates hreceiver =>
      have hid := (newRow_of_creates hcreates).sessionId
      rw [← hid] at hnone ⊢
      exact session?_addSession_self hnone

theorem Loaded.base_sessionEvents {base : Db} {stored : SessionRow} {state : SessionState}
    (h : Loaded ctx db envelope base stored state) : base.sessionEvents = db.sessionEvents := by
  cases h <;> rfl

theorem Loaded.base_eventsOf {base : Db} {stored : SessionRow} {state : SessionState}
    (h : Loaded ctx db envelope base stored state) (sid : String) :
    base.eventsOf sid = db.eventsOf sid := by
  rw [Db.eventsOf, h.base_sessionEvents, Db.eventsOf]

theorem Loaded.base_session?_of_ne {base : Db} {stored : SessionRow} {state : SessionState}
    (h : Loaded ctx db envelope base stored state) {sid : String} (hne : sid ≠ envelope.sessionId) :
    base.session? sid = db.session? sid := by
  cases h with
  | stored hrow => rfl
  | created hnone hkind hcreates hreceiver =>
      refine session?_addSession_of_ne ?_
      rw [(newRow_of_creates hcreates).sessionId]
      exact hne

/-- The reducer and the commit, for a state that was loaded: a refusal or an
exception before any write, or a commit. -/
theorem ingestLoaded_cases {base : Db} {stored : SessionRow} {state : SessionState}
    (raw : Fields) (row : Option SessionRow) (hvalid : validEventFields envelope.payload = true)
    (hnew : storedEvent? db envelope.sessionId envelope.actorUsername envelope.sequence = none)
    (hloaded : Loaded ctx db envelope base stored state) :
    (∃ exit, ingestLoaded ctx base raw row envelope state = (base, .error exit) ∧
      ∀ participants, ¬Admitted (advanceToReview state envelope.kind) envelope participants) ∨
    ∃ participants db', Admitted (advanceToReview state envelope.kind) envelope participants ∧
      ingestLoaded ctx base raw row envelope state = (db', .ok ⟨envelope, row⟩) ∧
      Commits base envelope (finalState db state envelope participants).status ctx.now db' := by
  have hbase : (base.session? envelope.sessionId).isSome = true ∧ base.myUsername = db.myUsername ∧
      storedEvent? base envelope.sessionId envelope.actorUsername envelope.sequence = none := by
    refine ⟨by rw [hloaded.base_session?]; rfl, by cases hloaded <;> rfl, ?_⟩
    rw [storedEvent?, hloaded.base_sessionEvents]
    exact hnew
  unfold ingestLoaded
  cases hred : processPeerEnvelope (advanceToReview state envelope.kind) envelope with
  | error e =>
      left
      refine ⟨_, rfl, fun participants h => ?_⟩
      rw [processPeerEnvelope_of_admitted h] at hred
      cases hred
  | ok result =>
      cases hs : result.success with
      | false =>
          left
          refine ⟨_, if_pos hs, fun participants h => ?_⟩
          rw [processPeerEnvelope_of_admitted h] at hred
          cases hred
          cases hs
      | true =>
          right
          obtain ⟨participants, hadmitted, rfl⟩ := admitted_of_processPeerEnvelope hred hs
          obtain ⟨hok, hcommits⟩ := commitEnvelope_spec ctx raw
            (applyEnvelope (advanceToReview state envelope.kind) envelope participants) hvalid
            hbase.1 hbase.2.2
          rcases hc : commitEnvelope ctx base raw envelope
            (applyEnvelope (advanceToReview state envelope.kind) envelope participants) with
            ⟨db', res⟩
          rw [hc] at hok hcommits
          simp only at hok
          subst hok
          refine ⟨participants, db', hadmitted, by simp [ReducerResult.accept, hc], ?_⟩
          simpa only [finalState, settled, hbase.2.1] using hcommits

/-- `loadState` finds every state that can be loaded. -/
theorem loadState_of_loaded {base : Db} {stored : SessionRow} {state : SessionState}
    {row : Option SessionRow} (hloaded : Loaded ctx db envelope base stored state)
    (hrow : row.isSome = (db.session? envelope.sessionId).isSome) :
    loadState ctx db raw row envelope = (base, .ok state) := by
  cases hloaded with
  | stored hstored =>
      rw [hstored] at hrow
      obtain ⟨r, rfl⟩ := Option.isSome_iff_exists.mp hrow
      simp [loadState, reconstructSessionState, hstored]
  | created hnone hkind hcreates hreceiver =>
      have hr : row = none := by simpa [hnone] using hrow
      obtain ⟨type, hmode, hboot⟩ := hcreates
      obtain ⟨receiver, hreceiver⟩ := Option.isSome_iff_exists.mp hreceiver
      subst hr
      simp only [loadState, hmode, hboot, hreceiver]

theorem ingestVerified_of_loaded {base : Db} {stored : SessionRow} {state : SessionState}
    {row : Option SessionRow}
    (hnew : storedEvent? db envelope.sessionId envelope.actorUsername envelope.sequence = none)
    (hloaded : Loaded ctx db envelope base stored state)
    (hrow : row.isSome = (db.session? envelope.sessionId).isSome) :
    ingestVerified ctx db raw row envelope = ingestLoaded ctx base raw row envelope state := by
  simp only [ingestVerified, checkSequenceConflict_of_none hnew, loadState_of_loaded hloaded hrow]

theorem ingestVerified_outcome (ctx : IngestContext) (db : Db) {row : Option SessionRow}
    (hread : ReadFrom raw envelope)
    (hrow : row.isSome = (db.session? envelope.sessionId).isSome)
    (hkind : db.session? envelope.sessionId = none → envelope.kind = .taskRequest) :
    Outcome ctx db raw row envelope (ingestVerified ctx db raw row envelope) := by
  unfold ingestVerified
  have hsame := sameTables_checkSequenceConflict ctx.ext db envelope.sessionId
    envelope.actorUsername envelope.sequence (some (.obj envelope.payload))
  split
  · rename_i db' id hc
    rw [hc] at hsame
    exact .stopped hsame
  · rename_i db' id hc
    rw [hc] at hsame
    exact .stopped hsame
  rename_i db' hc
  have hnew : storedEvent? db envelope.sessionId envelope.actorUsername envelope.sequence = none :=
    checkSequenceConflict_new.mp (congrArg Prod.snd hc)
  rw [checkSequenceConflict_of_none hnew] at hc
  cases hc
  cases row with
  | none =>
      have hnone : db.session? envelope.sessionId = none := by
        simpa using hrow
      cases hmode : SessionType.ofJson
        (envelope.payload.getD "collaboration_mode" (.text "ask")) with
      | none =>
          simp only [loadState, hmode]
          exact .stopped (.refl db)
      | some type =>
      cases hboot : bootstrapRow ctx db type envelope with
      | error e =>
          simp only [loadState, hmode, hboot]
          exact .stopped (.refl db)
      | ok newRow =>
      have hcreates : Creates ctx db envelope newRow := ⟨type, hmode, hboot⟩
      cases hreceiver : asText (receiverOf db envelope) with
      | none =>
          simp only [loadState, hmode, hboot, hreceiver]
          exact .orphanRaised hnone hnew hcreates hreceiver
      | some receiver =>
          simp only [loadState, hmode, hboot, hreceiver]
          have hloaded : Loaded ctx db envelope (db.addSession newRow) newRow
              (bootstrapState newRow envelope) :=
            .created hnone (hkind hnone) hcreates (by rw [hreceiver]; rfl)
          by_cases hseq : envelope.sequence = 1
          · rcases ingestLoaded_cases raw none hread.payload hnew hloaded with
              ⟨exit, -, hno⟩ | ⟨participants, db', hadmitted, heq, hcommits⟩
            · refine absurd ?_ (hno (bootstrapState newRow envelope).participants)
              rw [advanceToReview_bootstrapState]
              exact admitted_bootstrapState (newRow_of_creates hcreates) (hkind hnone) hseq
            · rw [heq]
              exact .committed hnew hloaded hadmitted hcommits
          · obtain ⟨message, hred⟩ :=
              processPeerEnvelope_bootstrapState (newRow_of_creates hcreates) (hkind hnone) hseq
            simp only [ingestLoaded, advanceToReview_bootstrapState, hred, ReducerResult.refuse,
              if_true, Option.map_some]
            exact .orphanRejected hnone hnew hcreates (by rw [hreceiver]; rfl) hseq
  | some r =>
      obtain ⟨stored, hstored⟩ := Option.isSome_iff_exists.mp (hrow.symm.trans rfl)
      simp only [loadState_of_loaded (.stored hstored) hrow]
      rcases ingestLoaded_cases raw (some r) hread.payload hnew (.stored hstored) with
        ⟨exit, heq, -⟩ | ⟨participants, db', hadmitted, heq, hcommits⟩
      · rw [heq]
        exact .stopped (.refl db)
      · rw [heq]
        exact .committed hnew (.stored hstored) hadmitted hcommits

end Verified

/-! ### The call up to the commit -/

section Call

variable {ctx : IngestContext} {db : Db} {raw : Fields} {envelope : SessionEnvelope}

/-- A body that is accepted: it verifies, its sequence is not stored yet, the
session is not expired by this call, and the reducer admits it. -/
structure Accepts (ctx : IngestContext) (db : Db) (raw : Fields) (envelope : SessionEnvelope)
    (base : Db) (stored : SessionRow) (state : SessionState)
    (participants : Dict String ParticipantInfo) : Prop where
  verified : verified? ctx db raw = some envelope
  fresh : storedEvent? db envelope.sessionId envelope.actorUsername envelope.sequence = none
  timely : ∀ row, db.session? envelope.sessionId = some row → expiresNow row ctx.now = false
  loaded : Loaded ctx db envelope base stored state
  admitted : Admitted (advanceToReview state envelope.kind) envelope participants

theorem Commits.of_sameTables {a b db' : Db} {status : Status} {now : Instant}
    (hab : SameTables a b) (h : Commits b envelope status now db') :
    Commits a envelope status now db' := by
  have hc : SameTables (committed a envelope status now) (committed b envelope status now) :=
    ((hab.updateSession _ _).addEvent _).updateSession _ _
  rcases h with h | ⟨hkind, ev, h1, h2, h3, h⟩
  · exact .inl (hc.trans h)
  · exact .inr ⟨hkind, ev, h1, h2, h3, hc.appended h⟩

/-- Outside expiry, the lookup leaves every table but the audit table alone. -/
theorem sameTables_afterExpiry (ctx : IngestContext) (sid : String)
    (h : ∀ row, db.session? sid = some row → expiresNow row ctx.now = false) :
    SameTables db (afterExpiry ctx db sid) := by
  unfold afterExpiry
  split
  · rename_i row hrow
    have hid := sessionId_of_session? hrow
    rw [← hid] at hrow
    rcases lazyExpire_cases ctx hrow with ⟨hexp, -⟩ | ⟨-, hsame⟩
    · rw [h row (by rw [← hid]; exact hrow)] at hexp
      cases hexp
    · exact hsame
  · exact .refl db

/-- Loading looks at no audit record. -/
theorem Loaded.of_sameTables {db' base : Db} {stored : SessionRow} {state : SessionState}
    (hsame : SameTables db db') (h : Loaded ctx db' envelope base stored state) :
    ∃ base', Loaded ctx db envelope base' stored state ∧ SameTables base' base := by
  obtain ⟨rows, rfl⟩ := hsame
  cases h with
  | stored hrow => exact ⟨db, .stored hrow, rows, rfl⟩
  | created hnone hkind hcreates hreceiver =>
      exact ⟨_, .created hnone hkind hcreates hreceiver, rows, rfl⟩

theorem verified_isTaskRequest (h : verified? ctx db raw = some envelope)
    (hnone : db.session? envelope.sessionId = none) : envelope.kind = .taskRequest := by
  have hread := readFrom_of_verified h
  unfold verified? at h
  split at h
  · exact kind_of_openSession_new hread hnone ‹_›
  · cases h

theorem isSome_session?_afterExpiry (ctx : IngestContext) (db : Db) (sid : String) :
    ((afterExpiry ctx db sid).session? sid).isSome = (db.session? sid).isSome := by
  unfold afterExpiry
  cases hrow : db.session? sid with
  | none => simp [hrow]
  | some row =>
      have hid := sessionId_of_session? hrow
      subst hid
      rcases lazyExpire_cases ctx hrow with ⟨-, hw⟩ | ⟨-, hsame⟩
      · rw [hw.session?, session?_updateSession_self (fun _ => setStatus_sessionId _ _ _), hrow]
        rfl
      · rw [hsame.session?, hrow]

theorem not_admitted_of_expired {row : SessionRow} (hrow : db.session? envelope.sessionId = some row)
    (hexp : expiresNow row ctx.now = true) {base : Db} {stored : SessionRow} {state : SessionState}
    (hloaded : Loaded ctx (afterExpiry ctx db envelope.sessionId) envelope base stored state)
    {participants : Dict String ParticipantInfo} :
    ¬Admitted (advanceToReview state envelope.kind) envelope participants := by
  intro hadmitted
  have hid := sessionId_of_session? hrow
  have hafter : (afterExpiry ctx db envelope.sessionId).session? envelope.sessionId =
      some (setStatus .expired ctx.now row) := by
    rw [afterExpiry, hrow]
    rw [← hid] at hrow ⊢
    rcases lazyExpire_cases ctx hrow with ⟨-, hw⟩ | ⟨hno, -⟩
    · rw [hw.session?, session?_updateSession_self (fun _ => setStatus_sessionId _ _ _), hrow]
      rfl
    · rw [hexp] at hno
      cases hno
  cases hloaded with
  | stored hstored =>
      rw [hafter] at hstored
      cases hstored
      exact Bool.noConfusion hadmitted.live
  | created hnone _ _ _ =>
      rw [hafter] at hnone
      cases hnone

theorem ingestCommit_of_accepts {base : Db} {stored : SessionRow} {state : SessionState}
    {participants : Dict String ParticipantInfo}
    (h : Accepts ctx db raw envelope base stored state participants) :
    ∃ db', ingestCommit ctx db raw = (db', .ok ⟨envelope, db.session? envelope.sessionId⟩) ∧
      Commits base envelope (finalState db state envelope participants).status ctx.now db' := by
  have hsame := sameTables_afterExpiry ctx envelope.sessionId h.timely
  have hread := readFrom_of_verified h.verified
  have hnew : storedEvent? (afterExpiry ctx db envelope.sessionId) envelope.sessionId
      envelope.actorUsername envelope.sequence = none := by
    rw [storedEvent?, hsame.sessionEvents]
    exact h.fresh
  obtain ⟨base1, hloaded1, hbase⟩ := h.loaded.of_sameTables hsame.symm
  rw [ingestCommit_of_verified h.verified, ingestVerified_of_loaded hnew hloaded1
    (isSome_session?_afterExpiry ctx db _).symm]
  rcases ingestLoaded_cases raw (db.session? envelope.sessionId) hread.payload hnew
    hloaded1 with ⟨exit, -, hno⟩ | ⟨participants', db', hadmitted, heq, hcommits⟩
  · exact absurd h.admitted (hno participants)
  · have hp : participants' = participants :=
      Except.ok.inj (hadmitted.after.symm.trans h.admitted.after)
    subst hp
    refine ⟨db', heq, Commits.of_sameTables hbase.symm ?_⟩
    simpa only [finalState, settled, hsame.myUsername] using hcommits

structure Opens (ctx : IngestContext) (db : Db) (envelope : SessionEnvelope)
    (row : SessionRow) : Prop where
  absent : db.session? envelope.sessionId = none
  fresh : storedEvent? db envelope.sessionId envelope.actorUsername envelope.sequence = none
  creates : Creates ctx db envelope row

/-- What a call does up to the commit. -/
theorem ingestCommit_cases (ctx : IngestContext) (db : Db) (raw : Fields) :
    (∃ db' exit, ingestCommit ctx db raw = (db', .error exit) ∧ Expires ctx.now db db') ∨
    (∃ envelope newRow exit, verified? ctx db raw = some envelope ∧
      Opens ctx db envelope newRow ∧
      ingestCommit ctx db raw = (db.addSession newRow, .error exit) ∧
      (asText (receiverOf db envelope) = none ∧ exit = .error .validationError ∨
        (asText (receiverOf db envelope)).isSome = true ∧ envelope.sequence ≠ 1 ∧
          ∃ message, exit = rejectVerified ctx raw envelope (some .outOfOrderSequence)
            (some (.text message)))) ∨
    ∃ envelope base stored state participants db',
      Accepts ctx db raw envelope base stored state participants ∧
      ingestCommit ctx db raw = (db', .ok ⟨envelope, db.session? envelope.sessionId⟩) ∧
      Commits base envelope (finalState db state envelope participants).status ctx.now db' := by
  cases hver : verified? ctx db raw with
  | none =>
      obtain ⟨exit, heq⟩ := ingestCommit_of_unverified hver
      exact .inl ⟨_, exit, heq, expires_openSession ctx db raw⟩
  | some envelope =>
      have hread := readFrom_of_verified hver
      have hsome := isSome_session?_afterExpiry ctx db envelope.sessionId
      have houtcome := ingestVerified_outcome ctx (afterExpiry ctx db envelope.sessionId) hread
        hsome.symm (fun hnone => verified_isTaskRequest hver (by simpa [hnone] using hsome))
      rw [← ingestCommit_of_verified hver] at houtcome
      -- a session that is created was not there to expire
      have hfresh : (afterExpiry ctx db envelope.sessionId).session? envelope.sessionId = none →
          db.session? envelope.sessionId = none ∧ afterExpiry ctx db envelope.sessionId = db := by
        intro hnone
        have hnone' : db.session? envelope.sessionId = none := by simpa [hnone] using hsome
        exact ⟨hnone', by simp [afterExpiry, hnone']⟩
      generalize hres : ingestCommit ctx db raw = res at houtcome
      cases houtcome with
      | stopped hsame =>
          exact .inl ⟨_, _, rfl, (expires_afterExpiry ctx db _).trans_sameTables hsame⟩
      | orphanRaised hnone hnew hcreates hreceiver =>
          obtain ⟨hnone', hdb⟩ := hfresh hnone
          rw [hdb] at hcreates hreceiver hnew ⊢
          exact .inr (.inl ⟨envelope, _, _, rfl, ⟨hnone', hnew, hcreates⟩, rfl,
            .inl ⟨hreceiver, rfl⟩⟩)
      | orphanRejected hnone hnew hcreates hreceiver hseq =>
          obtain ⟨hnone', hdb⟩ := hfresh hnone
          rw [hdb] at hcreates hreceiver hnew ⊢
          exact .inr (.inl ⟨envelope, _, _, rfl, ⟨hnone', hnew, hcreates⟩, rfl,
            .inr ⟨hreceiver, hseq, _, rfl⟩⟩)
      | committed hnew hloaded hadmitted hcommits =>
          have htimely : ∀ row, db.session? envelope.sessionId = some row →
              expiresNow row ctx.now = false := by
            intro row hrow
            by_contra hexp
            exact not_admitted_of_expired hrow (by simpa using hexp) hloaded hadmitted
          have hsame := sameTables_afterExpiry ctx envelope.sessionId htimely
          obtain ⟨base', hloaded', hbase⟩ := hloaded.of_sameTables hsame
          have haccepts : Accepts ctx db raw envelope base' _ _ _ :=
            { verified := hver
              fresh := by rw [storedEvent?, ← hsame.sessionEvents]; exact hnew
              timely := htimely
              loaded := hloaded'
              admitted := hadmitted }
          obtain ⟨db'', heq, hcommits'⟩ := ingestCommit_of_accepts haccepts
          rw [hres] at heq
          cases heq
          exact .inr (.inr ⟨_, _, _, _, _, _, haccepts, rfl, hcommits'⟩)

end Call

end Kin.Transport
