import Kin.Transport.Rejection

/-!
When ingestion answers at all. The untrusted body reaches Python operations that
raise in four places: the acknowledgement of a body that did not verify, the
columns of a new session, the reducer's handling of an acceptance, and the audit
call for an offer with invalid metadata.
-/

namespace Kin.Transport

open Kin.Py Kin.Lib Kin.Schemas Kin.Session Kin.Storage Kin.Audit Kin.Artifacts

/-! ### The condition -/

/-- The fields every acknowledgement of an unverified body repeats: a string, a
number from 1 on, and a string. -/
def acknowledgeable (ext : Externals) (raw : Fields) : Bool :=
  (asStr (rawSessionId raw)).isSome &&
    (laxInt ext.intOfText (rawSequence raw)).any (fun n => decide (1 ≤ n)) &&
    (asStr (rawContentHash raw)).isSome

/-- The body does not verify: its session id can be bound, its acknowledgement can
be built, and its actor is hashable if it gets to the map of the participants. -/
def answersUnverified (ctx : IngestContext) (db : Db) (raw : Fields) : Bool :=
  match asText (rawSessionId raw) with
  | none => false
  | some sid =>
      acknowledgeable ctx.ext raw &&
        ((rawActorUsername raw).hashable ||
          (db.session? sid).isNone &&
            (decide (asText (rawKind raw) ≠ some MessageKind.taskRequest.value) ||
              (ctx.getPublicKey (rawActorUsername raw)).isNone))

/-- A new request: its mode is invalid, or its goal can be encrypted, its values
bound, and its receiver is text. -/
def answersRequest (db : Db) (envelope : SessionEnvelope) : Bool :=
  let payload := envelope.payload
  let requested := payload.getD "requested_agent_id" (.text "")
  let mode := payload.getD "collaboration_mode" (.text "ask")
  match SessionType.ofJson mode with
  | none => true
  | some type =>
      (objectiveOf (payload.getD "goal" (.text ""))).isOk &&
        (bindSql (if requested.truthy then requested else .null)).isOk &&
        (bindSql (rawBudgets type payload).1).isOk &&
        (bindSql (rawBudgets type payload).2.1).isOk &&
        (bindSql (rawBudgets type payload).2.2).isOk &&
        (asText (receiverOf db envelope)).isSome

/-- The matrix or the receiver's exemption permits the envelope. -/
def permitted (state : SessionState) (envelope : SessionEnvelope) : Bool :=
  decide (targetStatus state envelope.kind = state.status) ||
    isValidTransition state.status (targetStatus state envelope.kind) ||
    decide (isUnacceptedReceiverAccept state envelope = some true)

/-- The payload lacks what the handling of its kind relies on: a text agent in
an acceptance. -/
def lacksAgent (envelope : SessionEnvelope) : Bool :=
  decide (envelope.kind = .acceptance) && (asText (acceptingAgentId envelope)).isNone

/-- An offer of the peer whose metadata are no `ArtifactOffer`. -/
def lacksMetadata (ext : Externals) (db : Db) (envelope : SessionEnvelope) : Bool :=
  isPeerOffer db envelope && (validateArtifactOffer ext envelope.payload).isNone

def inOrder (state : SessionState) (envelope : SessionEnvelope) : Bool :=
  !isTerminalState state.status && (authorizeActor state envelope).isNone &&
    (checkSequence state envelope).isNone

/-- An envelope for a session in `state`: the reducer refuses it for its actor,
sequence, transition (there is a participant) or turn, or its payload has what
its kind needs. -/
def answersEnvelope (ext : Externals) (db : Db) (state : SessionState)
    (envelope : SessionEnvelope) : Bool :=
  !inOrder state envelope ||
    if permitted state envelope then
      (checkTurn state envelope.kind).isSome ||
        !lacksAgent envelope && !lacksMetadata ext db envelope
    else !state.participants.isEmpty

/-- The bodies and databases for which a call ends with an acknowledgement. -/
def answers (ctx : IngestContext) (db : Db) (raw : Fields) : Bool :=
  match verified? ctx db raw with
  | none => answersUnverified ctx db raw
  | some envelope =>
      (storedEvent? db envelope.sessionId envelope.actorUsername envelope.sequence).isSome ||
        match db.session? envelope.sessionId with
        | none => answersRequest db envelope
        | some row =>
            expiresNow row ctx.now ||
              answersEnvelope ctx.ext db
                (advanceToReview (stateOf ctx.ext row (db.eventsOf envelope.sessionId))
                  envelope.kind) envelope

/-! ### Bodies that do not verify -/

theorem isOk_rejectRaw (ctx : IngestContext) (raw : Fields) (code : ErrorCode) (message : PyStr) :
    (rejectRaw ctx raw code message).isOk = acknowledgeable ctx.ext raw := by
  unfold rejectRaw transportAcknowledgement acknowledgeable
  cases asStr (rawSessionId raw) with
  | none => rfl
  | some sid =>
  cases laxInt ctx.ext.intOfText (rawSequence raw) with
  | none => rfl
  | some n =>
  cases asStr (rawContentHash raw) with
  | none => simp [Except.isOk, Except.toBool]
  | some hash => by_cases hn : 1 ≤ n <;> simp [hn, Except.isOk, Except.toBool]

def commitAnswers : Except Exit Committed → Bool
  | .error exit => exit.isOk
  | .ok _ => true

theorem sessionKey_of_text (ext : Externals) {raw : Fields} {sid : String}
    (h : asText (rawSessionId raw) = some sid) : sessionKey ext raw = .ok (some sid) := by
  simp [sessionKey, asText_eq_some h, sqlText]

/-- A lookup that ends the call raises or rejects. -/
theorem openSession_exit {ctx : IngestContext} {db db' : Db} {raw : Fields} {exit : Exit}
    (h : openSession ctx db raw = (db', .error exit)) :
    (∃ e, exit = .error e) ∨ ∃ code message, exit = rejectRaw ctx raw code message := by
  unfold openSession at h
  split at h
  · cases h
    exact .inl ⟨_, rfl⟩
  split at h
  · split at h
    · cases h
      exact .inr ⟨_, _, rfl⟩
    split at h
    · cases h
      exact .inr ⟨_, _, rfl⟩
    split at h
    · cases h
    · cases h
      exact .inl ⟨_, rfl⟩
  · split at h
    · cases h
    · cases h
      exact .inl ⟨_, rfl⟩

/-- After the lookup, a body that does not verify is rejected. -/
theorem ingestCommit_of_opened {ctx : IngestContext} {db db' : Db} {raw : Fields} {opened : Opened}
    (hver : verified? ctx db raw = none) (hopen : openSession ctx db raw = (db', .ok opened)) :
    ∃ code message, ingestCommit ctx db raw = (db', .error (rejectRaw ctx raw code message)) := by
  unfold ingestCommit
  simp only [hopen]
  cases hv : verifyAndBuildEnvelope ctx.ext raw ctx.getPublicKey (asText (rawSessionId raw))
      opened.participants with
  | error r => exact ⟨r.code, r.message, rfl⟩
  | ok e => simp [verified?, hopen, hv, Except.toOption] at hver

theorem commitAnswers_of_not_acknowledgeable {ctx : IngestContext} {db : Db} {raw : Fields}
    (hver : verified? ctx db raw = none) (hack : acknowledgeable ctx.ext raw = false) :
    commitAnswers (ingestCommit ctx db raw).2 = false := by
  rcases hopen : openSession ctx db raw with ⟨db', exit | opened⟩
  · have heq : ingestCommit ctx db raw = (db', .error exit) := by
      simp only [ingestCommit, hopen]
    rw [heq]
    rcases openSession_exit hopen with ⟨e, rfl⟩ | ⟨code, message, rfl⟩
    · rfl
    · simp only [commitAnswers, isOk_rejectRaw, hack]
  · obtain ⟨code, message, heq⟩ := ingestCommit_of_opened hver hopen
    simp only [heq, commitAnswers, isOk_rejectRaw, hack]

/-- Neither is a body whose session id cannot be bound. -/
theorem commitAnswers_of_lone {ctx : IngestContext} {db : Db} {raw : Fields} {cs : List Nat}
    (hsid : rawSessionId raw = .str (.lone cs)) :
    commitAnswers (ingestCommit ctx db raw).2 = false := by
  simp only [ingestCommit, openSession, sessionKey, hsid, bindSql]
  rfl

theorem commitAnswers_of_unverified {ctx : IngestContext} {db : Db} {raw : Fields}
    (hver : verified? ctx db raw = none) :
    commitAnswers (ingestCommit ctx db raw).2 = answersUnverified ctx db raw := by
  cases hack : acknowledgeable ctx.ext raw with
  | false =>
      rw [commitAnswers_of_not_acknowledgeable hver hack, answersUnverified, hack]
      cases asText (rawSessionId raw) <;> rfl
  | true =>
  have hopened : ∀ {db' : Db} {opened : Opened}, openSession ctx db raw = (db', .ok opened) →
      commitAnswers (ingestCommit ctx db raw).2 = true := by
    intro db' opened hopen
    obtain ⟨code, message, heq⟩ := ingestCommit_of_opened hver hopen
    simp only [heq, commitAnswers, isOk_rejectRaw, hack]
  have hended : ∀ {db' : Db} {exit : Exit}, openSession ctx db raw = (db', .error exit) →
      commitAnswers (ingestCommit ctx db raw).2 = exit.isOk := by
    intro db' exit hopen
    simp only [ingestCommit, hopen, commitAnswers]
  obtain ⟨s, hs⟩ : ∃ s, rawSessionId raw = .str s := by
    simp only [acknowledgeable, Bool.and_eq_true] at hack
    obtain ⟨s, hs⟩ := Option.isSome_iff_exists.mp hack.1.1
    exact ⟨s, asStr_eq_some hs⟩
  cases s with
  | lone cs =>
      rw [commitAnswers_of_lone hs, answersUnverified, hs]
      rfl
  | text sid =>
  have hsid : asText (rawSessionId raw) = some sid := by
    rw [hs]
    rfl
  have hkey := sessionKey_of_text ctx.ext hsid
  simp only [answersUnverified, hsid, hack, Bool.true_and]
  cases hrow : db.session? sid with
  | some row =>
      cases hhash : (rawActorUsername raw).hashable with
      | true => exact hopened (by simp only [openSession, hkey, Option.bind_some, hrow, hhash]; rfl)
      | false =>
          rw [hended (by simp only [openSession, hkey, Option.bind_some, hrow, hhash]; rfl)]
          rfl
  | none =>
      by_cases hkind : asText (rawKind raw) = some MessageKind.taskRequest.value
      · cases hpub : ctx.getPublicKey (rawActorUsername raw) with
        | none =>
            rw [hended (by simp only [openSession, hkey, Option.bind_some, hrow, hkind, hpub]; rfl)]
            simp [isOk_rejectRaw, hack]
        | some key =>
            cases hhash : (rawActorUsername raw).hashable with
            | true =>
                rw [hopened (by
                  simp only [openSession, hkey, Option.bind_some, hrow, hkind, hpub, hhash]; rfl)]
                rfl
            | false =>
                rw [hended (by
                  simp only [openSession, hkey, Option.bind_some, hrow, hkind, hpub, hhash]; rfl)]
                simp [hkind, Except.isOk, Except.toBool]
      · rw [hended (by simp only [openSession, hkey, Option.bind_some, hrow, hkind, ne_eq,
          not_false_eq_true, if_true]; rfl)]
        simp [isOk_rejectRaw, hack, hkind]

/-! ### The reducer -/

/-- Whether the reducer accepts, refuses or raises, in terms of its checks. -/
theorem processPeerEnvelope_cases {state : SessionState} {envelope : SessionEnvelope}
    (hsid : envelope.sessionId = state.sessionId) :
    ((∃ participants, Admitted state envelope participants) ∧ inOrder state envelope = true ∧
      permitted state envelope = true ∧ checkTurn state envelope.kind = none ∧
      lacksAgent envelope = false) ∨
    ((∃ r, processPeerEnvelope state envelope = .ok (.refuse state r)) ∧
      (inOrder state envelope = false ∨
        permitted state envelope = false ∧ state.participants.isEmpty = false ∨
        permitted state envelope = true ∧ (checkTurn state envelope.kind).isSome = true)) ∨
    ((∃ e, processPeerEnvelope state envelope = .error e) ∧ inOrder state envelope = true ∧
      (permitted state envelope = false ∧ state.participants.isEmpty = true ∨
        permitted state envelope = true ∧ checkTurn state envelope.kind = none ∧
          lacksAgent envelope = true)) := by
  cases hlive : isTerminalState state.status with
  | true => exact .inr (.inl ⟨⟨_, by simp [processPeerEnvelope, hlive]; rfl⟩, by simp [inOrder, hlive]⟩)
  | false =>
  cases hactor : authorizeActor state envelope with
  | some r =>
      exact .inr (.inl ⟨⟨r, by simp [processPeerEnvelope, hlive, hsid, hactor]⟩,
        by simp [inOrder, hactor]⟩)
  | none =>
  cases hseq : checkSequence state envelope with
  | some r =>
      exact .inr (.inl ⟨⟨r, by simp [processPeerEnvelope, hlive, hsid, hactor, hseq]⟩,
        by simp [inOrder, hseq]⟩)
  | none =>
  have horder : inOrder state envelope = true := by simp [inOrder, hlive, hactor, hseq]
  cases hpermitted : permitted state envelope with
  | false =>
      -- the exemption is looked up now, and is unbound without participants
      simp only [permitted, Bool.or_eq_false_iff, decide_eq_false_iff_not] at hpermitted
      obtain ⟨⟨hsame, hedge⟩, hexempt⟩ := hpermitted
      cases hempty : state.participants.isEmpty with
      | true =>
          refine .inr (.inr ⟨⟨.unboundLocalError, ?_⟩, horder, .inl ⟨rfl, rfl⟩⟩)
          simp [processPeerEnvelope, hlive, hsid, hactor, hseq, checkTransition, hsame, hedge,
            isUnacceptedReceiverAccept, hempty]
      | false =>
          refine .inr (.inl ⟨?_, .inr (.inl ⟨rfl, rfl⟩)⟩)
          have hsome : ∃ r, checkTransition state envelope = .ok (some r) := by
            simp only [checkTransition, hsame, hedge, Bool.false_eq_true, or_self, if_false]
            rcases hu : isUnacceptedReceiverAccept state envelope with _ | _ | _
            · simp [isUnacceptedReceiverAccept, hempty] at hu
            · exact ⟨_, rfl⟩
            · exact absurd hu hexempt
          obtain ⟨r, hr⟩ := hsome
          exact ⟨r, by simp [processPeerEnvelope, hlive, hsid, hactor, hseq, hr]⟩
  | true =>
  have htransition : checkTransition state envelope = .ok none := by
    rw [checkTransition_eq_none]
    simpa [permitted, or_assoc] using hpermitted
  cases hturn : checkTurn state envelope.kind with
  | some r =>
      exact .inr (.inl ⟨⟨r, by
        simp [processPeerEnvelope, hlive, hsid, hactor, hseq, htransition, hturn]⟩,
        .inr (.inr ⟨rfl, rfl⟩)⟩)
  | none =>
  cases hafter : participantsAfter state envelope with
  | ok participants =>
      refine .inl ⟨⟨participants, hlive, hsid, hactor, hseq, htransition, hturn, hafter⟩, horder,
        rfl, rfl, ?_⟩
      by_contra hlacks
      simp only [lacksAgent, Bool.not_eq_false, Bool.and_eq_true, decide_eq_true_eq,
        Option.isNone_iff_eq_none] at hlacks
      simp [participantsAfter, hlacks.1, hlacks.2] at hafter
  | error e =>
      refine .inr (.inr ⟨⟨e, by
        simp [processPeerEnvelope, hlive, hsid, hactor, hseq, htransition, hturn, hafter]⟩, horder,
        .inr ⟨rfl, rfl, ?_⟩⟩)
      unfold participantsAfter at hafter
      split at hafter
      · rename_i hkind
        split at hafter
        · rename_i hagent
          simp [lacksAgent, hkind, hagent]
        · cases hafter
      · cases hafter

/-! ### Verified bodies -/

section Verified

variable {ctx : IngestContext} {db : Db} {raw : Fields} {envelope : SessionEnvelope}

theorem isOk_deliveredAck (ctx : IngestContext) (hread : ReadFrom raw envelope) :
    (deliveredAck ctx raw envelope).isOk = true := by
  obtain ⟨ack, h, -⟩ := deliveredAck_ok hread ctx
  rw [h]
  rfl

theorem isOk_rejectVerified (ctx : IngestContext) (hread : ReadFrom raw envelope)
    (code : Option ErrorCode) (message : Option PyStr) :
    (rejectVerified ctx raw envelope code message).isOk = true := by
  obtain ⟨ack, h, -⟩ := rejectVerified_ok hread ctx code message
  rw [h]
  rfl

/-- On a state that was loaded, the call is answered or committed unless the
reducer raises. -/
theorem commitAnswers_ingestLoaded {base : Db} {stored : SessionRow} {state : SessionState}
    (row : Option SessionRow) (hread : ReadFrom raw envelope)
    (hnew : storedEvent? db envelope.sessionId envelope.actorUsername envelope.sequence = none)
    (hloaded : Loaded ctx db envelope base stored state) :
    commitAnswers (ingestLoaded ctx base raw row envelope state).2 =
      (processPeerEnvelope (advanceToReview state envelope.kind) envelope).isOk := by
  rcases ingestLoaded_cases raw row hread.payload hnew hloaded with
    ⟨exit, heq, hno⟩ | ⟨participants, db', hadmitted, heq, -⟩
  · cases hred : processPeerEnvelope (advanceToReview state envelope.kind) envelope with
    | error e =>
        simp only [ingestLoaded, hred]
        rfl
    | ok result =>
        cases hs : result.success with
        | true =>
            obtain ⟨participants, hadmitted, -⟩ := admitted_of_processPeerEnvelope hred hs
            exact absurd hadmitted (hno participants)
        | false =>
            simp only [ingestLoaded, hred, hs, if_true, commitAnswers, isOk_rejectVerified ctx hread]
            rfl
  · rw [heq, processPeerEnvelope_of_admitted hadmitted]
    rfl

theorem Expires.sessionEvents {now : Instant} {db db' : Db} (h : Expires now db db') :
    db'.sessionEvents = db.sessionEvents := by
  rcases h with h | ⟨sid, row, -, -, h⟩
  · exact h.sessionEvents
  · rw [SameTables.sessionEvents h]
    rfl

theorem storedEvent?_afterExpiry (ctx : IngestContext) (db : Db) (sid actor : String) (n : Nat)
    (sid' : String) :
    storedEvent? (afterExpiry ctx db sid') sid actor n = storedEvent? db sid actor n := by
  rw [storedEvent?, (expires_afterExpiry ctx db sid').sessionEvents, storedEvent?]

/-- A sequence that is already stored is a duplicate or a conflict. -/
theorem commitAnswers_of_repeated (hver : verified? ctx db raw = some envelope)
    (hstored : (storedEvent? db envelope.sessionId envelope.actorUsername
      envelope.sequence).isSome = true) :
    commitAnswers (ingestCommit ctx db raw).2 = true := by
  have hread := readFrom_of_verified hver
  rw [ingestCommit_of_verified hver, ingestVerified]
  split
  · exact isOk_deliveredAck ctx hread
  · exact isOk_rejectVerified ctx hread (some .sequenceReuseMismatch) _
  · rename_i db' hc
    have hnone := checkSequenceConflict_new.mp (congrArg Prod.snd hc)
    rw [storedEvent?_afterExpiry] at hnone
    rw [hnone] at hstored
    cases hstored

def lookedUp (now : Instant) (row : SessionRow) : SessionRow :=
  if expiresNow row now then setStatus .expired now row else row

theorem session?_lazyExpire (ctx : IngestContext) {row : SessionRow} {sid : String}
    (hrow : db.session? sid = some row) :
    (lazyExpire ctx db row).session? sid = some (lookedUp ctx.now row) := by
  have hid := sessionId_of_session? hrow
  rw [lookedUp]
  rcases lazyExpire_cases ctx (hid ▸ hrow) with ⟨hexp, hw⟩ | ⟨hexp, hsame⟩
  · rw [hexp, if_pos rfl, SameTables.session? hw, ← hid,
      session?_updateSession_self (fun _ => setStatus_sessionId _ _ _), hid, hrow]
    rfl
  · rw [hexp, if_neg (by simp), hsame.session?, hrow]

theorem session?_afterExpiry (ctx : IngestContext) {row : SessionRow}
    (hrow : db.session? envelope.sessionId = some row) :
    (afterExpiry ctx db envelope.sessionId).session? envelope.sessionId =
      some (lookedUp ctx.now row) := by
  rw [afterExpiry, hrow]
  exact session?_lazyExpire ctx hrow

theorem loaded_afterExpiry (ctx : IngestContext) {row : SessionRow}
    (hrow : db.session? envelope.sessionId = some row) :
    Loaded ctx (afterExpiry ctx db envelope.sessionId) envelope
      (afterExpiry ctx db envelope.sessionId) (lookedUp ctx.now row)
      (stateOf ctx.ext (lookedUp ctx.now row) (db.eventsOf envelope.sessionId)) := by
  have hloaded : Loaded ctx (afterExpiry ctx db envelope.sessionId) envelope _ _ _ :=
    .stored (session?_afterExpiry ctx hrow)
  rw [Db.eventsOf, (expires_afterExpiry ctx db _).sessionEvents, ← Db.eventsOf] at hloaded
  exact hloaded

/-- Under a new number of a stored session the call runs the reducer. -/
theorem ingestCommit_of_stored {row : SessionRow} (hver : verified? ctx db raw = some envelope)
    (hnew : storedEvent? db envelope.sessionId envelope.actorUsername envelope.sequence = none)
    (hrow : db.session? envelope.sessionId = some row) :
    ingestCommit ctx db raw = ingestLoaded ctx (afterExpiry ctx db envelope.sessionId) raw
      (some row) envelope
      (stateOf ctx.ext (lookedUp ctx.now row) (db.eventsOf envelope.sessionId)) := by
  have hnew' : storedEvent? (afterExpiry ctx db envelope.sessionId) envelope.sessionId
      envelope.actorUsername envelope.sequence = none := by
    rw [storedEvent?_afterExpiry]
    exact hnew
  rw [ingestCommit_of_verified hver, ingestVerified_of_loaded hnew' (loaded_afterExpiry ctx hrow)
    (by rw [hrow, session?_afterExpiry ctx hrow]; rfl), hrow]

/-- The session is stored: it expires now, or the reducer decides. -/
theorem commitAnswers_of_stored {row : SessionRow} (hver : verified? ctx db raw = some envelope)
    (hnew : storedEvent? db envelope.sessionId envelope.actorUsername envelope.sequence = none)
    (hrow : db.session? envelope.sessionId = some row) :
    commitAnswers (ingestCommit ctx db raw).2 =
      (expiresNow row ctx.now || (processPeerEnvelope (advanceToReview
        (stateOf ctx.ext row (db.eventsOf envelope.sessionId)) envelope.kind) envelope).isOk) := by
  have hnew' : storedEvent? (afterExpiry ctx db envelope.sessionId) envelope.sessionId
      envelope.actorUsername envelope.sequence = none := by
    rw [storedEvent?_afterExpiry]
    exact hnew
  rw [ingestCommit_of_stored hver hnew hrow, commitAnswers_ingestLoaded _
    (readFrom_of_verified hver) hnew' (loaded_afterExpiry ctx hrow), lookedUp]
  cases hexp : expiresNow row ctx.now with
  | true =>
      rw [advanceToReview_eq]
      rfl
  | false => rfl

/-- The row of a new session can be built exactly when every value can be
encrypted or bound; a text receiver always can. -/
theorem isOk_bootstrapRow {type : SessionType} {receiver : String}
    (hreceiver : asText (receiverOf db envelope) = some receiver) :
    (bootstrapRow ctx db type envelope).isOk =
      ((objectiveOf (envelope.payload.getD "goal" (.text ""))).isOk &&
        (bindSql (if (envelope.payload.getD "requested_agent_id" (.text "")).truthy then
          envelope.payload.getD "requested_agent_id" (.text "") else .null)).isOk &&
        (bindSql (rawBudgets type envelope.payload).1).isOk &&
        (bindSql (rawBudgets type envelope.payload).2.1).isOk &&
        (bindSql (rawBudgets type envelope.payload).2.2).isOk) := by
  simp only [bootstrapRow, bind, Except.bind, asText_eq_some hreceiver, bindSql_text]
  cases objectiveOf (envelope.payload.getD "goal" (.text "")) with
  | error e => rfl
  | ok objective =>
  cases bindSql (if (envelope.payload.getD "requested_agent_id" (.text "")).truthy then
    envelope.payload.getD "requested_agent_id" (.text "") else .null) with
  | error e => rfl
  | ok agent =>
  cases bindSql (rawBudgets type envelope.payload).1 with
  | error e => rfl
  | ok runtime =>
  cases bindSql (rawBudgets type envelope.payload).2.1 with
  | error e => rfl
  | ok bytes =>
  cases bindSql (rawBudgets type envelope.payload).2.2 with
  | error e => rfl
  | ok cost => rfl

/-- No session is stored: the request's own values decide. -/
theorem commitAnswers_of_new (hver : verified? ctx db raw = some envelope)
    (hnew : storedEvent? db envelope.sessionId envelope.actorUsername envelope.sequence = none)
    (hnone : db.session? envelope.sessionId = none) :
    commitAnswers (ingestCommit ctx db raw).2 = answersRequest db envelope := by
  have hread := readFrom_of_verified hver
  have hkind := verified_isTaskRequest hver hnone
  have hafter : afterExpiry ctx db envelope.sessionId = db := by simp [afterExpiry, hnone]
  rw [ingestCommit_of_verified hver, hafter, hnone, ingestVerified,
    checkSequenceConflict_of_none hnew]
  simp only [loadState, answersRequest]
  cases hmode : SessionType.ofJson
    (envelope.payload.getD "collaboration_mode" (.text "ask")) with
  | none =>
      simp [commitAnswers, isOk_rejectVerified ctx hread]
  | some type =>
  cases hreceiver : asText (receiverOf db envelope) with
  | none =>
      cases hboot : bootstrapRow ctx db type envelope with
      | error e => simp [hboot, commitAnswers, Except.isOk, Except.toBool]
      | ok row => simp [hboot, commitAnswers, Except.isOk, Except.toBool]
  | some receiver =>
  simp only [Option.isSome_some, Bool.and_true]
  rw [← isOk_bootstrapRow hreceiver]
  cases hboot : bootstrapRow ctx db type envelope with
  | error e => rfl
  | ok row =>
      have hloaded : Loaded ctx db envelope (db.addSession row) row (bootstrapState row envelope) :=
        .created hnone hkind ⟨type, hmode, hboot⟩ (by rw [hreceiver]; rfl)
      have hrow := newRow_of_creates ⟨type, hmode, hboot⟩
      simp only
      rw [commitAnswers_ingestLoaded none hread hnew hloaded, advanceToReview_bootstrapState]
      by_cases hseq : envelope.sequence = 1
      · rw [processPeerEnvelope_of_admitted (admitted_bootstrapState hrow hkind hseq)]
        rfl
      · obtain ⟨message, hred⟩ := processPeerEnvelope_bootstrapState hrow hkind hseq
        rw [hred]
        rfl

end Verified

/-! ### Offers -/

section Offer

variable {ctx : IngestContext} {db : Db} {raw : Fields} {envelope : SessionEnvelope}

/-- Storing an offer raises exactly on invalid metadata. -/
theorem isOk_storeOffer (ctx : IngestContext) (db : Db) (envelope : SessionEnvelope)
    (agentId : Option String) :
    (storeOffer ctx db envelope agentId).2.isOk =
      (validateArtifactOffer ctx.ext envelope.payload).isSome := by
  unfold storeOffer
  simp only
  split
  · rename_i hoffer
    rw [hoffer]
    rfl
  rename_i offer hoffer
  rw [hoffer]
  split
  · rfl
  split
  · rfl
  split
  · rfl
  split
  · rfl
  split
  · rfl
  split <;> rfl

/-- An envelope of the node itself, for a stored session in `active`, is always
answered: every field is text or a positive number, and `artifact_accept` keeps
the status. -/
theorem isOk_ingestAccept (ctx ctx' : IngestContext) {db : Db} {sid : String}
    (artifactId contentHash : String) (agentId : Option String) (key : PrivateKey) {row : SessionRow}
    (hrow : db.session? sid = some row) (hactive : row.status = .active) :
    (ingestAccept ctx' db
      (acceptEnvelope ctx db sid artifactId agentId contentHash key)).2.isOk = true := by
  have hcommit : commitAnswers (ingestCommit ctx' db
      (acceptEnvelope ctx db sid artifactId agentId contentHash key)).2 = true := by
    cases hver : verified? ctx' db
        (acceptEnvelope ctx db sid artifactId agentId contentHash key) with
    | none =>
        have hsid : asText (rawSessionId
            (acceptEnvelope ctx db sid artifactId agentId contentHash key)) = some sid := rfl
        have hseq : laxInt ctx'.ext.intOfText (rawSequence
            (acceptEnvelope ctx db sid artifactId agentId contentHash key)) =
              some ((nextSequence db sid db.myUsername : Nat) : Int) := rfl
        have hid : asStr (rawSessionId
            (acceptEnvelope ctx db sid artifactId agentId contentHash key)) = some (.text sid) := rfl
        have hhash : asStr (rawContentHash (acceptEnvelope ctx db sid artifactId agentId
            contentHash key)) = some (.text contentHash) := rfl
        have hpos : (1 : Int) ≤ (nextSequence db sid db.myUsername : Nat) := by
          unfold nextSequence
          omega
        rw [commitAnswers_of_unverified hver]
        simp [answersUnverified, acknowledgeable, hsid, hid, hseq, hhash, hpos,
          rawActorUsername_acceptEnvelope, Json.hashable]
    | some accept =>
        obtain ⟨hkind, -, hid⟩ := readFrom_acceptEnvelope hver
        rw [← hid] at hrow
        cases hstored : storedEvent? db accept.sessionId accept.actorUsername accept.sequence with
        | some e => exact commitAnswers_of_repeated hver (by rw [hstored]; rfl)
        | none =>
        rw [commitAnswers_of_stored hver hstored hrow, Bool.or_eq_true]
        right
        have hsid : accept.sessionId = (advanceToReview
            (stateOf ctx'.ext row (db.eventsOf accept.sessionId)) accept.kind).sessionId := by
          rw [advanceToReview_eq]
          exact (sessionId_of_session? hrow).symm
        have hstatus : (advanceToReview
            (stateOf ctx'.ext row (db.eventsOf accept.sessionId)) accept.kind).status = .active := by
          rw [advanceToReview_eq, hkind]
          simp [reviewStatus, stateOf, hactive]
        rcases processPeerEnvelope_cases hsid with ⟨⟨participants, hadmitted⟩, -⟩ |
          ⟨⟨r, hr⟩, -⟩ | ⟨-, -, ⟨hperm, -⟩ | ⟨-, -, hlacks⟩⟩
        · rw [processPeerEnvelope_of_admitted hadmitted]
          rfl
        · rw [hr]
          rfl
        · rw [permitted, hstatus, targetStatus, hkind] at hperm
          simp [peerKindTransition] at hperm
        · simp [lacksAgent, hkind] at hlacks
  unfold ingestAccept
  split
  · rename_i exit heq
    rw [heq] at hcommit
    exact hcommit
  · rename_i committed heq
    rcases ingestCommit_cases ctx' db
      (acceptEnvelope ctx db sid artifactId agentId contentHash key) with ⟨_, _, h, -⟩ |
      ⟨_, _, _, -, -, h, -⟩ | ⟨accept, _, _, _, _, _, haccepts, h, -⟩
    · rw [h] at heq
      cases heq
    · rw [h] at heq
      cases heq
    · rw [h] at heq
      cases heq
      exact isOk_deliveredAck ctx' (readFrom_of_verified haccepts.verified)

/-- The handling of a committed offer is answered exactly when its metadata are
valid. -/
theorem isOk_handleOffer (hjcs : ∀ artifactId sid,
      (ctx.ext.jcsHash (acceptPayload artifactId sid)).isSome = true)
    {committed : Committed} {row : SessionRow} (hread : ReadFrom raw committed.envelope)
    (hrow : db.session? committed.envelope.sessionId = some row) (hactive : row.status = .active) :
    (handleOffer ctx db raw committed).exit.isOk =
      (validateArtifactOffer ctx.ext committed.envelope.payload).isSome := by
  have hstores := storeOffer_stores ctx db committed.envelope (receivingAgent db committed.row)
  rw [← isOk_storeOffer ctx db committed.envelope (receivingAgent db committed.row)]
  unfold handleOffer
  simp only
  split
  · rename_i h
    rw [h]
    rfl
  · rename_i h
    rw [h]
    exact isOk_deliveredAck ctx hread
  rename_i db' offer x25519 h
  rw [h] at hstores ⊢
  obtain ⟨contentHash, hhash⟩ := Option.isSome_iff_exists.mp
    (hjcs offer.artifactId committed.envelope.sessionId)
  have hcontent : computeContentHash ctx.ext
      (acceptPayload offer.artifactId committed.envelope.sessionId) = some contentHash := by
    rw [computeContentHash, if_pos (by rfl)]
    exact hhash
  simp only [hcontent]
  split
  · exact isOk_deliveredAck ctx hread
  rename_i key _
  obtain ⟨n, hn⟩ := hstores.session? committed.envelope.sessionId
  rw [hrow, Option.map_some] at hn
  have haccept := isOk_ingestAccept ctx (acceptContext ctx db' key x25519) offer.artifactId
    contentHash (receivingAgent db committed.row) key hn hactive
  split
  · rename_i hres
    rw [hres] at haccept
    cases haccept
  · exact isOk_deliveredAck ctx hread

end Offer

/-! ### The whole call -/

section Call

variable {ctx : IngestContext} {db : Db} {raw : Fields}

theorem isOk_exit_of_ended {db' : Db} {exit : Exit}
    (h : ingestCommit ctx db raw = (db', .error exit)) :
    (ingestEnvelope ctx db raw).exit.isOk = commitAnswers (ingestCommit ctx db raw).2 := by
  simp only [ingestEnvelope, h, commitAnswers]

/-- An accepted envelope is answered unless it is an offer of the peer without
valid metadata. -/
theorem isOk_exit_of_accepts (hjcs : ∀ artifactId sid,
      (ctx.ext.jcsHash (acceptPayload artifactId sid)).isSome = true)
    {envelope : SessionEnvelope} {base : Db} {stored : SessionRow} {state : SessionState}
    {participants : Dict String ParticipantInfo}
    (h : Accepts ctx db raw envelope base stored state participants) :
    (ingestEnvelope ctx db raw).exit.isOk = !lacksMetadata ctx.ext db envelope := by
  obtain ⟨db', heq, hcommits⟩ := ingestCommit_of_accepts h
  have hread := readFrom_of_verified h.verified
  have hme : db'.myUsername = db.myUsername := by
    rw [Db.myUsername, hcommits.identity, h.loaded.base_identity, Db.myUsername]
  have hoffer : isPeerOffer db' envelope = isPeerOffer db envelope := by
    rw [isPeerOffer, hme, isPeerOffer]
  simp only [ingestEnvelope, heq, hoffer, lacksMetadata]
  cases hpeer : isPeerOffer db envelope with
  | false => exact isOk_deliveredAck ctx hread
  | true =>
      have hkind : envelope.kind = .artifactOffer := by
        simp only [isPeerOffer, Bool.and_eq_true, beq_iff_eq] at hpeer
        exact hpeer.1
      have hactive : (finalState db state envelope participants).status = .active := by
        rw [finalState_status, hkind]
        simp [targetStatus, peerKindTransition, settledStatus]
      have hrow := hcommits.session?_self h.loaded.base_session?
      rw [hactive] at hrow
      simp only [if_true, Bool.true_and, Option.not_isNone]
      exact isOk_handleOffer hjcs hread hrow rfl

theorem ended_or_accepts {envelope : SessionEnvelope} {row : SessionRow}
    (hver : verified? ctx db raw = some envelope) (hrow : db.session? envelope.sessionId = some row) :
    (∃ db' exit, ingestCommit ctx db raw = (db', .error exit)) ∨
    ∃ participants, Accepts ctx db raw envelope db row
      (stateOf ctx.ext row (db.eventsOf envelope.sessionId)) participants := by
  rcases ingestCommit_cases ctx db raw with ⟨db', exit, heq, -⟩ |
    ⟨_, newRow, exit, _, _, heq, -⟩ | ⟨e, base, stored, state, participants, db', haccepts, -⟩
  · exact .inl ⟨db', exit, heq⟩
  · exact .inl ⟨_, exit, heq⟩
  · have hv := haccepts.verified
    rw [hver] at hv
    cases hv
    cases haccepts.loaded with
    | stored hrow' =>
        rw [hrow] at hrow'
        cases hrow'
        exact .inr ⟨participants, haccepts⟩
    | created hnone _ _ _ =>
        rw [hrow] at hnone
        cases hnone

theorem isOk_exit_of_stored (hjcs : ∀ artifactId sid,
      (ctx.ext.jcsHash (acceptPayload artifactId sid)).isSome = true)
    {envelope : SessionEnvelope} {row : SessionRow} (hver : verified? ctx db raw = some envelope)
    (hnew : storedEvent? db envelope.sessionId envelope.actorUsername envelope.sequence = none)
    (hrow : db.session? envelope.sessionId = some row) :
    (ingestEnvelope ctx db raw).exit.isOk = (expiresNow row ctx.now ||
      answersEnvelope ctx.ext db (advanceToReview
        (stateOf ctx.ext row (db.eventsOf envelope.sessionId)) envelope.kind) envelope) := by
  have hsid : envelope.sessionId = (advanceToReview
      (stateOf ctx.ext row (db.eventsOf envelope.sessionId)) envelope.kind).sessionId := by
    rw [advanceToReview_eq]
    exact (sessionId_of_session? hrow).symm
  have hcases := processPeerEnvelope_cases hsid
  rcases ended_or_accepts hver hrow with ⟨db', exit, heq⟩ | ⟨participants, haccepts⟩
  · rw [isOk_exit_of_ended heq, commitAnswers_of_stored hver hnew hrow]
    cases hexp : expiresNow row ctx.now with
    | true => rw [Bool.true_or, Bool.true_or]
    | false =>
    rw [Bool.false_or, Bool.false_or, answersEnvelope]
    rcases hcases with ⟨⟨participants, hadmitted⟩, -⟩ |
      ⟨⟨r, hr⟩, horder | ⟨hperm, hempty⟩ | ⟨hperm, hturn⟩⟩ |
      ⟨⟨e, he⟩, horder, ⟨hperm, hempty⟩ | ⟨hperm, hturn, hagent⟩⟩
    · have haccepts : Accepts ctx db raw envelope db row _ participants :=
        { verified := hver
          fresh := hnew
          timely := by
            intro r hr
            rw [hrow] at hr
            cases hr
            exact hexp
          loaded := .stored hrow
          admitted := hadmitted }
      obtain ⟨db'', hok, -⟩ := ingestCommit_of_accepts haccepts
      rw [heq] at hok
      cases hok
    · simp [hr, horder, Except.isOk, Except.toBool]
    · simp [hr, hperm, hempty, Except.isOk, Except.toBool]
    · simp [hr, hperm, hturn, Except.isOk, Except.toBool]
    · simp [he, horder, hperm, hempty, Except.isOk, Except.toBool]
    · simp [he, horder, hperm, hturn, hagent, Except.isOk, Except.toBool]
  · have hred := processPeerEnvelope_of_admitted haccepts.admitted
    rw [isOk_exit_of_accepts hjcs haccepts, haccepts.timely row hrow, Bool.false_or, answersEnvelope]
    rcases hcases with ⟨-, horder, hperm, hturn, hagent⟩ | ⟨⟨r, hr⟩, -⟩ | ⟨⟨e, he⟩, -⟩
    · simp [horder, hperm, hturn, hagent]
    · rw [hr] at hred
      cases hred
    · rw [he] at hred
      cases hred

theorem isOk_exit (hjcs : ∀ artifactId sid,
      (ctx.ext.jcsHash (acceptPayload artifactId sid)).isSome = true) :
    (ingestEnvelope ctx db raw).exit.isOk = answers ctx db raw := by
  unfold answers
  cases hver : verified? ctx db raw with
  | none =>
      obtain ⟨exit, heq⟩ := ingestCommit_of_unverified hver
      rw [isOk_exit_of_ended heq, commitAnswers_of_unverified hver]
  | some envelope =>
  simp only
  cases hnew : storedEvent? db envelope.sessionId envelope.actorUsername envelope.sequence with
  | some e =>
      have hcommit := commitAnswers_of_repeated hver (by rw [hnew]; rfl)
      rcases ingestCommit_cases ctx db raw with ⟨db', exit, heq, -⟩ |
        ⟨_, newRow, exit, _, _, heq, -⟩ | ⟨e, base, stored, state, participants, db', haccepts, -⟩
      · rw [isOk_exit_of_ended heq, hcommit]
        rfl
      · rw [isOk_exit_of_ended heq, hcommit]
        rfl
      · have hv := haccepts.verified
        rw [hver] at hv
        cases hv
        rw [haccepts.fresh] at hnew
        cases hnew
  | none =>
  rw [Option.isSome_none, Bool.false_or]
  cases hrow : db.session? envelope.sessionId with
  | some row => exact isOk_exit_of_stored hjcs hver hnew hrow
  | none =>
      rw [← commitAnswers_of_new hver hnew hrow]
      rcases hc : ingestCommit ctx db raw with ⟨db', exit | committed⟩
      · rw [isOk_exit_of_ended hc, hc]
      · rcases ingestCommit_cases ctx db raw with ⟨_, exit, heq, -⟩ |
          ⟨_, newRow, exit, _, _, heq, -⟩ | ⟨e, base, stored, state, participants, _, haccepts, -⟩
        · rw [hc] at heq
          cases heq
        · rw [hc] at heq
          cases heq
        · have hv := haccepts.verified
          rw [hver] at hv
          cases hv
          have hkind := verified_isTaskRequest hver hrow
          rw [isOk_exit_of_accepts hjcs haccepts]
          simp [lacksMetadata, isPeerOffer, hkind, commitAnswers]

/-- A call ends with an acknowledgement exactly under the condition. -/
theorem acknowledged_iff (ctx : IngestContext) (db : Db) (raw : Fields)
    (hjcs : ∀ artifactId sid,
      (ctx.ext.jcsHash (acceptPayload artifactId sid)).isSome = true) :
    (∃ ack, (ingestEnvelope ctx db raw).exit = .ok ack) ↔ answers ctx db raw = true := by
  rw [← isOk_exit hjcs]
  cases (ingestEnvelope ctx db raw).exit with
  | error e => simp [Except.isOk, Except.toBool]
  | ok ack => simp [Except.isOk, Except.toBool]

theorem acknowledged_request :
    ∃ ack, (ingestEnvelope Sample.context Sample.bobDb
      (Sample.envelope "s1" "alice" "scout" 1 .taskRequest Sample.request)).exit = .ok ack :=
  (acknowledged_iff Sample.context Sample.bobDb _ fun _ _ => rfl).mpr (by decide +kernel)

/-- The empty object: its acknowledgement would have sequence 0. -/
theorem empty_body_raises :
    ¬∃ ack, (ingestEnvelope Sample.context Sample.bobDb []).exit = .ok ack := by
  rintro ⟨ack, h⟩
  have hexit : (ingestEnvelope Sample.context Sample.bobDb []).exit.isOk = false := by
    decide +kernel
  rw [h] at hexit
  cases hexit

end Call

end Kin.Transport
