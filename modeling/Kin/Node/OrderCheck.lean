import Kin.Node.EventLog
import Kin.Node.Redelivery
import Kin.Transport.AgentCheck

/-!
When `ingest_envelope` answers `OUT_OF_ORDER_SEQUENCE`. Only the reducer's
sequence check has this code. A verified envelope comes to it under a new number
in a live session, or by opening one, and there it is refused exactly if a lower
number of its actor is missing from the log.
-/

namespace Kin.Node

open Kin.Py Kin.Lib Kin.Schemas Kin.Session Kin.Storage Kin.Audit Kin.Transport

variable {ctx : IngestContext} {db : Db} {raw : Fields} {envelope : SessionEnvelope}

/-- The call is rejected with `OUT_OF_ORDER_SEQUENCE`. -/
def OrderRefused (ctx : IngestContext) (db : Db) (raw : Fields) : Prop :=
  ∃ ack, (ingestEnvelope ctx db raw).exit = .ok ack ∧ ack.status = .rejected ∧
    ack.errorCode = some .outOfOrderSequence

instance (ctx : IngestContext) (db : Db) (raw : Fields) : Decidable (OrderRefused ctx db raw) :=
  decidable_of_iff ((ingestEnvelope ctx db raw).exit.toOption.any fun ack =>
    ack.status == .rejected && ack.errorCode == some .outOfOrderSequence) <| by
  unfold OrderRefused
  cases (ingestEnvelope ctx db raw).exit with
  | error e => simp [Except.toOption]
  | ok ack => simp [Except.toOption]

/-- The number is stored, under a name; reconstruction drops the empty one. -/
def Counted (db : Db) (sid actor : String) (n : Nat) : Prop :=
  actor ≠ "" ∧ (storedEvent? db sid actor n).isSome = true

/-- The envelope's number is new, and a lower one of its actor is missing. -/
structure Early (db : Db) (envelope : SessionEnvelope) : Prop where
  new : storedEvent? db envelope.sessionId envelope.actorUsername envelope.sequence = none
  missing : ∃ n, 1 ≤ n ∧ n < envelope.sequence ∧
    ¬Counted db envelope.sessionId envelope.actorUsername n

/-- The checks ahead of the order pass: the session is live and the actor
authorized, or the envelope opens a session. -/
inductive Admissible (ctx : IngestContext) (db : Db) (envelope : SessionEnvelope) : Prop
  | stored {row : SessionRow} (hrow : db.session? envelope.sessionId = some row)
      (htimely : expiresNow row ctx.now = false) (hlive : isTerminalState row.status = false)
      (hactor : authorizeActor (advanceToReview (stateOf ctx.ext row
        (db.eventsOf envelope.sessionId)) envelope.kind) envelope = none)
  | opens {row : SessionRow} (hopens : Opens ctx db envelope row)
      (hreceiver : (asText (receiverOf db envelope)).isSome = true)

/-! ### The number the reducer expects -/

/-- The last number of an actor that the reducer knows. -/
def lastNumber (db : Db) (sid actor : String) : Nat :=
  if actor = "" then 0 else (sequencesOf db sid actor).length

theorem lastSequence_eq (hlog : LogInvariant db) (ext : Externals) (row : SessionRow)
    (sid actor : String) (kind : MessageKind) :
    (advanceToReview (stateOf ext row (db.eventsOf sid)) kind).lastSequence actor =
      lastNumber db sid actor := by
  rw [lastSequence_advanceToReview, lastNumber]
  by_cases hempty : actor = ""
  · rw [if_pos hempty, SessionState.lastSequence, hempty]
    change ((eventSequences _).get? "").getD 0 = 0
    rw [get?_eventSequences_empty]
    rfl
  · rw [if_neg hempty]
    exact lastSequence_stateOf (hlog.sequenced sid) hempty

theorem counted_iff (hlog : LogInvariant db) {sid actor : String} {n : Nat} (hpos : 1 ≤ n) :
    Counted db sid actor n ↔ n ≤ lastNumber db sid actor := by
  unfold Counted lastNumber
  by_cases hempty : actor = ""
  · rw [if_pos hempty]
    exact iff_of_false (fun h => h.1 hempty) (by omega)
  · rw [if_neg hempty, and_iff_right hempty, isSome_storedEvent?_iff hlog]
    omega

theorem early_iff (hlog : LogInvariant db) :
    Early db envelope ↔
      storedEvent? db envelope.sessionId envelope.actorUsername envelope.sequence = none ∧
        envelope.sequence ≠ lastNumber db envelope.sessionId envelope.actorUsername + 1 := by
  have hpos := envelope.sequence_pos
  constructor
  · rintro ⟨hnew, n, hn, hlt, hmissing⟩
    rw [counted_iff hlog hn] at hmissing
    exact ⟨hnew, by omega⟩
  · rintro ⟨hnew, hne⟩
    refine ⟨hnew, lastNumber db envelope.sessionId envelope.actorUsername + 1, by omega, ?_, ?_⟩
    · -- a new number is above the last one
      have hnot : ¬Counted db envelope.sessionId envelope.actorUsername envelope.sequence := by
        rintro ⟨-, hsome⟩
        rw [hnew] at hsome
        cases hsome
      rw [counted_iff hlog hpos] at hnot
      omega
    · rw [counted_iff hlog (by omega)]
      omega

/-! ### Which check has the code -/

theorem code_authorizeActor {state : SessionState} {r : Rejection}
    (h : authorizeActor state envelope = some r) : r.code ≠ .outOfOrderSequence := by
  unfold authorizeActor at h
  split at h
  · cases h
  split at h
  · cases h
    simp
  split at h
  · cases h
    simp
  split at h
  · cases h
    simp
  · cases h

theorem checkSequence_outOfOrder {state : SessionState} {last : Nat}
    (hlast : state.lastSequence envelope.actorUsername = last) :
    (∃ r, checkSequence state envelope = some r ∧ r.code = .outOfOrderSequence) ↔
      envelope.sequence ≠ last ∧ envelope.sequence ≠ last + 1 := by
  unfold checkSequence
  rw [hlast]
  dsimp only
  split
  · rename_i heq
    refine iff_of_false ?_ fun h => h.1 (Int.ofNat.inj heq)
    rintro ⟨r, hr, hcode⟩
    cases hr
    cases hcode
  rename_i hne
  split
  · exact iff_of_true ⟨_, rfl, rfl⟩ ⟨by omega, by omega⟩
  · refine iff_of_false ?_ fun h => by omega
    rintro ⟨r, hr, -⟩
    cases hr

/-- The reducer refuses for the order exactly if a live session's authorized
actor does not bring its next number. -/
theorem processPeerEnvelope_outOfOrder {state : SessionState} {last : Nat}
    (hsid : envelope.sessionId = state.sessionId)
    (hlast : state.lastSequence envelope.actorUsername = last) :
    (∃ result, processPeerEnvelope state envelope = .ok result ∧
      result.errorCode = some .outOfOrderSequence) ↔
      isTerminalState state.status = false ∧ authorizeActor state envelope = none ∧
        envelope.sequence ≠ last ∧ envelope.sequence ≠ last + 1 := by
  rw [← checkSequence_outOfOrder hlast]
  cases hlive : isTerminalState state.status with
  | true => simp [processPeerEnvelope, hlive, ReducerResult.refuse]
  | false =>
  cases hactor : authorizeActor state envelope with
  | some r =>
      have hcode := code_authorizeActor hactor
      simp [processPeerEnvelope_of_unauthorized hlive hsid hactor, ReducerResult.refuse, hcode]
  | none =>
  cases hseq : checkSequence state envelope with
  | some r => simp [processPeerEnvelope, hlive, hsid, hactor, hseq, ReducerResult.refuse]
  | none =>
  -- the later checks have other codes
  refine iff_of_false ?_ (by simp)
  rintro ⟨result, h, hcode⟩
  rcases errorCode_of_sequenced h hlive hsid hactor hseq hcode with h | h
  · cases h
  · cases h

/-! ### The call -/

theorem code_refuseUnencodable (ext : Externals) (getPublicKey : Json → Option PublicKey)
    (active : Option String) (participants : Dict String String)
    (envelope : UnencodableEnvelope) :
    (refuseUnencodable ext getPublicKey active participants envelope).code ≠
      .outOfOrderSequence := by
  have hunsigned : (refuseUnencodable.unsigned getPublicKey envelope).code ≠
      .outOfOrderSequence := by
    unfold refuseUnencodable.unsigned
    split
    · simp
    · simp
  unfold refuseUnencodable
  repeat' split
  all_goals first
    | exact hunsigned
    | simp

theorem code_verifyAndBuildEnvelope {getPublicKey : Json → Option PublicKey}
    {active : Option String} {participants : Dict String String} {r : Unverified} {ext : Externals}
    (h : verifyAndBuildEnvelope ext raw getPublicKey active participants = .error r) :
    r.code ≠ .outOfOrderSequence := by
  unfold verifyAndBuildEnvelope at h
  split at h
  · split at h
    · cases h
      simp
    · cases h
      exact code_refuseUnencodable _ _ _ _ _
  repeat' split at h
  all_goals cases h
  all_goals simp

/-- What does not verify is refused for another reason. -/
theorem not_orderRefused_of_unverified (hver : verified? ctx db raw = none) :
    ¬OrderRefused ctx db raw := by
  have hexit : (∃ e, (ingestEnvelope ctx db raw).exit = .error e) ∨
      ∃ code message, code ≠ .outOfOrderSequence ∧
        (ingestEnvelope ctx db raw).exit = rejectRaw ctx raw code message := by
    rcases hopen : openSession ctx db raw with ⟨db', exit | opened⟩
    · have heq : (ingestEnvelope ctx db raw).exit = exit := by
        simp only [ingestEnvelope, ingestCommit, hopen]
      rw [heq]
      unfold openSession at hopen
      repeat' split at hopen
      all_goals cases hopen
      · exact .inl ⟨_, rfl⟩
      · exact .inr ⟨.sessionNotFound, _, by simp, rfl⟩
      · exact .inr ⟨.unpairedSender, _, by simp, rfl⟩
      · exact .inl ⟨_, rfl⟩
      · exact .inl ⟨_, rfl⟩
    · cases hverify : verifyAndBuildEnvelope ctx.ext raw ctx.getPublicKey
        (asText (rawSessionId raw)) opened.participants with
      | error r =>
          refine .inr ⟨r.code, r.message, code_verifyAndBuildEnvelope hverify, ?_⟩
          simp only [ingestEnvelope, ingestCommit, hopen, hverify]
      | ok envelope => simp [verified?, hopen, hverify, Except.toOption] at hver
  rintro ⟨ack, hack, -, hcode⟩
  rcases hexit with ⟨e, he⟩ | ⟨code, message, hne, he⟩
  · rw [he] at hack
    cases hack
  · rw [errorCode_of_acknowledgement (he.symm.trans hack), Option.some.injEq] at hcode
    exact hne hcode

/-- A number that is stored is answered as a duplicate or a reuse. -/
theorem not_orderRefused_of_repeated (hver : verified? ctx db raw = some envelope)
    {event : SessionEventRow} (hstored : storedEvent? db envelope.sessionId envelope.actorUsername
      envelope.sequence = some event) : ¬OrderRefused ctx db raw := by
  rintro ⟨ack, hack, -, hcode⟩
  have hexit := (ingestEnvelope_of_repeated hver hstored).2.symm.trans hack
  split at hexit
  · rw [errorCode_of_acknowledgement hexit] at hcode
    cases hcode
  · rw [errorCode_of_acknowledgement hexit] at hcode
    cases hcode

theorem orderRefused_iff_of_stored (hlog : LogInvariant db)
    (hver : verified? ctx db raw = some envelope) {row : SessionRow}
    (hrow : db.session? envelope.sessionId = some row)
    (hnew : storedEvent? db envelope.sessionId envelope.actorUsername envelope.sequence = none) :
    OrderRefused ctx db raw ↔ Admissible ctx db envelope ∧ Early db envelope := by
  have hlast := lastSequence_eq hlog ctx.ext (lookedUp ctx.now row) envelope.sessionId
    envelope.actorUsername envelope.kind
  have hne : envelope.sequence ≠ lastNumber db envelope.sessionId envelope.actorUsername := by
    intro heq
    have hpos := envelope.sequence_pos
    have hcounted := (counted_iff hlog hpos).mpr heq.le
    rw [Counted, hnew] at hcounted
    cases hcounted.2
  rw [OrderRefused, rejected_iff_of_stored hver hrow hnew,
    processPeerEnvelope_outOfOrder (sessionId_reviewed hrow _ _ _ _) hlast,
    isTerminalState_reviewed, early_iff hlog]
  constructor
  · rintro ⟨⟨htimely, hlive⟩, hactor, -, hnext⟩
    rw [lookedUp_of_timely htimely] at hactor
    exact ⟨.stored hrow htimely hlive hactor, hnew, hnext⟩
  · rintro ⟨hadmissible, -, hnext⟩
    cases hadmissible with
    | stored hrow' htimely hlive hactor =>
        rw [hrow] at hrow'
        cases hrow'
        rw [lookedUp_of_timely htimely]
        exact ⟨⟨htimely, hlive⟩, hactor, hne, hnext⟩
    | opens hopens =>
        rw [hopens.absent] at hrow
        cases hrow

/-- Without a session there are no events. -/
theorem storedEvent?_of_absent (hlog : LogInvariant db) {sid : String}
    (habsent : db.session? sid = none) (actor : String) (sequence : Nat) :
    storedEvent? db sid actor sequence = none := by
  by_contra hsome
  obtain ⟨event, hevent⟩ := Option.ne_none_iff_exists'.mp hsome
  obtain ⟨hmem, hsid, -, -⟩ := mem_of_storedEvent? hevent
  have hlisted : event ∈ db.eventsOf sid := List.mem_filter.mpr ⟨hmem, beq_iff_eq.mpr hsid⟩
  rw [hlog.stored _ habsent] at hlisted
  cases hlisted

theorem lastNumber_of_absent (hlog : LogInvariant db) {sid : String}
    (habsent : db.session? sid = none) (actor : String) : lastNumber db sid actor = 0 := by
  rw [lastNumber, sequencesOf, hlog.stored _ habsent]
  split <;> rfl

/-- The row of a new session is built, or the call ends with another code. -/
theorem opens_of_orderRefused (hver : verified? ctx db raw = some envelope)
    (habsent : db.session? envelope.sessionId = none)
    (hnew : storedEvent? db envelope.sessionId envelope.actorUsername envelope.sequence = none)
    (h : OrderRefused ctx db raw) :
    ∃ row, Opens ctx db envelope row ∧ (asText (receiverOf db envelope)).isSome = true := by
  obtain ⟨ack, hack, -, hcode⟩ := h
  have hafter : afterExpiry ctx db envelope.sessionId = db := by
    simp [afterExpiry, habsent]
  have hcommit := ingestCommit_of_verified hver
  rw [hafter, habsent, ingestVerified, checkSequenceConflict_of_none hnew] at hcommit
  dsimp only at hcommit
  cases hmode : SessionType.ofJson (envelope.payload.getD "collaboration_mode" (.text "ask")) with
  | none =>
      simp only [loadState, hmode] at hcommit
      simp only [ingestEnvelope, hcommit] at hack
      rw [errorCode_of_acknowledgement hack] at hcode
      cases hcode
  | some type =>
  cases hboot : bootstrapRow ctx db type envelope with
  | error e =>
      simp only [loadState, hmode, hboot] at hcommit
      simp only [ingestEnvelope, hcommit] at hack
      cases hack
  | ok row =>
  cases hreceiver : asText (receiverOf db envelope) with
  | none =>
      simp only [loadState, hmode, hboot, hreceiver] at hcommit
      simp only [ingestEnvelope, hcommit] at hack
      cases hack
  | some receiver => exact ⟨row, ⟨habsent, hnew, type, hmode, hboot⟩, rfl⟩

/-- The first envelope of a new session is not refused. -/
theorem not_orderRefused_of_first {row : SessionRow} (hver : verified? ctx db raw = some envelope)
    (hopens : Opens ctx db envelope row)
    (hreceiver : (asText (receiverOf db envelope)).isSome = true) (hseq : envelope.sequence = 1) :
    ¬OrderRefused ctx db raw := by
  rintro ⟨ack, hack, hrejected, -⟩
  have habsent := hopens.absent
  have haccepts : Accepts ctx db raw envelope _ _ _ (bootstrapState row envelope).participants :=
    { verified := hver
      fresh := hopens.fresh
      timely := by simp [habsent]
      loaded := .created habsent (verified_isTaskRequest hver habsent) hopens.creates hreceiver
      admitted := by
        rw [advanceToReview_bootstrapState]
        exact admitted_bootstrapState (newRow_of_creates hopens.creates)
          (verified_isTaskRequest hver habsent) hseq }
  obtain ⟨db', heq, -⟩ := ingestCommit_of_accepts haccepts
  rw [not_rejected_of_committed heq hack] at hrejected
  cases hrejected

/-- In a new session the first number is expected. -/
theorem orderRefused_iff_of_absent (hlog : LogInvariant db)
    (hver : verified? ctx db raw = some envelope)
    (habsent : db.session? envelope.sessionId = none) :
    OrderRefused ctx db raw ↔ Admissible ctx db envelope ∧ Early db envelope := by
  have hnew := storedEvent?_of_absent hlog habsent envelope.actorUsername envelope.sequence
  rw [early_iff hlog, lastNumber_of_absent hlog habsent]
  constructor
  · intro hrefused
    obtain ⟨row, hopens, hreceiver⟩ := opens_of_orderRefused hver habsent hnew hrefused
    exact ⟨.opens hopens hreceiver, hnew, fun hseq =>
      not_orderRefused_of_first hver hopens hreceiver hseq hrefused⟩
  · rintro ⟨hadmissible, -, hseq⟩
    cases hadmissible with
    | stored hrow =>
        rw [habsent] at hrow
        cases hrow
    | opens hopens hreceiver =>
        obtain ⟨message, heq⟩ := ingestCommit_of_opens hver hopens hreceiver hseq
        obtain ⟨ack, hack, hstatus⟩ := rejectVerified_ok (readFrom_of_verified hver) ctx
          (some .outOfOrderSequence) (some (.text message))
        refine ⟨ack, ?_, hstatus, errorCode_of_acknowledgement hack⟩
        simp only [ingestEnvelope, heq]
        exact hack

/-- A call is refused for its order exactly if an envelope that verifies and
passes the checks ahead comes early. -/
theorem orderRefused_iff (hlog : LogInvariant db) :
    OrderRefused ctx db raw ↔ ∃ envelope, verified? ctx db raw = some envelope ∧
      Admissible ctx db envelope ∧ Early db envelope := by
  cases hver : verified? ctx db raw with
  | none =>
      refine iff_of_false (not_orderRefused_of_unverified hver) ?_
      rintro ⟨envelope, he, -⟩
      cases he
  | some envelope =>
  simp only [Option.some.injEq, exists_eq_left']
  cases hnew : storedEvent? db envelope.sessionId envelope.actorUsername envelope.sequence with
  | some event =>
      refine iff_of_false (not_orderRefused_of_repeated hver hnew) fun h => ?_
      rw [h.2.new] at hnew
      cases hnew
  | none =>
  cases hrow : db.session? envelope.sessionId with
  | some row => exact orderRefused_iff_of_stored hlog hver hrow hnew
  | none => exact orderRefused_iff_of_absent hlog hver hrow

end Kin.Node
