import Kin.Transport.Refinement

/-!
The agent an envelope may carry. The reducer compares it with the participants of
the reconstructed state: each of the two names, as an owner, with its agent
column, or with the name itself where the column is empty. Verification compares
it with the participant map of the lookup, which leaves an empty column out and
takes the envelope's own agent there.
-/

namespace Kin.Transport

open Kin.Py Kin.Lib Kin.Schemas Kin.Session Kin.Storage Kin.Audit

variable {row : SessionRow} {username : String} {envelope : SessionEnvelope}

def registeredAgent (row : SessionRow) (username : String) : String :=
  if username = row.receiverUsername then textOr row.receiverAgentId username
  else textOr row.senderAgentId username

/-- The name is one of the session's two, and not empty. -/
structure Member (row : SessionRow) (username : String) : Prop where
  named : username ≠ ""
  member : username = row.initiatorUsername ∨ username = row.receiverUsername

/-- The acceptance for which the reducer takes any agent. -/
def acceptsFirst (row : SessionRow) (kind : MessageKind) (username : String) : Bool :=
  kind == .acceptance && username == row.receiverUsername &&
    preAcceptance (reviewStatus row.status kind)

theorem get?_rowParticipants_of_member (h : Member row username) :
    (rowParticipants row).get? username = some ⟨registeredAgent row username, .owner⟩ := by
  rw [get?_rowParticipants row h.named, registeredAgent]
  by_cases hreceiver : username = row.receiverUsername
  · rw [if_pos hreceiver, if_pos hreceiver, hreceiver]
  · have hinitiator := h.member.resolve_right hreceiver
    rw [if_neg hreceiver, if_neg hreceiver, if_pos hinitiator, hinitiator]

theorem participants_stateOf (ext : Externals) (row : SessionRow) (events : List SessionEventRow)
    (kind : MessageKind) :
    (advanceToReview (stateOf ext row events) kind).participants = rowParticipants row := by
  rw [advanceToReview_eq]
  rfl

theorem isUnacceptedReceiverAccept_stateOf (ext : Externals) (events : List SessionEventRow)
    (hsome : (rowParticipants row).isEmpty = false) :
    isUnacceptedReceiverAccept (advanceToReview (stateOf ext row events) envelope.kind) envelope =
      some (acceptsFirst row envelope.kind envelope.actorUsername) := by
  unfold isUnacceptedReceiverAccept
  rw [participants_stateOf, hsome, advanceToReview_eq]
  rfl

/-- The reducer's check of a participant. Both are owners, so nothing is refused
for its role. -/
theorem authorizeActor_of_member (ext : Externals) (events : List SessionEventRow)
    (h : Member row envelope.actorUsername) :
    authorizeActor (advanceToReview (stateOf ext row events) envelope.kind) envelope =
      if envelope.actorAgentId ≠ registeredAgent row envelope.actorUsername ∧
          acceptsFirst row envelope.kind envelope.actorUsername = false then
        some ⟨.unauthorizedAgent, "Actor agent ID '" ++ envelope.actorAgentId ++
          "' does not match registered agent '" ++
          registeredAgent row envelope.actorUsername ++ "'."⟩
      else none := by
  have hget := get?_rowParticipants_of_member h
  have hsome : (rowParticipants row).isEmpty = false := Dict.isEmpty_of_get? hget
  unfold authorizeActor
  rw [isUnacceptedReceiverAccept_stateOf ext events hsome, participants_stateOf, hget]
  simp only [hsome, Bool.false_eq_true, if_false, ne_eq, Option.some.injEq, not_true_eq_false,
    and_false, Bool.not_eq_true]

/-- An actor without a name is nobody's participant. -/
theorem authorizeActor_of_unnamed (ext : Externals) (events : List SessionEventRow)
    (hempty : envelope.actorUsername = "") :
    authorizeActor (advanceToReview (stateOf ext row events) envelope.kind) envelope =
      if (rowParticipants row).isEmpty then none
      else some ⟨.unauthorizedActor, "Actor '' is not a registered session participant."⟩ := by
  unfold authorizeActor
  rw [participants_stateOf, hempty, get?_rowParticipants_empty]
  rfl

/-! ### Verification -/

/-- The agent that the participant map has for the actor, where it has one. -/
def checkedAgent (row : SessionRow) (kind : MessageKind) (username : String) : Option String :=
  let receiver :=
    if username = row.receiverUsername ∧
        (kind ≠ .acceptance ∨ username = row.initiatorUsername) then
      Db.given row.receiverAgentId
    else none
  let sender := if username = row.initiatorUsername then Db.given row.senderAgentId else none
  receiver.or sender

theorem given_empty : Db.given (some "") = none := rfl

theorem given_some {a : String} (h : a ≠ "") : Db.given (some a) = some a := by
  simp [Db.given, h]

theorem textOr_of_given {column : Option String} {a : String} (h : Db.given column = some a)
    (default : String) : textOr column default = a := by
  obtain ⟨rfl, hne⟩ := Option.filter_eq_some_iff.mp h
  exact if_neg (of_decide_eq_true hne)

/-- The entry of the initiator, before that of the receiver. -/
theorem get?_senderEntry (column : Option String) (initiator username : String) :
    (match column with
      | some a => if a = "" then Dict.empty else Dict.empty.set initiator a
      | none => Dict.empty).get? username =
      if username = initiator then Db.given column else none := by
  cases column with
  | none => simp [Db.given]
  | some a =>
      by_cases hempty : a = ""
      · simp [hempty, given_empty]
      · simp [hempty, given_some hempty, Dict.get?_set]

theorem get?_participantMap {raw : Fields} (hread : ReadFrom raw envelope) (row : SessionRow) :
    (participantMap row raw).get? envelope.actorUsername =
      some ((checkedAgent row envelope.kind envelope.actorUsername).getD envelope.actorAgentId) := by
  have hactor : asText (rawActorUsername raw) = some envelope.actorUsername := by
    rw [hread.actorUsername]
    rfl
  have hkind : asText (rawKind raw) ≠ some MessageKind.acceptance.value ↔
      envelope.kind ≠ .acceptance := by
    rw [hread.kind]
    change some envelope.kind.value ≠ _ ↔ _
    rw [Ne, Option.some.injEq, MessageKind.value_inj]
  have hentry : ∀ map : Dict String String,
      (if ((asText (rawActorUsername raw)).bind map.get?).isSome then map
        else setRawEntry map (rawActorUsername raw) (rawActorAgentId raw)).get?
          envelope.actorUsername =
        some ((map.get? envelope.actorUsername).getD envelope.actorAgentId) := by
    intro map
    rw [hactor, Option.bind_some]
    cases hget : map.get? envelope.actorUsername with
    | some agent => simp [hget]
    | none =>
        have hset : setRawEntry map (rawActorUsername raw) (rawActorAgentId raw) =
            map.set envelope.actorUsername envelope.actorAgentId := by
          rw [setRawEntry, hactor, hread.actorAgentId]
          rfl
        simp [hset]
  have hsender := get?_senderEntry row.senderAgentId row.initiatorUsername envelope.actorUsername
  unfold participantMap
  rw [hentry, hactor, checkedAgent]
  congr 2
  simp only [hkind, Option.some.injEq]
  cases row.receiverAgentId with
  | none =>
      rw [show Db.given none = none from rfl, ite_self, Option.none_or]
      exact hsender
  | some a =>
      by_cases hempty : a = ""
      · rw [hempty, given_empty, ite_self, Option.none_or]
        exact hsender
      · rw [given_some hempty]
        dsimp only
        by_cases hchecked : envelope.kind ≠ .acceptance ∨
            envelope.actorUsername = row.initiatorUsername
        · rw [if_pos (And.intro hempty hchecked), Dict.get?_set]
          by_cases hreceiver : envelope.actorUsername = row.receiverUsername
          · rw [if_pos hreceiver, if_pos ⟨hreceiver, hchecked⟩, Option.some_or]
          · rw [if_neg hreceiver, if_neg (fun h => hreceiver h.1), Option.none_or]
            exact hsender
        · have hunset : ¬(a ≠ "" ∧ (envelope.kind ≠ .acceptance ∨
              envelope.actorUsername = row.initiatorUsername)) := fun h => hchecked h.2
          rw [if_neg hunset, if_neg (fun h => hchecked h.2), Option.none_or]
          exact hsender

theorem rawContentHash_of_validateEnvelope {raw : Fields}
    (h : validateEnvelope raw = some envelope) :
    rawContentHash raw = .text envelope.contentHash := by
  simp only [validateEnvelope, bind, Option.bind_eq_some_iff, pure, Option.some.injEq] at h
  obtain ⟨-, -, -, -, -, -, _, _, _, _, _, _, _, _, _, _, -, _, _, _, hash, hhash, -, _, _, _, _, _,
    rfl⟩ := h
  exact getD_of_textField hhash _

/-- Everything that verification asks of an envelope besides session and agent. -/
structure WellSigned (ctx : IngestContext) (raw : Fields) (envelope : SessionEnvelope) : Prop where
  valid : validateEnvelope raw = some envelope
  hash : computeContentHash ctx.ext envelope.payload = some envelope.contentHash
  signed : envelope.signature.getD "" ≠ ""
  verifies : ∃ key, ctx.getPublicKey (.text envelope.actorUsername) = some key ∧
    verifyEnvelopeSignature ctx.ext raw key = true

/-! ### Refusals -/

section Refused

variable {ctx : IngestContext} {db : Db} {raw : Fields}

/-- The call is rejected with `UNAUTHORIZED_AGENT`. -/
def AgentRefused (ctx : IngestContext) (db : Db) (raw : Fields) : Prop :=
  ∃ ack, (ingestEnvelope ctx db raw).exit = .ok ack ∧ ack.status = .rejected ∧
    ack.errorCode = some .unauthorizedAgent

instance (ctx : IngestContext) (db : Db) (raw : Fields) : Decidable (AgentRefused ctx db raw) :=
  decidable_of_iff ((ingestEnvelope ctx db raw).exit.toOption.any fun ack =>
    ack.status == .rejected && ack.errorCode == some .unauthorizedAgent) <| by
  unfold AgentRefused
  cases (ingestEnvelope ctx db raw).exit with
  | error e => simp [Except.toOption]
  | ok ack => simp [Except.toOption]

/-- The participant map has no other agent for the actor, and the reducer none
either, where it gets to look at it. -/
def agentAccepted (now : Instant) (row : SessionRow) (kind : MessageKind)
    (username agentId : String) : Bool :=
  (checkedAgent row kind username).all (· == agentId) &&
    (isTerminalState row.status || expiresNow row now ||
      agentId == registeredAgent row username || acceptsFirst row kind username)

theorem checkedAgent_all_iff {checked : Option String} {agentId : String} :
    checked.all (· == agentId) = true ↔ checked.getD agentId = agentId := by
  cases checked <;> simp

theorem verified?_iff_of_wellSigned (h : WellSigned ctx raw envelope)
    (hrow : db.session? envelope.sessionId = some row) :
    verified? ctx db raw = some envelope ↔
      (checkedAgent row envelope.kind envelope.actorUsername).all (· == envelope.actorAgentId) =
        true := by
  have hread := readFrom_of_validateEnvelope h.valid
  rw [checkedAgent_all_iff]
  constructor
  · intro hver
    obtain ⟨_, _, hopen, hok⟩ := verified?_eq_some.mp hver
    rw [openSession_of_stored hread hrow] at hopen
    cases hopen
    have hget := (verifyAndBuildEnvelope_eq_ok.mp hok).2.2.2.1
    rw [get?_participantMap hread] at hget
    exact Option.some.inj hget
  · intro hagent
    refine verified?_eq_some.mpr ⟨_, _, openSession_of_stored hread hrow,
      verifyAndBuildEnvelope_eq_ok.mpr ⟨h.valid, ?_, h.hash, ?_, h.signed, h.verifies⟩⟩
    · rw [hread.sessionId]
      rfl
    · rw [get?_participantMap hread, hagent]

/-- The map has another agent: the call is rejected in verification. -/
theorem agentRefused_of_checked (h : WellSigned ctx raw envelope)
    (hrow : db.session? envelope.sessionId = some row) {expected : String}
    (hexpected : checkedAgent row envelope.kind envelope.actorUsername = some expected)
    (hne : envelope.actorAgentId ≠ expected) : AgentRefused ctx db raw := by
  have hread := readFrom_of_validateEnvelope h.valid
  have hactive : asText (rawSessionId raw) = some envelope.sessionId := by
    rw [hread.sessionId]
    rfl
  have hget := get?_participantMap hread row
  rw [hexpected, Option.getD_some] at hget
  obtain ⟨message, hverify⟩ : ∃ message, verifyAndBuildEnvelope ctx.ext raw ctx.getPublicKey
      (asText (rawSessionId raw)) (participantMap row raw) =
        .error ⟨.unauthorizedAgent, message⟩ := by
    simp only [verifyAndBuildEnvelope, h.valid, hactive, h.hash, hget, ne_eq, not_true_eq_false,
      if_false]
    exact ⟨_, if_pos hne⟩
  have hexit : (ingestEnvelope ctx db raw).exit =
      rejectRaw ctx raw .unauthorizedAgent message := by
    simp only [ingestEnvelope, ingestCommit, openSession_of_stored hread hrow, hverify]
  obtain ⟨ack, hack⟩ := acknowledgement_of_readFrom ctx.ext hread .rejected (isoNow ctx.now)
    (some .unauthorizedAgent) (some message)
  rw [← rawContentHash_of_validateEnvelope h.valid] at hack
  exact ⟨ack, hexit.trans hack, status_of_acknowledgement hack,
    errorCode_of_acknowledgement hack⟩

theorem isTerminalState_advanceToReview (state : SessionState) (kind : MessageKind) :
    isTerminalState (advanceToReview state kind).status = isTerminalState state.status := by
  rw [advanceToReview_eq]
  change isTerminalState (reviewStatus state.status kind) = _
  unfold reviewStatus
  split
  · rename_i h
    rcases h.1 with hs | hs
    · rw [hs]
      rfl
    · rw [hs]
      rfl
  · rfl

theorem processPeerEnvelope_of_unauthorized {state : SessionState} {r : Rejection}
    (hlive : isTerminalState state.status = false) (hsid : envelope.sessionId = state.sessionId)
    (h : authorizeActor state envelope = some r) :
    processPeerEnvelope state envelope = .ok (.refuse state r) := by
  simp only [processPeerEnvelope, hlive, ← hsid, h, Bool.false_eq_true, ne_eq, not_true_eq_false,
    if_false]

theorem code_checkSequence {state : SessionState} {r : Rejection}
    (h : checkSequence state envelope = some r) :
    r.code = .duplicateSequence ∨ r.code = .outOfOrderSequence := by
  unfold checkSequence at h
  dsimp only at h
  split at h
  · cases h
    exact .inl rfl
  split at h
  · cases h
    exact .inr rfl
  · cases h

theorem code_checkTransition {state : SessionState} {r : Rejection}
    (h : checkTransition state envelope = .ok (some r)) : r.code = .invalidStateTransition := by
  unfold checkTransition at h
  dsimp only at h
  split at h
  · cases h
  split at h
  · cases h
  · cases h
  · cases h
    rfl

theorem code_checkTurn {state : SessionState} {kind : MessageKind} {r : Rejection}
    (h : checkTurn state kind = some r) : r.code = .turnLimitExceeded := by
  unfold checkTurn at h
  split at h
  · cases h
    rfl
  · cases h

/-- Past the checks of the actor and of the sequence the reducer refuses for the
transition or the turn. -/
theorem errorCode_of_sequenced {state : SessionState} {result : ReducerResult}
    (h : processPeerEnvelope state envelope = .ok result)
    (hlive : isTerminalState state.status = false) (hsid : envelope.sessionId = state.sessionId)
    (hactor : authorizeActor state envelope = none) (hseq : checkSequence state envelope = none)
    {code : ErrorCode} (hcode : result.errorCode = some code) :
    code = .invalidStateTransition ∨ code = .turnLimitExceeded := by
  unfold processPeerEnvelope at h
  rw [hlive, if_neg (by simp), if_neg (not_not.mpr hsid), hactor, hseq] at h
  dsimp only at h
  split at h
  · cases h
  · rename_i r hr
    cases h
    cases hcode
    exact .inl (code_checkTransition hr)
  split at h
  · rename_i r hr
    cases h
    cases hcode
    exact .inr (code_checkTurn hr)
  split at h
  · cases h
  · cases h
    cases hcode

/-- The reducer's refusal for the agent comes from the check of the actor alone. -/
theorem errorCode_processPeerEnvelope {state : SessionState} {result : ReducerResult}
    (h : processPeerEnvelope state envelope = .ok result)
    (hsid : envelope.sessionId = state.sessionId) :
    result.errorCode = some .unauthorizedAgent ↔ isTerminalState state.status = false ∧
      ∃ message, authorizeActor state envelope = some ⟨.unauthorizedAgent, message⟩ := by
  cases hlive : isTerminalState state.status with
  | true =>
      rw [processPeerEnvelope, hlive, if_pos rfl] at h
      cases h
      simp [ReducerResult.refuse]
  | false =>
  cases hactor : authorizeActor state envelope with
  | some r =>
      rw [processPeerEnvelope_of_unauthorized hlive hsid hactor] at h
      cases h
      obtain ⟨code, message⟩ := r
      simp [ReducerResult.refuse]
  | none =>
  -- no later check has this code
  refine iff_of_false ?_ (by simp)
  intro hcode
  cases hseq : checkSequence state envelope with
  | some r =>
      rw [processPeerEnvelope, hlive, if_neg (by simp), if_neg (not_not.mpr hsid), hactor,
        hseq] at h
      cases h
      rw [ReducerResult.refuse, Option.some.injEq] at hcode
      rcases code_checkSequence hseq with h | h
      · rw [hcode] at h
        cases h
      · rw [hcode] at h
        cases h
  | none =>
      rcases errorCode_of_sequenced h hlive hsid hactor hseq hcode with h | h
      · cases h
      · cases h

/-- A verified envelope under a new number of a stored session is rejected with a
code exactly if the reducer refuses it with that code. -/
theorem rejected_iff_of_stored (hver : verified? ctx db raw = some envelope)
    (hrow : db.session? envelope.sessionId = some row)
    (hnew : storedEvent? db envelope.sessionId envelope.actorUsername envelope.sequence = none)
    (code : ErrorCode) :
    (∃ ack, (ingestEnvelope ctx db raw).exit = .ok ack ∧ ack.status = .rejected ∧
      ack.errorCode = some code) ↔
      ∃ result, processPeerEnvelope (advanceToReview (stateOf ctx.ext (lookedUp ctx.now row)
        (db.eventsOf envelope.sessionId)) envelope.kind) envelope = .ok result ∧
          result.errorCode = some code := by
  have hread := readFrom_of_verified hver
  have hcommit := ingestCommit_of_stored hver hnew hrow
  cases hred : processPeerEnvelope (advanceToReview (stateOf ctx.ext (lookedUp ctx.now row)
      (db.eventsOf envelope.sessionId)) envelope.kind) envelope with
  | error e =>
      simp only [ingestLoaded, hred] at hcommit
      refine iff_of_false ?_ (by simp)
      rintro ⟨ack, hack, -⟩
      simp only [ingestEnvelope, hcommit] at hack
      cases hack
  | ok result =>
  cases hs : result.success with
  | true =>
      obtain ⟨participants, hadmitted, rfl⟩ := admitted_of_processPeerEnvelope hred hs
      refine iff_of_false ?_ (by simp [ReducerResult.accept])
      rintro ⟨ack, hack, hrejected, -⟩
      have hnew' := hnew
      rw [← storedEvent?_afterExpiry ctx db _ _ _ envelope.sessionId] at hnew'
      rcases ingestLoaded_cases raw (some row) hread.payload hnew' (loaded_afterExpiry ctx hrow)
        with ⟨exit, -, hno⟩ | ⟨_, db', -, heq, -⟩
      · exact hno participants hadmitted
      · rw [not_rejected_of_committed (hcommit.trans heq) hack] at hrejected
        cases hrejected
  | false =>
      obtain ⟨r, rfl⟩ := processPeerEnvelope_refused hred hs
      simp only [ingestLoaded, hred, if_true, ReducerResult.refuse, Option.map_some] at hcommit
      obtain ⟨ack, hack, hstatus⟩ := rejectVerified_ok hread ctx (some r.code) (some (.text r.message))
      have hexit : (ingestEnvelope ctx db raw).exit = .ok ack := by
        simp only [ingestEnvelope, hcommit]
        exact hack
      have hcode := errorCode_of_acknowledgement hack
      constructor
      · rintro ⟨ack', hack', -, hcode'⟩
        rw [hexit] at hack'
        cases hack'
        exact ⟨_, rfl, hcode.symm.trans hcode'⟩
      · rintro ⟨_, heq, hcode'⟩
        cases heq
        exact ⟨ack, hexit, hstatus, hcode.trans hcode'⟩

theorem sessionId_reviewed (hrow : db.session? envelope.sessionId = some row) (ext : Externals)
    (now : Instant) (events : List SessionEventRow) (kind : MessageKind) :
    envelope.sessionId = (advanceToReview (stateOf ext (lookedUp now row) events) kind).sessionId := by
  rw [advanceToReview_eq]
  change _ = (lookedUp now row).sessionId
  rw [lookedUp]
  split <;> exact (sessionId_of_session? hrow).symm

/-- The reducer sees a live session exactly if the row is live and does not
expire now. -/
theorem isTerminalState_reviewed (ext : Externals) (now : Instant) (row : SessionRow)
    (events : List SessionEventRow) (kind : MessageKind) :
    isTerminalState (advanceToReview (stateOf ext (lookedUp now row) events) kind).status = false ↔
      expiresNow row now = false ∧ isTerminalState row.status = false := by
  rw [isTerminalState_advanceToReview, lookedUp]
  cases expiresNow row now with
  | true =>
      refine iff_of_false (fun h => ?_) fun h => ?_
      · cases h
      · cases h.1
  | false => exact ⟨fun h => ⟨rfl, h⟩, fun h => h.2⟩

theorem lookedUp_of_timely {now : Instant} (h : expiresNow row now = false) :
    lookedUp now row = row := by
  rw [lookedUp, h]
  rfl

/-- A verified envelope under a new number is rejected for its agent by the
reducer, on a session that is not over. -/
theorem agentRefused_iff_of_verified (hver : verified? ctx db raw = some envelope)
    (hrow : db.session? envelope.sessionId = some row)
    (hnew : storedEvent? db envelope.sessionId envelope.actorUsername envelope.sequence = none) :
    AgentRefused ctx db raw ↔ expiresNow row ctx.now = false ∧ isTerminalState row.status = false ∧
      ∃ message, authorizeActor (advanceToReview (stateOf ctx.ext row
        (db.eventsOf envelope.sessionId)) envelope.kind) envelope =
          some ⟨.unauthorizedAgent, message⟩ := by
  have hsid := sessionId_reviewed hrow ctx.ext ctx.now (db.eventsOf envelope.sessionId)
    envelope.kind
  have hlive := isTerminalState_reviewed ctx.ext ctx.now row (db.eventsOf envelope.sessionId)
    envelope.kind
  rw [AgentRefused, rejected_iff_of_stored hver hrow hnew]
  constructor
  · rintro ⟨result, hred, hcode⟩
    obtain ⟨hlived, hrefused⟩ := (errorCode_processPeerEnvelope hred hsid).mp hcode
    obtain ⟨htimely, hlived⟩ := hlive.mp hlived
    rw [lookedUp_of_timely htimely] at hrefused
    exact ⟨htimely, hlived, hrefused⟩
  · rintro ⟨htimely, hlived, message, hrefused⟩
    replace hlived := hlive.mpr ⟨htimely, hlived⟩
    rw [lookedUp_of_timely htimely] at hsid hlived ⊢
    exact ⟨_, processPeerEnvelope_of_unauthorized hlived hsid hrefused, rfl⟩

/-- A participant's well-signed envelope under a new number is rejected for its
agent exactly if the agent is not accepted. -/
theorem agentRefused_iff (h : WellSigned ctx raw envelope)
    (hrow : db.session? envelope.sessionId = some row) (hmember : Member row envelope.actorUsername)
    (hnew : storedEvent? db envelope.sessionId envelope.actorUsername envelope.sequence = none) :
    AgentRefused ctx db raw ↔ agentAccepted ctx.now row envelope.kind envelope.actorUsername
      envelope.actorAgentId = false := by
  cases hchecked : (checkedAgent row envelope.kind envelope.actorUsername).all
      (· == envelope.actorAgentId) with
  | false =>
      obtain ⟨expected, hexpected, hne⟩ := Option.all_eq_false _ _ |>.mp hchecked
      refine iff_of_true (agentRefused_of_checked h hrow hexpected ?_) ?_
      · intro heq
        rw [heq, beq_self_eq_true] at hne
        cases hne
      · rw [agentAccepted, hchecked, Bool.false_and]
  | true =>
  have hver := (verified?_iff_of_wellSigned h hrow).mpr hchecked
  rw [agentRefused_iff_of_verified hver hrow hnew, authorizeActor_of_member _ _ hmember,
    agentAccepted, hchecked, Bool.true_and]
  simp only [Bool.or_eq_false_iff, beq_eq_false_iff_ne]
  constructor
  · rintro ⟨hexp, hlive, message, hrefused⟩
    split at hrefused
    · rename_i hboth
      exact ⟨⟨⟨hlive, hexp⟩, hboth.1⟩, hboth.2⟩
    · cases hrefused
  · rintro ⟨⟨⟨hlive, hexp⟩, hagent⟩, hfirst⟩
    exact ⟨hexp, hlive, _, if_pos ⟨hagent, hfirst⟩⟩

end Refused

/-! ### The owner's own envelopes -/

/-- What the digest, the clock and the signatures behind a call promise. -/
structure Dependable (sender : Sender) : Prop where
  digest : ∀ payload hash, sender.ext.jcsHash payload = some hash → contentHashRegex hash = true
  clock : timestampRegex (isoNow sender.now) = true
  signs : ∀ fields, sender.ext.ed25519Sign sender.identityKey fields ≠ ""
  verifies : ∀ fields, sender.ext.ed25519Verify (sender.ext.publicKeyOf sender.identityKey)
    (sender.ext.ed25519Sign sender.identityKey fields) fields = true

section Own

variable {sender : Sender} {sid agentId contentHash : String} {sequence : Nat} {kind : MessageKind}
  {payload : Fields}

def ownEnvelope (sender : Sender) (sid agentId contentHash : String) (sequence : Nat)
    (hpos : 1 ≤ sequence) (kind : MessageKind) (payload : Fields) : SessionEnvelope where
  sessionId := sid
  sequence := sequence
  sequence_pos := hpos
  actorUsername := sender.username
  actorAgentId := agentId
  timestamp := isoNow sender.now
  kind := kind
  contentHash := contentHash
  payload := payload
  signature := some (signEnvelope sender.ext (unsignedEnvelope sid sender.username agentId
    (isoNow sender.now) contentHash sequence kind payload) sender.identityKey)

theorem validateEnvelope_signedEnvelope (hclock : timestampRegex (isoNow sender.now) = true)
    (hhash : contentHashRegex contentHash = true) (hvalid : Json.validFields payload = true)
    (hpos : 1 ≤ sequence) :
    validateEnvelope (signedEnvelope sender sid agentId contentHash sequence kind payload) =
      some (ownEnvelope sender sid agentId contentHash sequence hpos kind payload) := by
  obtain ⟨raw, hraw⟩ : ∃ raw, raw = signedEnvelope sender sid agentId contentHash sequence kind
    payload := ⟨_, rfl⟩
  have hfields : (raw.all fun e => envelopeKeys.any fun k => decide (e.1 = .text k)) = true ∧
      literalVersion raw "schema_version" = true ∧ literalVersion raw "protocol_version" = true := by
    rw [hraw]
    exact ⟨rfl, rfl, rfl⟩
  have htexts : textField raw "session_id" = some sid ∧
      textField raw "actor_username" = some sender.username ∧
      textField raw "actor_agent_id" = some agentId ∧
      textField raw "timestamp" = some (isoNow sender.now) ∧
      textField raw "content_hash" = some contentHash ∧
      textField raw "kind" = some kind.value := by
    rw [hraw]
    exact ⟨rfl, rfl, rfl, rfl, rfl, rfl⟩
  have hsignature : signatureField raw = some (ownEnvelope sender sid agentId contentHash sequence
      hpos kind payload).signature := by
    rw [hraw]
    rfl
  have hsequence : strictSequence raw = some ⟨sequence, hpos⟩ := by
    have hget : raw.get? "sequence" = some (.int sequence) := by
      rw [hraw]
      rfl
    simp only [strictSequence, hget, Int.toNat_natCast, hpos, dif_pos]
  have hpayload : payloadField raw = some payload := by
    have hget : raw.get? "payload" = some (.obj payload) := by
      rw [hraw]
      rfl
    simp only [payloadField, hget, hvalid, if_true]
  have hkind : MessageKind.ofText kind.value = some kind := by cases kind <;> rfl
  rw [← hraw]
  simp [validateEnvelope, hfields, htexts, hsignature, hsequence, hpayload, hkind, hclock, hhash,
    ownEnvelope]

theorem wellSigned_signedEnvelope (h : Dependable sender) {ctx : IngestContext}
    (hext : ctx.ext = sender.ext)
    (hkey : ctx.getPublicKey (.text sender.username) =
      some (sender.ext.publicKeyOf sender.identityKey))
    (hhash : computeContentHash sender.ext payload = some contentHash)
    (hpos : 1 ≤ sequence) :
    WellSigned ctx (signedEnvelope sender sid agentId contentHash sequence kind payload)
      (ownEnvelope sender sid agentId contentHash sequence hpos kind payload) := by
  obtain ⟨hvalid, hjcs⟩ : Json.validFields payload = true ∧
      sender.ext.jcsHash payload = some contentHash := by
    unfold computeContentHash at hhash
    split at hhash
    · exact ⟨by assumption, hhash⟩
    · cases hhash
  refine ⟨validateEnvelope_signedEnvelope h.clock (h.digest _ _ hjcs) hvalid hpos, ?_,
    h.signs _, _, hkey, ?_⟩
  · rw [hext]
    exact hhash
  · have hget : (signedEnvelope sender sid agentId contentHash sequence kind payload).get?
        "signature" = some (.text (signEnvelope sender.ext (unsignedEnvelope sid sender.username
          agentId (isoNow sender.now) contentHash sequence kind payload) sender.identityKey)) := rfl
    simp only [verifyEnvelopeSignature, hget, Bool.and_eq_true, bne_iff_ne, hext]
    exact ⟨h.signs _, h.verifies _⟩

end Own

end Kin.Transport
