import Kin.Session.Orchestrator
import Kin.Transport.Answers

/-!
The budgets of the session types that have default budgets. A default stands in for a
missing key only, so whatever JSON value the peer puts under the key is bound to the
statement and stored under the affinity of the column; what is a number then is compared by
every turn, a `NULL` is skipped and a text cannot be compared.
-/

namespace Kin.Node

open Kin.Py Kin.Lib Kin.Schemas Kin.Session Kin.Storage Kin.Audit Kin.Policy Kin.Transport

/-! ### Numbers in columns -/

/-- A column value that a budget check compares. -/
def isNumber : SqlValue → Bool
  | .integer _ | .real _ => true
  | .null | .text _ => false

/-- A JSON value that is a number once it is stored in a numeric column. -/
def countsAsNumber (ext : Externals) : Json → Bool
  | .bool _ | .int _ => true
  | .float .nan => false
  | .float _ => true
  | .str (.text s) => (ext.numericText s).any isNumber
  | _ => false

theorem isNumber_sqlNumeric (ext : Externals) {v : Json} {bound : SqlValue}
    (h : bindSql v = .ok bound) :
    isNumber (sqlNumeric ext.numericText bound) = countsAsNumber ext v := by
  cases v with
  | null =>
      cases h
      rfl
  | bool b =>
      cases h
      rfl
  | int n =>
      rw [bindSql] at h
      split at h
      · cases h
        rfl
      · cases h
  | float x =>
      cases x with
      | nan =>
          cases h
          rfl
      | finite q =>
          cases h
          rw [sqlNumeric]
          split
          · rfl
          · rfl
      | negZero =>
          cases h
          rfl
      | inf negative =>
          cases h
          rfl
  | str s =>
      cases s with
      | text s =>
          cases h
          rw [sqlNumeric, countsAsNumber]
          cases ext.numericText s with
          | none => rfl
          | some stored => rfl
      | lone s => cases h
  | arr items => cases h
  | obj fields => cases h

/-- `REAL` affinity makes reals of integers and leaves the rest. -/
theorem isNumber_sqlReal (numericText : String → Option SqlValue) (v : SqlValue) :
    isNumber (sqlReal numericText v) = isNumber (sqlNumeric numericText v) := by
  unfold sqlReal
  cases sqlNumeric numericText v with
  | null => rfl
  | integer n => rfl
  | real x => rfl
  | text s => rfl

/-- A number is compared, whatever was used so far. -/
theorem isOk_exhausts {column : SqlValue} (h : isNumber column = true) (used : ℚ) :
    ∃ reached, exhausts used column = .ok reached := by
  cases column with
  | null => cases h
  | integer n => exact ⟨_, rfl⟩
  | real x =>
      cases x with
      | nan => exact ⟨_, rfl⟩
      | finite q => exact ⟨_, rfl⟩
      | negZero => exact ⟨_, rfl⟩
      | inf negative => exact ⟨_, rfl⟩
  | text s => cases h

/-! ### The row of a request -/

/-- The session types with default budgets. -/
def isMandatory (type : SessionType) : Bool :=
  decide (type = .buildPipeline ∨ type = .delegateSubtask)

def budgetKeys : List String :=
  ["runtime_budget_seconds", "artifact_bytes_budget", "cost_budget_estimate"]

/-- Every budget key of the payload is missing or stored as a number. -/
def budgetsCount (ext : Externals) (payload : Fields) : Bool :=
  budgetKeys.all fun key => (payload.get? key).all (countsAsNumber ext)

structure Budgeted (row : SessionRow) : Prop where
  runtime : isNumber row.runtimeBudgetSeconds = true
  artifacts : isNumber row.artifactBytesBudget = true
  cost : isNumber row.costBudgetEstimate = true

variable {ctx : IngestContext} {db : Db} {raw : Fields} {envelope : SessionEnvelope}
  {type : SessionType} {row : SessionRow}

/-- The budgets of a new row are the values of the request, bound and stored. -/
theorem budgets_of_bootstrapRow (h : bootstrapRow ctx db type envelope = .ok row) :
    row.sessionType = type ∧ ∃ runtime artifact cost,
      bindSql (rawBudgets type envelope.payload).1 = .ok runtime ∧
      bindSql (rawBudgets type envelope.payload).2.1 = .ok artifact ∧
      bindSql (rawBudgets type envelope.payload).2.2 = .ok cost ∧
      row.runtimeBudgetSeconds = sqlNumeric ctx.ext.numericText runtime ∧
      row.artifactBytesBudget = sqlNumeric ctx.ext.numericText artifact ∧
      row.costBudgetEstimate = sqlReal ctx.ext.numericText cost := by
  simp only [bootstrapRow, bind, Except.bind, pure, Except.pure] at h
  repeat' split at h
  all_goals try cases h
  rename_i hruntime _ _ hartifact _ _ hcost _ _ _
  exact ⟨rfl, _, _, _, hruntime, hartifact, hcost, rfl, rfl, rfl⟩

/-- A default is a number, so only a value that is there can fail to be one. -/
theorem countsAsNumber_getD (ext : Externals) (payload : Fields) (key : String) {default : Json}
    (h : countsAsNumber ext default = true) :
    countsAsNumber ext (payload.getD key default) =
      (payload.get? key).all (countsAsNumber ext) := by
  rw [Fields.getD]
  cases payload.get? key with
  | none => exact h
  | some v => rfl

theorem budgeted_iff (h : bootstrapRow ctx db type envelope = .ok row)
    (htype : isMandatory type = true) :
    Budgeted row ↔ budgetsCount ctx.ext envelope.payload = true := by
  obtain ⟨-, runtime, artifact, cost, hruntime, hartifact, hcost, hr, ha, hc⟩ :=
    budgets_of_bootstrapRow h
  have hraw : rawBudgets type envelope.payload = _ := if_pos (of_decide_eq_true htype)
  rw [hraw] at hruntime hartifact hcost
  have hr' := isNumber_sqlNumeric ctx.ext hruntime
  have ha' := isNumber_sqlNumeric ctx.ext hartifact
  have hc' := isNumber_sqlNumeric ctx.ext hcost
  dsimp only at hr' ha' hc'
  rw [countsAsNumber_getD _ _ _ rfl] at hr' ha' hc'
  rw [← isNumber_sqlReal] at hc'
  rw [budgetsCount, budgetKeys, List.all_cons, List.all_cons, List.all_cons, List.all_nil,
    Bool.and_true, Bool.and_eq_true, Bool.and_eq_true, ← hr', ← ha', ← hc', ← hr, ← ha, ← hc]
  constructor
  · intro hb
    exact ⟨hb.runtime, hb.artifacts, hb.cost⟩
  · rintro ⟨h1, h2, h3⟩
    exact ⟨h1, h2, h3⟩

/-- The checks of a turn compare the budgets that are numbers. -/
theorem isOk_exhaustedReason (h : Budgeted row) (ext : Externals) (turns : Int) (now : Instant) :
    (exhaustedReason ext row turns now).isOk = true := by
  obtain ⟨byTime, htime⟩ := isOk_exhausts h.runtime (((now - row.createdAt : Int) : ℚ) / 1000000)
  obtain ⟨byBytes, hbytes⟩ := isOk_exhausts h.artifacts (row.cumulativeArtifactBytes : ℚ)
  obtain ⟨byCost, hcost⟩ := isOk_exhausts h.cost (row.cumulativeCostEstimate : ℚ)
  unfold exhaustedReason
  simp only [htime, hbytes, hcost, bind, Except.bind, pure, Except.pure]
  split
  · rfl
  split
  · rfl
  split
  · rfl
  split
  · rfl
  · rfl

/-! ### Accepted requests -/

/-- The call accepts the request of a new session, and `row` is its row then. -/
structure OpenedBy (ctx : IngestContext) (db : Db) (raw : Fields) (row : SessionRow) : Prop where
  request : rawKind raw = .text MessageKind.taskRequest.value
  accepted : ∃ ack, (ingestEnvelope ctx db raw).exit = .ok ack ∧ ack.status = .delivered
  created : ∃ sid, rawSessionId raw = .text sid ∧ db.session? sid = none ∧
    (ingestEnvelope ctx db raw).db.session? sid = some row

/-- A session that is opened with a request of a mandatory type has three numbers for
budgets, so a turn can compare them, and none is switched off by a `NULL`. -/
def MandatoryBudgets (ctx : IngestContext) (db : Db) (raw : Fields) : Prop :=
  ∀ row, OpenedBy ctx db raw row → isMandatory row.sessionType = true →
    Budgeted row ∧ ∀ ext turns now, (exhaustedReason ext row turns now).isOk = true

/-- The body verifies as the first envelope of a new session of the type, and its other
values can be stored. -/
structure Requests (ctx : IngestContext) (db : Db) (raw : Fields) (envelope : SessionEnvelope)
    (type : SessionType) : Prop where
  verified : verified? ctx db raw = some envelope
  absent : db.session? envelope.sessionId = none
  fresh : storedEvent? db envelope.sessionId envelope.actorUsername envelope.sequence = none
  first : envelope.sequence = 1
  type : SessionType.ofJson (envelope.payload.getD "collaboration_mode" (.text "ask")) = some type
  binds : answersRequest db envelope = true

/-- What a request that is accepted stores. -/
theorem openedBy_of_requests (h : Requests ctx db raw envelope type) :
    ∃ newRow status, bootstrapRow ctx db type envelope = .ok newRow ∧
      OpenedBy ctx db raw (setStatus status ctx.now newRow) := by
  have hkind := verified_isTaskRequest h.verified h.absent
  have hread := readFrom_of_verified h.verified
  have hbinds := h.binds
  simp only [answersRequest, h.type, Bool.and_eq_true] at hbinds
  obtain ⟨receiver, hreceiver⟩ := Option.isSome_iff_exists.mp hbinds.2
  have hrow : (bootstrapRow ctx db type envelope).isOk = true := by
    rw [isOk_bootstrapRow hreceiver]
    simp only [Bool.and_eq_true]
    exact hbinds.1
  obtain ⟨newRow, hnew⟩ : ∃ newRow, bootstrapRow ctx db type envelope = .ok newRow := by
    cases hboot : bootstrapRow ctx db type envelope with
    | error e =>
        rw [hboot] at hrow
        cases hrow
    | ok newRow => exact ⟨newRow, rfl⟩
  have hcreates : Creates ctx db envelope newRow := ⟨type, h.type, hnew⟩
  have haccepts : Accepts ctx db raw envelope (db.addSession newRow) newRow
      (bootstrapState newRow envelope) (bootstrapState newRow envelope).participants :=
    { verified := h.verified
      fresh := h.fresh
      timely := by
        intro row hrow
        rw [h.absent] at hrow
        cases hrow
      loaded := .created h.absent hkind hcreates (by rw [hreceiver]; rfl)
      admitted := by
        rw [advanceToReview_bootstrapState]
        exact admitted_bootstrapState (newRow_of_creates hcreates) hkind h.first }
  obtain ⟨db', hcommit, hcommits⟩ := ingestCommit_of_accepts haccepts
  have hoffer : isPeerOffer db' envelope = false := by
    rw [isPeerOffer, hkind]
    rfl
  have hresult : (ingestEnvelope ctx db raw).db = db' ∧
      (ingestEnvelope ctx db raw).exit = deliveredAck ctx raw envelope := by
    simp only [ingestEnvelope, hcommit, hoffer]
    exact ⟨rfl, rfl⟩
  have hstored := hcommits.session?_self haccepts.loaded.base_session?
  have hsame : acceptedRow envelope newRow = newRow := by
    rw [acceptedRow, hkind]
    rfl
  rw [hsame, ← hresult.1] at hstored
  have hrequest : rawKind raw = .text MessageKind.taskRequest.value := by rw [hread.kind, hkind]
  have hdelivered : ∃ ack, (ingestEnvelope ctx db raw).exit = .ok ack ∧ ack.status = .delivered := by
    rw [hresult.2]
    exact deliveredAck_ok hread ctx
  exact ⟨newRow, _, hnew, hrequest, hdelivered, envelope.sessionId, hread.sessionId, h.absent,
    hstored⟩

/-- Expiry opens no session. -/
theorem absent_of_expires {now : Instant} {db' : Db} {sid : String} (h : Expires now db db')
    (hnone : db.session? sid = none) : db'.session? sid = none := by
  rcases h with hsame | ⟨other, row, hrow, -, hwritten⟩
  · rw [hsame.session?]
    exact hnone
  · have hne : sid ≠ other := by
      rintro rfl
      rw [hnone] at hrow
      cases hrow
    rw [SameTables.session? hwritten,
      session?_updateSession_of_ne (fun _ => setStatus_sessionId _ _ _) hne]
    exact hnone

theorem requests_of_openedBy (h : OpenedBy ctx db raw row) :
    ∃ envelope type newRow status, Requests ctx db raw envelope type ∧
      bootstrapRow ctx db type envelope = .ok newRow ∧ row = setStatus status ctx.now newRow := by
  obtain ⟨ack, hexit, hstatus⟩ := h.accepted
  obtain ⟨sid, hsid, habsent, hrow⟩ := h.created
  rcases ingestCommit_cases ctx db raw with ⟨db', exit, hcommit, hexpires⟩ |
    ⟨envelope, newRow, exit, hver, hopens, hcommit, hwhy⟩ |
    ⟨envelope, base, stored, state, participants, db', haccepts, hcommit, hcommits⟩
  · have hdb : (ingestEnvelope ctx db raw).db = db' := by simp only [ingestEnvelope, hcommit]
    rw [hdb, absent_of_expires hexpires habsent] at hrow
    cases hrow
  · have hended : (ingestEnvelope ctx db raw).exit = exit := by
      simp only [ingestEnvelope, hcommit]
    rcases hwhy with ⟨-, hraised⟩ | ⟨-, -, message, hrejected⟩
    · rw [hended, hraised] at hexit
      cases hexit
    · have hback := status_of_acknowledgement ((hrejected.symm.trans hended.symm).trans hexit)
      rw [hback] at hstatus
      cases hstatus
  · have hread := readFrom_of_verified haccepts.verified
    obtain rfl : envelope.sessionId = sid :=
      PyStr.text.inj (Json.str.inj (hread.sessionId.symm.trans hsid))
    have hadmitted := haccepts.admitted
    have hsession := hcommits.session?_self haccepts.loaded.base_session?
    cases haccepts.loaded with
    | stored hstored =>
        rw [habsent] at hstored
        cases hstored
    | created hnone hkind hcreates hreceiver =>
        obtain ⟨type, hmode, hboot⟩ := hcreates
        have hnew := newRow_of_creates ⟨type, hmode, hboot⟩
        rw [advanceToReview_bootstrapState] at hadmitted
        have hfirst : envelope.sequence = 1 := by
          by_contra hseq
          obtain ⟨message, hrefused⟩ := processPeerEnvelope_bootstrapState hnew hkind hseq
          rw [processPeerEnvelope_of_admitted hadmitted] at hrefused
          cases hrefused
        have hbinds : answersRequest db envelope = true := by
          obtain ⟨receiver, hreceiver'⟩ := Option.isSome_iff_exists.mp hreceiver
          simp only [answersRequest, hmode, hreceiver, Bool.and_true]
          rw [← isOk_bootstrapRow hreceiver', hboot]
          rfl
        have hoffer : isPeerOffer db' envelope = false := by
          rw [isPeerOffer, hkind]
          rfl
        have hdb : (ingestEnvelope ctx db raw).db = db' := by
          simp only [ingestEnvelope, hcommit, hoffer]
          rfl
        have hsame : acceptedRow envelope stored = stored := by
          rw [acceptedRow, hkind]
          rfl
        rw [hdb, hsession, hsame] at hrow
        cases hrow
        exact ⟨envelope, type, stored, _, ⟨haccepts.verified, hnone, haccepts.fresh, hfirst, hmode,
          hbinds⟩, hboot, rfl⟩

theorem budgeted_setStatus (status : Status) (now : Instant) :
    Budgeted (setStatus status now row) ↔ Budgeted row := by
  constructor
  · rintro ⟨h1, h2, h3⟩
    exact ⟨h1, h2, h3⟩
  · rintro ⟨h1, h2, h3⟩
    exact ⟨h1, h2, h3⟩

/-- Accepted requests of the mandatory types give numeric budgets exactly when the values
under the budget keys are numbers to the column they are stored in. -/
theorem mandatory_budgets_iff (ctx : IngestContext) (db : Db) (raw : Fields) :
    MandatoryBudgets ctx db raw ↔
      ∀ envelope type, Requests ctx db raw envelope type → isMandatory type = true →
        budgetsCount ctx.ext envelope.payload = true := by
  constructor
  · intro h envelope type hrequests htype
    obtain ⟨newRow, status, hboot, hopened⟩ := openedBy_of_requests hrequests
    have hsame := (budgets_of_bootstrapRow hboot).1
    have hbudgeted := (h _ hopened (by rw [← hsame] at htype; exact htype)).1
    exact (budgeted_iff hboot htype).mp ((budgeted_setStatus _ _).mp hbudgeted)
  · intro h row hopened htype
    obtain ⟨envelope, type, newRow, status, hrequests, hboot, rfl⟩ := requests_of_openedBy hopened
    have hsame : newRow.sessionType = type := (budgets_of_bootstrapRow hboot).1
    have htype' : isMandatory type = true := by
      rw [← hsame]
      exact htype
    have hbudgeted := (budgeted_iff hboot htype').mpr (h envelope type hrequests htype')
    have hstored := (budgeted_setStatus status ctx.now).mpr hbudgeted
    exact ⟨hstored, fun ext turns now => isOk_exhaustedReason hstored ext turns now⟩

namespace Sample

/-- `alice` asks for a build with a `null` and a text under the budget keys. -/
def unbudgeted : Fields :=
  Transport.Sample.envelope "s1" "alice" "scout" 1 .taskRequest
    [(.text "collaboration_mode", .text "build_pipeline"), (.text "goal", .text "hello"),
      (.text "requested_agent_id", .text "bot"), (.text "runtime_budget_seconds", .null),
      (.text "artifact_bytes_budget", .text "lots")]

end Sample

/-- The request is accepted, its runtime budget is `NULL`, and a turn cannot compare its
byte budget. -/
theorem accepted_request_without_budgets :
    let result := ingestEnvelope Transport.Sample.context Transport.Sample.bobDb Sample.unbudgeted
    (result.exit.toOption.any fun ack => decide (ack.status = .delivered)) = true ∧
      (result.db.session? "s1").map (·.sessionType) = some .buildPipeline ∧
      (result.db.session? "s1").map (·.runtimeBudgetSeconds) = some .null ∧
      (result.db.session? "s1").map (fun row => exhaustedReason Transport.Sample.externals row 0
        Transport.Sample.time) = some (.error .typeError) := by
  intro result
  decide +kernel

end Kin.Node
