import Kin.Session.OutcomeEvidence
import Kin.Transport.IngestSpec

/-!
What an owner puts on record, from `kin/session/history.py`: checkpoints, decisions that may name
one, and drafts that run a session again. A record is an unsequenced event of the owner's own log;
what a call returns is read back from the event it has appended.
-/

namespace Kin.Session

open Kin.Py Kin.Lib Kin.Schemas Kin.Storage Kin.Audit Kin.Transport

/-! ### Appending and reading back -/

def loadEvent (ext : Externals) (db : Db) (eventId : Nat) : Except PyExc (SessionEventRow × Json) :=
  match Rows.lookup SessionEventRow.eventId db.sessionEvents eventId with
  | none => .error .runtimeError
  | some event => (storedPayload ext event.payload).map fun payload => (event, payload)

/-- An event without a sequence is appended, and a record read from what was stored. Only a
sequence can be refused, and the answer to that has no `event_id`. -/
def appendRecord {ρ : Type} (ext : Externals) (db : Db) (ev : NewEvent)
    (record : SessionEventRow × Json → Except PyExc ρ) : Db × Except PyExc ρ :=
  match appendSessionEvent ext db ev with
  | (db', .error e) => (db', .error e)
  | (db', .ok (.appended eventId _)) | (db', .ok (.duplicate eventId)) =>
      (db', (loadEvent ext db' eventId).bind record)
  | (db', .ok (.rejected _)) => (db', .error .valueError)

/-- `not text.strip()`. -/
def isBlank (text : PyStr) : Bool := (strip text).codePoints.isEmpty

/-! ### Checkpoints -/

structure CheckpointArgs where
  sessionId : String
  createdBy : String
  label : PyStr
  snapshot : Option Fields := none

structure CheckpointRecord where
  checkpointId : Nat
  sessionId : String
  eventOrder : Nat
  createdBy : String
  label : PyStr
  snapshot : Fields
  createdAt : String

def checkpointFields (args : CheckpointArgs) : Fields :=
  [(.text "content", .str (strip args.label)), (.text "label", .str (strip args.label)),
   (.text "snapshot", .obj (args.snapshot.getD []))]

/-- The event `create_checkpoint` appends; the writer reads the clock. -/
def checkpointEvent (args : CheckpointArgs) (now : Instant) : NewEvent where
  sessionId := args.sessionId
  actorUsername := args.createdBy
  actorAgentId := none
  kind := .internal .checkpoint
  visibility := .localOnly
  payload := some (.obj (checkpointFields args))
  createdAt := now

/-- `payload.get("snapshot") or {}`, as a dictionary. -/
def snapshotField (fields : Fields) : Option Fields :=
  match Fields.firstTruthy (Fields.getD fields "snapshot" .null) (.obj []) with
  | .obj snapshot => some snapshot
  | _ => none

def checkpointRecord (sessionId createdBy : String) :
    SessionEventRow × Json → Except PyExc CheckpointRecord
  | (event, .obj fields) =>
      match strField fields "label", snapshotField fields with
      | some label, some snapshot =>
          .ok ⟨event.eventId, sessionId, event.eventOrder, createdBy, label, snapshot,
            createdAtText event⟩
      | _, _ => .error .validationError
  | _ => .error .typeError

def createCheckpoint (ext : Externals) (db : Db) (args : CheckpointArgs) (now : Instant) :
    Db × Except PyExc CheckpointRecord :=
  if (db.session? args.sessionId).isNone then (db, .error .valueError)
  else if isBlank args.label then (db, .error .valueError)
  else
    appendRecord ext db (checkpointEvent args now) (checkpointRecord args.sessionId args.createdBy)

/-! ### Decisions -/

structure DecisionArgs where
  sessionId : String
  decidedBy : String
  summary : PyStr
  rationale : PyStr := .text ""
  checkpointId : Option Nat := none

structure DecisionRecord where
  decisionId : Nat
  sessionId : String
  eventOrder : Nat
  decidedBy : String
  summary : PyStr
  rationale : PyStr
  checkpointId : Option Nat
  createdAt : String
  deriving DecidableEq

/-- A checkpoint is named by the id of its event. -/
def idJson : Option Nat → Json
  | none => .null
  | some eventId => .int eventId

def decisionFields (args : DecisionArgs) : Fields :=
  [(.text "content", .str (strip args.summary)), (.text "summary", .str (strip args.summary)),
   (.text "rationale", .str (strip args.rationale)),
   (.text "checkpoint_id", idJson args.checkpointId)]

/-- The event `create_decision` appends. -/
def decisionEvent (args : DecisionArgs) (now : Instant) : NewEvent where
  sessionId := args.sessionId
  actorUsername := args.decidedBy
  actorAgentId := none
  kind := .internal .decision
  visibility := .localOnly
  payload := some (.obj (decisionFields args))
  createdAt := now

/-- `payload.get("rationale") or ""`. -/
def rationaleField (fields : Fields) : Option PyStr :=
  asStr (Fields.firstTruthy (Fields.getD fields "rationale" .null) (.text ""))

/-- `payload.get("checkpoint_id")`; `none` inside is `null` or a missing key. -/
def checkpointField (fields : Fields) : Option (Option Nat) :=
  match Fields.getD fields "checkpoint_id" .null with
  | .null => some none
  | .int (.ofNat eventId) => some (some eventId)
  | _ => none

def decisionRecord (sessionId decidedBy : String) :
    SessionEventRow × Json → Except PyExc DecisionRecord
  | (event, .obj fields) =>
      match strField fields "summary", rationaleField fields, checkpointField fields with
      | some summary, some rationale, some checkpointId =>
          .ok ⟨event.eventId, sessionId, event.eventOrder, decidedBy, summary, rationale,
            checkpointId, createdAtText event⟩
      | _, _, _ => .error .validationError
  | _ => .error .typeError

def isCheckpointOf (sessionId : String) (eventId : Nat) (event : SessionEventRow) : Bool :=
  event.eventId == eventId && event.sessionId == sessionId && event.kind == .internal .checkpoint

def createDecision (ext : Externals) (db : Db) (args : DecisionArgs) (now : Instant) :
    Db × Except PyExc DecisionRecord :=
  if (db.session? args.sessionId).isNone then (db, .error .valueError)
  else if isBlank args.summary then (db, .error .valueError)
  else if args.checkpointId.any fun eventId =>
      !db.sessionEvents.any (isCheckpointOf args.sessionId eventId) then (db, .error .valueError)
  else
    appendRecord ext db (decisionEvent args now) (decisionRecord args.sessionId args.decidedBy)

/-! ### Reruns -/

structure FreshAuthorityRerun where
  sourceSessionId : String
  rerunSessionId : String
  status : Status := .draft
  createdBy : String
  createdAt : Instant
  carriedApprovalCount : Nat := 0

/-- The row of the rerun: the shape and the input of the source, and nothing it has used up. -/
def rerunRow (source : SessionRow) (rerunSessionId : String) (now : Instant) : SessionRow where
  sessionId := rerunSessionId
  sessionType := source.sessionType
  initiatorUsername := source.initiatorUsername
  receiverUsername := source.receiverUsername
  status := .draft
  objective := source.objective
  senderAgentId := source.senderAgentId
  receiverAgentId := source.receiverAgentId
  turnLimit := source.turnLimit
  runtimeBudgetSeconds := source.runtimeBudgetSeconds
  artifactBytesBudget := source.artifactBytesBudget
  cumulativeArtifactBytes := 0
  costBudgetEstimate := source.costBudgetEstimate
  cumulativeCostEstimate := 0
  createdAt := now
  updatedAt := now
  expiresAt := none

def rerunEvent (sourceSessionId createdBy rerunSessionId : String) (now : Instant) : NewEvent where
  sessionId := rerunSessionId
  actorUsername := createdBy
  actorAgentId := none
  kind := .internal .rerunCreated
  visibility := .localOnly
  payload := some (.obj
    [(.text "source_session_id", .text sourceSessionId), (.text "fresh_authority", .bool true)])
  createdAt := now

/-- `create_fresh_authority_rerun`. `now` is read for the row and `clock` for the event, which come
one after the other. -/
def createFreshAuthorityRerun (ext : Externals) (db : Db)
    (sourceSessionId createdBy rerunSessionId : String) (now clock : Instant) :
    Db × Except PyExc FreshAuthorityRerun :=
  match db.session? sourceSessionId with
  | none => (db, .error .valueError)
  | some source =>
      -- the insert violates the primary key
      if (db.session? rerunSessionId).isSome then (db, .error .integrityError)
      else
        let db := db.addSession (rerunRow source rerunSessionId now)
        match appendSessionEvent ext db
            (rerunEvent sourceSessionId createdBy rerunSessionId clock) with
        | (db, .error e) => (db, .error e)
        | (db, .ok _) =>
            (db.writeAuditEvent "fresh_authority_rerun"
              ("Fresh-authority rerun draft created from " ++ sourceSessionId)
              (some rerunSessionId) (some createdBy),
              .ok { sourceSessionId, rerunSessionId, createdBy, createdAt := now })

/-! ### Numbered events -/

def Numbered (db : Db) : Prop :=
  db.sessionEvents.map (·.eventId) = List.range db.sessionEvents.length

theorem Numbered.of_sessionEvents {db db' : Db} (h : Numbered db)
    (heq : db'.sessionEvents = db.sessionEvents) : Numbered db' := by
  rw [Numbered, heq]
  exact h

theorem Numbered.addEvent {db : Db} (h : Numbered db) (ev : NewEvent) :
    Numbered (Audit.addEvent db ev) := by
  have hrow : (eventRow db ev).eventId = db.sessionEvents.length := rfl
  rw [Numbered, Audit.addEvent, List.map_append, h, List.length_append, List.length_singleton,
    List.range_succ, List.map_singleton, hrow]

theorem Numbered.appended {db db' : Db} {ev : NewEvent} (h : Numbered db)
    (happended : Appended db ev db') : Numbered db' :=
  (h.addEvent ev).of_sessionEvents (SameTables.sessionEvents happended)

theorem Numbered.loadEvent {db : Db} (h : Numbered db) (ext : Externals) {event : SessionEventRow}
    (hmem : event ∈ db.sessionEvents) :
    loadEvent ext db event.eventId =
      (storedPayload ext event.payload).map fun payload => (event, payload) := by
  have hids : (db.sessionEvents.map (·.eventId)).Nodup := by
    rw [h]
    exact List.nodup_range
  rw [Session.loadEvent, Rows.lookup_of_mem_nodup hids hmem]

theorem mem_sessionEvents_of_mem_eventsOf {db : Db} {sid : String} {event : SessionEventRow}
    (h : event ∈ db.eventsOf sid) : event ∈ db.sessionEvents ∧ event.sessionId = sid := by
  obtain ⟨hmem, hsid⟩ := List.mem_filter.mp h
  exact ⟨hmem, beq_iff_eq.mp hsid⟩

/-- An appended record is read from the row that the event has become; otherwise nothing but the
audit table is written. -/
theorem appendRecord_cases {ρ : Type} (ext : Externals) {db : Db} (hdb : Numbered db)
    (ev : NewEvent) (hseq : ev.sequence = none)
    (record : SessionEventRow × Json → Except PyExc ρ) :
    (Appended db ev (appendRecord ext db ev record).1 ∧
      (db.session? ev.sessionId).isSome = true ∧
      (appendRecord ext db ev record).2 =
        ((storedPayload ext ev.payload).map fun payload => (eventRow db ev, payload)).bind record) ∨
    (SameTables db (appendRecord ext db ev record).1 ∧
      ∃ e, (appendRecord ext db ev record).2 = .error e) := by
  unfold appendRecord appendSessionEvent insertEvent
  rw [hseq]
  dsimp only
  cases hpayload : checkEventPayload ext ev.payload with
  | error e => exact .inr ⟨.refl db, e, rfl⟩
  | ok _ =>
      cases hsession : db.session? ev.sessionId with
      | none => exact .inr ⟨.refl db, .integrityError, rfl⟩
      | some row =>
          refine .inl ⟨sameTables_writeAuditEvent .., rfl, ?_⟩
          have hnumbered : Numbered ((Audit.addEvent db ev).writeAuditEvent
              ("session_event_" ++ ev.kind.value) ("Session event " ++ ev.kind.value ++
                " appended (order " ++ toString (eventRow db ev).eventOrder ++ ")")
              (some ev.sessionId) (some ev.actorUsername)) :=
            (hdb.addEvent ev).of_sessionEvents rfl
          have hmem : eventRow db ev ∈ (Audit.addEvent db ev).sessionEvents :=
            List.mem_append_right _ (List.mem_singleton_self _)
          exact congrArg (·.bind record) (hnumbered.loadEvent ext hmem)

/-! ### What the calls do -/

theorem createCheckpoint_cases (ext : Externals) {db : Db} (hdb : Numbered db)
    (args : CheckpointArgs) (now : Instant) :
    (Appended db (checkpointEvent args now) (createCheckpoint ext db args now).1 ∧
      (db.session? args.sessionId).isSome = true ∧
      (createCheckpoint ext db args now).2 =
        ((storedPayload ext (checkpointEvent args now).payload).map fun payload =>
          (eventRow db (checkpointEvent args now), payload)).bind
            (checkpointRecord args.sessionId args.createdBy)) ∨
    (SameTables db (createCheckpoint ext db args now).1 ∧
      ∃ e, (createCheckpoint ext db args now).2 = .error e) := by
  unfold createCheckpoint
  split
  · exact .inr ⟨.refl db, _, rfl⟩
  · split
    · exact .inr ⟨.refl db, _, rfl⟩
    · exact appendRecord_cases ext hdb _ rfl _

def Cites (db : Db) (args : DecisionArgs) : Prop :=
  ∀ eventId, args.checkpointId = some eventId →
    ∃ checkpoint ∈ db.sessionEvents, isCheckpointOf args.sessionId eventId checkpoint = true

theorem createDecision_cases (ext : Externals) {db : Db} (hdb : Numbered db)
    (args : DecisionArgs) (now : Instant) :
    (Cites db args ∧ Appended db (decisionEvent args now) (createDecision ext db args now).1 ∧
      (db.session? args.sessionId).isSome = true ∧
      (createDecision ext db args now).2 =
        ((storedPayload ext (decisionEvent args now).payload).map fun payload =>
          (eventRow db (decisionEvent args now), payload)).bind
            (decisionRecord args.sessionId args.decidedBy)) ∨
    (SameTables db (createDecision ext db args now).1 ∧
      ∃ e, (createDecision ext db args now).2 = .error e) := by
  unfold createDecision
  split
  · exact .inr ⟨.refl db, _, rfl⟩
  · split
    · exact .inr ⟨.refl db, _, rfl⟩
    · split
      · exact .inr ⟨.refl db, _, rfl⟩
      · rename_i hknown
        rcases appendRecord_cases ext hdb (decisionEvent args now) rfl
          (decisionRecord args.sessionId args.decidedBy) with happended | hsame
        · refine .inl ⟨fun eventId hid => ?_, happended⟩
          rw [hid] at hknown
          have hany : db.sessionEvents.any (isCheckpointOf args.sessionId eventId) = true := by
            simpa using hknown
          exact List.any_eq_true.mp hany
        · exact .inr hsame

/-- An event without a sequence, with a payload that validates, is accepted by a stored session. -/
theorem appendSessionEvent_local (ext : Externals) {db : Db} (ev : NewEvent) {row : SessionRow}
    (hseq : ev.sequence = none) (hpayload : checkEventPayload ext ev.payload = .ok ())
    (hrow : db.session? ev.sessionId = some row) :
    ∃ db' result, appendSessionEvent ext db ev = (db', .ok result) ∧ Appended db ev db' := by
  simp only [appendSessionEvent, hseq, insertEvent, hpayload, hrow]
  exact ⟨_, _, rfl, sameTables_writeAuditEvent ..⟩

/-- A rerun is a draft of its own with one event, or nothing is written. -/
theorem createFreshAuthorityRerun_cases (ext : Externals) (db : Db)
    (sourceSessionId createdBy rerunSessionId : String) (now clock : Instant) :
    (∃ source, db.session? sourceSessionId = some source ∧ db.session? rerunSessionId = none ∧
      Appended (db.addSession (rerunRow source rerunSessionId now))
        (rerunEvent sourceSessionId createdBy rerunSessionId clock)
        (createFreshAuthorityRerun ext db sourceSessionId createdBy rerunSessionId now clock).1 ∧
      (createFreshAuthorityRerun ext db sourceSessionId createdBy rerunSessionId now clock).2 =
        .ok { sourceSessionId, rerunSessionId, createdBy, createdAt := now }) ∨
    ∃ e, createFreshAuthorityRerun ext db sourceSessionId createdBy rerunSessionId now clock =
      (db, .error e) := by
  unfold createFreshAuthorityRerun
  cases hsource : db.session? sourceSessionId with
  | none => exact .inr ⟨_, rfl⟩
  | some source =>
      cases hrerun : db.session? rerunSessionId with
      | some row => exact .inr ⟨.integrityError, rfl⟩
      | none =>
          refine .inl ⟨source, rfl, rfl, ?_⟩
          have hadded : (db.addSession (rerunRow source rerunSessionId now)).session?
              rerunSessionId = some (rerunRow source rerunSessionId now) :=
            session?_addSession_self hrerun
          obtain ⟨db', result, hresult, happended⟩ := appendSessionEvent_local ext
            (rerunEvent sourceSessionId createdBy rerunSessionId clock) rfl rfl hadded
          simp only [Option.isSome_none, Bool.false_eq_true, if_false, hresult]
          exact ⟨happended.trans (sameTables_writeAuditEvent ..), trivial⟩

/-! ### Runs -/

/-- What reaches the sessions and the log: what is appended and updated otherwise, sessions that are
opened, and the owner's records. -/
inductive RecordStep
  | history (step : HistoryStep)
  | openSession (row : SessionRow)
  | checkpoint (args : CheckpointArgs) (now : Instant)
  | decision (args : DecisionArgs) (now : Instant)
  | rerun (sourceSessionId createdBy rerunSessionId : String) (now clock : Instant)

/-- The database after a step, however it ended; a session that is stored is not opened again. -/
def recordStep (ext : Externals) (db : Db) : RecordStep → Db
  | .history step => historyStep ext db step
  | .openSession row => if (db.session? row.sessionId).isSome then db else db.addSession row
  | .checkpoint args now => (createCheckpoint ext db args now).1
  | .decision args now => (createDecision ext db args now).1
  | .rerun source createdBy rerun now clock =>
      (createFreshAuthorityRerun ext db source createdBy rerun now clock).1

/-- Decision events come from `create_decision` only. -/
def DecisionsCreated : RecordStep → Prop
  | .history (.append ev) => ev.kind ≠ .internal .decision
  | _ => True

def KeepsSessions (db db' : Db) : Prop :=
  ∀ sid, (db.session? sid).isSome = true → (db'.session? sid).isSome = true

/-- One event more, or the log as it was; the sessions stay. -/
inductive Logs (P : NewEvent → Prop) (db db' : Db) : Prop
  | nothing (hsessions : KeepsSessions db db') (h : db'.sessionEvents = db.sessionEvents)
  | event (ev : NewEvent) (hev : P ev) (hsessions : KeepsSessions db db')
      (h : db'.sessionEvents = db.sessionEvents ++ [eventRow db ev])

def namedCheckpoint : Option Json → Option Nat
  | some (.obj fields) => (checkpointField fields).join
  | _ => none

def CitesStored (db : Db) (ev : NewEvent) : Prop :=
  ev.kind = .internal .decision → ∀ eventId, namedCheckpoint ev.payload = some eventId →
    ∃ checkpoint ∈ db.sessionEvents, isCheckpointOf ev.sessionId eventId checkpoint = true

theorem namedCheckpoint_decisionEvent (args : DecisionArgs) (now : Instant) :
    namedCheckpoint (decisionEvent args now).payload = args.checkpointId := by
  obtain ⟨sid, decidedBy, summary, rationale, _ | eventId⟩ := args
  · rfl
  · rfl

theorem keepsSessions_of_session? {db db' : Db} (h : ∀ sid, db'.session? sid = db.session? sid) :
    KeepsSessions db db' := by
  intro sid hsome
  rw [h]
  exact hsome

theorem Logs.of_appended {P : NewEvent → Prop} {db db' : Db} {ev : NewEvent} (hev : P ev)
    (h : Appended db ev db') : Logs P db db' :=
  .event ev hev (fun sid hsome => by rw [SameTables.session? h]; exact hsome)
    (SameTables.sessionEvents h)

theorem Logs.of_sameTables {P : NewEvent → Prop} {db db' : Db} (h : SameTables db db') :
    Logs P db db' := .nothing (keepsSessions_of_session? h.session?) h.sessionEvents

theorem keepsSessions_addSession (db : Db) (row : SessionRow) :
    KeepsSessions db (db.addSession row) := by
  intro sid hsome
  rw [Db.session?, Db.addSession, Rows.lookup_append, Option.isSome_or]
  exact Bool.or_eq_true_iff.mpr (.inl hsome)

theorem logs_historyStep (ext : Externals) (db : Db) (step : HistoryStep) :
    Logs (fun ev => DecisionsCreated (.history step) → CitesStored db ev) db
      (historyStep ext db step) := by
  cases step with
  | append ev =>
      rcases appendSessionEvent_cases ext db ev with ⟨happended, -⟩ | ⟨hsame, -⟩
      · exact .of_appended (fun hplain hkind => absurd hkind hplain) happended
      · exact .of_sameTables hsame
  | createOutcome sid summary now =>
      rcases createOutcomeCard_cases ext db sid summary now with
        ⟨hsame, -⟩ | ⟨status, replay, -, -, happended, -⟩
      · refine .of_sameTables ?_
        rw [historyStep, hsame]
        exact .refl db
      · refine .of_appended (fun _ hkind => ?_) happended
        cases hkind
  | updateStatus sid status now =>
      refine .nothing (fun sid' hsome => ?_) rfl
      rw [historyStep, isSome_session?_updateSession (setStatus_sessionId status now)]
      exact hsome

/-- One step logs one event at most, and the checkpoint of a decision is there. -/
theorem logs_recordStep (ext : Externals) {db : Db} (hdb : Numbered db) (step : RecordStep) :
    Logs (fun ev => DecisionsCreated step → CitesStored db ev) db (recordStep ext db step) := by
  cases step with
  | history step => exact logs_historyStep ext db step
  | openSession row =>
      show Logs _ db (if (db.session? row.sessionId).isSome then db else db.addSession row)
      split
      · exact .of_sameTables (.refl db)
      · exact .nothing (keepsSessions_addSession db row) rfl
  | checkpoint args now =>
      rcases createCheckpoint_cases ext hdb args now with ⟨happended, -⟩ | ⟨hsame, -⟩
      · refine .of_appended (fun _ hkind => ?_) happended
        cases hkind
      · exact .of_sameTables hsame
  | decision args now =>
      rcases createDecision_cases ext hdb args now with ⟨hcites, happended, -⟩ | ⟨hsame, -⟩
      · refine .of_appended (fun _ _ eventId hid => hcites eventId ?_) happended
        rw [← namedCheckpoint_decisionEvent args now]
        exact hid
      · exact .of_sameTables hsame
  | rerun source createdBy rerun now clock =>
      rcases createFreshAuthorityRerun_cases ext db source createdBy rerun now clock with
        ⟨row, -, -, happended, -⟩ | ⟨e, herror⟩
      · refine .event _ (fun _ hkind => ?_) (fun sid hsome => ?_)
          (SameTables.sessionEvents happended)
        · cases hkind
        · rw [recordStep, SameTables.session? happended]
          exact keepsSessions_addSession db _ sid hsome
      · refine .of_sameTables ?_
        rw [recordStep, herror]
        exact .refl db

/-- The ids are positions, and a decision that names a checkpoint comes after it, in one session. -/
structure WellCited (db : Db) : Prop where
  numbered : Numbered db
  cited : ∀ event ∈ db.sessionEvents, event.kind = .internal .decision →
    ∀ eventId, namedCheckpoint event.payload = some eventId →
      ∃ checkpoint ∈ db.sessionEvents, isCheckpointOf event.sessionId eventId checkpoint = true ∧
        checkpoint.eventOrder < event.eventOrder

theorem wellCited_fresh (identity : Option String) (contacts : List ContactRow)
    (agents : List AgentRow) : WellCited (Db.fresh identity contacts agents) where
  numbered := rfl
  cited _ hmem := nomatch hmem

theorem Numbered.logs {P : NewEvent → Prop} {db db' : Db} (h : Numbered db)
    (hlogs : Logs P db db') : Numbered db' := by
  cases hlogs with
  | nothing _ heq => exact h.of_sessionEvents heq
  | event ev _ _ heq => exact (h.addEvent ev).of_sessionEvents heq

theorem WellCited.recordStep {ext : Externals} {db : Db} (h : WellCited db) (step : RecordStep)
    (hstep : DecisionsCreated step) : WellCited (recordStep ext db step) := by
  have hlogs := logs_recordStep ext h.numbered step
  refine ⟨h.numbered.logs hlogs, ?_⟩
  cases hlogs with
  | nothing _ heq =>
      rw [heq]
      exact h.cited
  | event ev hev _ heq =>
      rw [heq]
      intro event hmem hkind eventId hid
      rcases List.mem_append.mp hmem with hold | hnew
      · obtain ⟨checkpoint, hcheckpoint, hfit⟩ := h.cited event hold hkind eventId hid
        exact ⟨checkpoint, List.mem_append_left _ hcheckpoint, hfit⟩
      · rw [List.mem_singleton.mp hnew] at hkind hid ⊢
        obtain ⟨checkpoint, hcheckpoint, hfit⟩ := hev hstep hkind eventId hid
        refine ⟨checkpoint, List.mem_append_left _ hcheckpoint, hfit, ?_⟩
        have hsession : checkpoint ∈ db.eventsOf ev.sessionId := by
          refine List.mem_filter.mpr ⟨hcheckpoint, ?_⟩
          simp only [isCheckpointOf, Bool.and_eq_true] at hfit
          exact hfit.1.2
        exact eventOrder_lt_nextOrder hsession

/-! ### What stays -/

theorem Logs.grown {P : NewEvent → Prop} {db db' : Db} (h : Logs P db db') {sid : String}
    (hsome : (db.session? sid).isSome = true) : ∃ later, Grown db db' sid later := by
  cases h with
  | nothing hsessions heq =>
      refine ⟨[], hsome.trans (hsessions sid hsome).symm, ?_, fun e he => nomatch he⟩
      rw [Db.eventsOf, heq, List.append_nil]
      rfl
  | event ev _ hsessions heq =>
      obtain ⟨hsession, hevents, horder⟩ := Appended.grown (.refl (Audit.addEvent db ev)) sid
      refine ⟨_, hsome.trans (hsessions sid hsome).symm, ?_, horder⟩
      rw [← hevents, Db.eventsOf, heq]
      rfl

/-- What a run adds to a stored session comes after what is there. -/
theorem grown_run_recordStep (ext : Externals) {db : Db} (hdb : Numbered db) {sid : String}
    (hsome : (db.session? sid).isSome = true) (steps : List RecordStep) :
    Numbered (run (recordStep ext) db steps) ∧
      ∃ later, Grown db (run (recordStep ext) db steps) sid later := by
  induction steps generalizing db with
  | nil => exact ⟨hdb, [], .refl db sid⟩
  | cons step steps ih =>
      have hlogs := logs_recordStep ext hdb step
      obtain ⟨xs, hxs⟩ := hlogs.grown hsome
      obtain ⟨hnumbered, ys, hys⟩ := ih (hdb.logs hlogs) (hxs.session ▸ hsome)
      exact ⟨hnumbered, xs ++ ys, hxs.trans hys⟩

/-- What an appended event loads as, and what is replayed through it, whatever comes later. -/
theorem kept_of_appended (ext : Externals) {db made : Db} (hdb : Numbered db) {ev : NewEvent}
    (happended : Appended db ev made) (hsome : (db.session? ev.sessionId).isSome = true)
    (later : List RecordStep) :
    let db' := run (recordStep ext) made later
    loadEvent ext db' (eventRow db ev).eventId =
        ((storedPayload ext ev.payload).map fun payload => (eventRow db ev, payload)) ∧
      replaySession ext db' ev.sessionId (some ((eventRow db ev).eventOrder : Int)) =
        (replaySession ext made ev.sessionId none).map
          (ReplaySnapshot.boundedBy · ((eventRow db ev).eventOrder : Int)) := by
  intro db'
  have hmade : (made.session? ev.sessionId).isSome = true := by
    rw [SameTables.session? happended]
    exact hsome
  obtain ⟨hnumbered, rest, hgrown⟩ :=
    grown_run_recordStep ext (hdb.appended happended) hmade later
  have hevents : made.eventsOf ev.sessionId = db.eventsOf ev.sessionId ++ [eventRow db ev] := by
    rw [SameTables.eventsOf happended, eventsOf_addEvent_self]
  have hmem : eventRow db ev ∈ made.eventsOf ev.sessionId := by
    rw [hevents]
    exact List.mem_append_right _ (List.mem_singleton_self _)
  have hmem' : eventRow db ev ∈ db'.eventsOf ev.sessionId := by
    rw [hgrown.events]
    exact List.mem_append_left _ hmem
  refine ⟨hnumbered.loadEvent ext (mem_sessionEvents_of_mem_eventsOf hmem').1, ?_⟩
  have hall : through orderOf ((eventRow db ev).eventOrder : Int) (made.eventsOf ev.sessionId) =
      made.eventsOf ev.sessionId := by
    refine through_of_le fun e he => ?_
    rw [hevents] at he
    rcases List.mem_append.mp he with hold | hnew
    · exact Int.ofNat_le.mpr (Nat.le_of_lt (eventOrder_lt_nextOrder hold))
    · rw [List.mem_singleton.mp hnew]
      exact le_rfl
  rw [hgrown.replaySession (Int.ofNat_lt.mpr (eventOrder_lt_nextOrder hmem)),
    replaySession_some _ hmade, hall, replaySession_none hmade]

theorem checkpointRecord_eq_ok {args : CheckpointArgs} {event : SessionEventRow}
    {record : CheckpointRecord}
    (h : checkpointRecord args.sessionId args.createdBy (event, .obj (checkpointFields args)) =
      .ok record) :
    record.checkpointId = event.eventId ∧ record.eventOrder = event.eventOrder ∧
      record.label = strip args.label ∧ record.snapshot = args.snapshot.getD [] := by
  have hlabel : strField (checkpointFields args) "label" = some (strip args.label) := rfl
  have hsnapshot : Fields.firstTruthy (Fields.getD (checkpointFields args) "snapshot" .null)
      (.obj []) = .obj (args.snapshot.getD []) := by
    have hget : Fields.getD (checkpointFields args) "snapshot" .null =
        .obj (args.snapshot.getD []) := rfl
    rw [hget]
    cases args.snapshot.getD [] with
    | nil => rfl
    | cons entry fields => rfl
  unfold checkpointRecord snapshotField at h
  dsimp only at h
  rw [hlabel, hsnapshot] at h
  dsimp only at h
  cases h
  exact ⟨rfl, rfl, rfl, rfl⟩

theorem decisionRecord_eq_ok {args : DecisionArgs} {event : SessionEventRow}
    {record : DecisionRecord}
    (h : decisionRecord args.sessionId args.decidedBy (event, .obj (decisionFields args)) =
      .ok record) :
    record.decisionId = event.eventId ∧ record.eventOrder = event.eventOrder ∧
      record.summary = strip args.summary ∧ record.checkpointId = args.checkpointId := by
  have hsummary : strField (decisionFields args) "summary" = some (strip args.summary) := rfl
  have hcheckpoint : checkpointField (decisionFields args) = some args.checkpointId := by
    show (match idJson args.checkpointId with
      | .null => some none
      | .int (.ofNat eventId) => some (some eventId)
      | _ => none) = _
    cases args.checkpointId <;> rfl
  unfold decisionRecord at h
  dsimp only at h
  rw [hsummary, hcheckpoint] at h
  split at h
  · rename_i summary rationale checkpointId htext _ hid
    cases htext
    cases hid
    cases h
    exact ⟨rfl, rfl, rfl, rfl⟩
  · cases h

/-- Over any run of appends, updates and records, where decision events come from `create_decision`
only: a decision that names a checkpoint comes after that checkpoint, in one session. A checkpoint
or a decision that is made then has what it was asked for, and whatever comes later, its event still
loads as the record that was returned, and the session replayed through it is the session as it was
when the record was made. -/
theorem owner_records_of_run (ext : Externals) (identity : Option String)
    (contacts : List ContactRow) (agents : List AgentRow) (steps : List RecordStep)
    (hsteps : ∀ step ∈ steps, DecisionsCreated step) (later : List RecordStep) :
    let db := run (recordStep ext) (Db.fresh identity contacts agents) steps
    (∀ event ∈ db.sessionEvents, event.kind = .internal .decision →
      ∀ eventId, namedCheckpoint event.payload = some eventId →
        ∃ checkpoint ∈ db.sessionEvents,
          isCheckpointOf event.sessionId eventId checkpoint = true ∧
          checkpoint.eventOrder < event.eventOrder) ∧
      (∀ args now record, (createCheckpoint ext db args now).2 = .ok record →
        let made := (createCheckpoint ext db args now).1
        let db' := run (recordStep ext) made later
        record.label = strip args.label ∧ record.snapshot = args.snapshot.getD [] ∧
          (loadEvent ext db' record.checkpointId).bind
            (checkpointRecord args.sessionId args.createdBy) = .ok record ∧
          replaySession ext db' args.sessionId (some record.eventOrder) =
            (replaySession ext made args.sessionId none).map
              (ReplaySnapshot.boundedBy · record.eventOrder)) ∧
      ∀ args now record, (createDecision ext db args now).2 = .ok record →
        let made := (createDecision ext db args now).1
        let db' := run (recordStep ext) made later
        record.summary = strip args.summary ∧ record.checkpointId = args.checkpointId ∧
          (loadEvent ext db' record.decisionId).bind
            (decisionRecord args.sessionId args.decidedBy) = .ok record ∧
          replaySession ext db' args.sessionId (some record.eventOrder) =
            (replaySession ext made args.sessionId none).map
              (ReplaySnapshot.boundedBy · record.eventOrder) := by
  intro db
  have hdb : WellCited db :=
    run_of_along (fun _ step h hstep => h.recordStep step hstep)
      (wellCited_fresh identity contacts agents) (along_of_mem _ hsteps)
  refine ⟨hdb.cited, fun args now record hrecord => ?_, fun args now record hrecord => ?_⟩
  · intro made db'
    rcases createCheckpoint_cases ext hdb.numbered args now with
      ⟨happended, hsome, hresult⟩ | ⟨-, e, herror⟩
    · have hread := hresult.symm.trans hrecord
      obtain ⟨hid, horder, hlabel, hsnapshot⟩ := checkpointRecord_eq_ok hread
      obtain ⟨hload, hreplay⟩ := kept_of_appended ext hdb.numbered happended hsome later
      refine ⟨hlabel, hsnapshot, ?_, ?_⟩
      · rw [hid, hload]
        exact hread
      · rw [horder]
        exact hreplay
    · rw [hrecord] at herror
      cases herror
  · intro made db'
    rcases createDecision_cases ext hdb.numbered args now with
      ⟨-, happended, hsome, hresult⟩ | ⟨-, e, herror⟩
    · have hread := hresult.symm.trans hrecord
      obtain ⟨hid, horder, hsummary, hcheckpoint⟩ := decisionRecord_eq_ok hread
      obtain ⟨hload, hreplay⟩ := kept_of_appended ext hdb.numbered happended hsome later
      refine ⟨hsummary, hcheckpoint, ?_, ?_⟩
      · rw [hid, hload]
        exact hread
      · rw [horder]
        exact hreplay
    · rw [hrecord] at herror
      cases herror

namespace Sample

/-- A session of `alice`'s, and a checkpoint in it. -/
def marking : List RecordStep :=
  [.openSession
     { sessionId := "s1", sessionType := .ask, initiatorUsername := "alice"
       receiverUsername := "bob", status := .active, objective := none, senderAgentId := none
       receiverAgentId := none, turnLimit := 12, runtimeBudgetSeconds := .null
       artifactBytesBudget := .null, cumulativeArtifactBytes := 0, costBudgetEstimate := .null
       cumulativeCostEstimate := 0, createdAt := 0, updatedAt := 0, expiresAt := none },
   .checkpoint { sessionId := "s1", createdBy := "alice", label := .text "before the call" } 1]

def markedDb : Db := run (recordStep digesting) (Db.fresh (some "alice") [] []) marking

def choice : DecisionArgs where
  sessionId := "s1"
  decidedBy := "alice"
  summary := .text " Ship it. "
  checkpointId := some 0

def chosen : DecisionRecord where
  decisionId := 1
  sessionId := "s1"
  eventOrder := 1
  decidedBy := "alice"
  summary := .text "Ship it."
  rationale := .text ""
  checkpointId := some 0
  createdAt := "1970-01-01T00:00:00.000002+00:00"

def callMade : CheckpointArgs where
  sessionId := "s1"
  createdBy := "alice"
  label := .text "after the call"

theorem createDecision_choice : (createDecision digesting markedDb choice 2).2 = .ok chosen := by
  decide +kernel

end Sample

open Sample in
/-- The decision loads as it was returned after the next checkpoint. -/
theorem owner_records_of_run_choice :
    chosen.summary = strip choice.summary ∧
      (loadEvent digesting (run (recordStep digesting)
        (createDecision digesting markedDb choice 2).1 [.checkpoint callMade 3]) 1).bind
          (decisionRecord "s1" "alice") = .ok chosen := by
  have hmade := owner_records_of_run digesting (some "alice") [] [] marking
    (by simp [marking, DecisionsCreated]) [.checkpoint callMade 3]
  obtain ⟨hsummary, -, hload, -⟩ := hmade.2.2 choice 2 chosen createDecision_choice
  exact ⟨hsummary, hload⟩

end Kin.Session
