import Kin.Lib.CertifiedLog
import Kin.Lib.Run
import Kin.Transport.Outbound

/-!
The evidence of an outcome card over whole runs. The log is append-only, so replaying a
session through an order gives the same snapshot at any later time, and an outcome
event certifies the replay of everything before it.
-/

namespace Kin.Session

open Kin.Py Kin.Lib Kin.Schemas Kin.Storage Kin.Audit

/-! ### Orders -/

def orderOf (event : SessionEventRow) : Int := event.eventOrder

theorem nextOrder_le_iff {db : Db} {sid : String} {n : Nat} :
    nextOrder db sid ≤ n ↔ ∀ e ∈ db.eventsOf sid, e.eventOrder < n := by
  unfold nextOrder
  cases hmax : ((db.eventsOf sid).map (·.eventOrder)).max? with
  | none =>
      rw [List.max?_eq_none_iff, List.map_eq_nil_iff] at hmax
      simp [hmax]
  | some m =>
      obtain ⟨hmem, hle⟩ := List.max?_eq_some_iff.mp hmax
      dsimp only
      constructor
      · intro hn e he
        have := hle e.eventOrder (List.mem_map_of_mem he)
        omega
      · intro h
        obtain ⟨e, he, rfl⟩ := List.mem_map.mp hmem
        exact h e he

theorem eventOrder_lt_nextOrder {db : Db} {sid : String} {e : SessionEventRow}
    (h : e ∈ db.eventsOf sid) : e.eventOrder < nextOrder db sid :=
  nextOrder_le_iff.mp (Nat.le_refl _) e h

/-! ### Appended events -/

/-- The events a run of appends adds to a session: all of them come after `bound`. -/
structure Grown (db db' : Db) (sid : String) (later : List SessionEventRow) : Prop where
  session : (db.session? sid).isSome = (db'.session? sid).isSome
  events : db'.eventsOf sid = db.eventsOf sid ++ later
  order : ∀ e ∈ later, nextOrder db sid ≤ e.eventOrder

theorem Grown.refl (db : Db) (sid : String) : Grown db db sid [] where
  session := rfl
  events := (List.append_nil _).symm
  order := by simp

theorem Grown.nextOrder_le {db db' : Db} {sid : String} {later : List SessionEventRow}
    (h : Grown db db' sid later) : nextOrder db sid ≤ nextOrder db' sid := by
  rw [nextOrder_le_iff]
  intro e he
  exact eventOrder_lt_nextOrder (by rw [h.events]; exact List.mem_append_left later he)

theorem Grown.trans {a b c : Db} {sid : String} {xs ys : List SessionEventRow}
    (hab : Grown a b sid xs) (hbc : Grown b c sid ys) : Grown a c sid (xs ++ ys) where
  session := hab.session.trans hbc.session
  events := by rw [hbc.events, hab.events, List.append_assoc]
  order := by
    intro e he
    rcases List.mem_append.mp he with he | he
    · exact hab.order e he
    · exact Nat.le_trans hab.nextOrder_le (hbc.order e he)

theorem SameTables.grown {db db' : Db} (h : SameTables db db') (sid : String) :
    Grown db db' sid [] where
  session := by rw [h.session? sid]
  events := by rw [h.eventsOf sid, List.append_nil]
  order := by simp

theorem Appended.grown {db db' : Db} {ev : NewEvent} (h : Appended db ev db') (sid : String) :
    Grown db db' sid (if ev.sessionId = sid then [eventRow db ev] else []) where
  session := by rw [SameTables.session? h sid]; rfl
  events := by
    rw [SameTables.eventsOf h sid]
    split
    · rename_i heq
      subst heq
      exact eventsOf_addEvent_self db ev
    · rename_i hne
      rw [eventsOf_addEvent_of_ne db ev (Ne.symm hne), List.append_nil]
  order := by
    intro e he
    split at he
    · rename_i heq
      rw [List.mem_singleton.mp he]
      exact Nat.le_of_eq (by rw [← heq]; rfl)
    · cases he

/-- Appending an event, for its effect on the tables. -/
def appendEvent (ext : Externals) (db : Db) (ev : NewEvent) : Db :=
  (appendSessionEvent ext db ev).1

theorem grown_appendEvent (ext : Externals) (db : Db) (ev : NewEvent) (sid : String) :
    ∃ later, Grown db (appendEvent ext db ev) sid later ∧
      ∀ e ∈ later, ev.sessionId = sid ∧ e.kind = ev.kind := by
  rcases appendSessionEvent_cases ext db ev with ⟨ha, -⟩ | ⟨hs, -⟩
  · refine ⟨_, Appended.grown ha sid, ?_⟩
    intro e he
    split at he
    · rename_i heq
      rw [List.mem_singleton.mp he]
      exact ⟨heq, rfl⟩
    · cases he
  · exact ⟨[], SameTables.grown hs sid, by simp⟩

theorem grown_run_appendEvent (ext : Externals) (db : Db) (events : List NewEvent) (sid : String) :
    ∃ later, Grown db (run (appendEvent ext) db events) sid later ∧
      ∀ e ∈ later, ∃ ev ∈ events, ev.sessionId = sid ∧ e.kind = ev.kind := by
  induction events generalizing db with
  | nil => exact ⟨[], .refl db sid, by simp⟩
  | cons ev events ih =>
      obtain ⟨xs, hxs, hkinds⟩ := grown_appendEvent ext db ev sid
      obtain ⟨ys, hys, hkinds'⟩ := ih (appendEvent ext db ev)
      refine ⟨xs ++ ys, hxs.trans hys, ?_⟩
      intro e he
      rcases List.mem_append.mp he with he | he
      · exact ⟨ev, List.mem_cons_self, hkinds e he⟩
      · obtain ⟨ev', hev', hkind⟩ := hkinds' e he
        exact ⟨ev', List.mem_cons_of_mem ev hev', hkind⟩

/-! ### Replaying -/

/-- What `replay_session` makes of the log, or of a part of it. -/
def readEvidence (ext : Externals) (sid : String) (log : List SessionEventRow) :
    Except PyExc ReplaySnapshot :=
  replaySnapshot ext sid none (log.filter isEvidence)

def ReplaySnapshot.boundedBy (replay : ReplaySnapshot) (k : Int) : ReplaySnapshot :=
  { replay with throughEventOrder := some k }

theorem replaySession_none {ext : Externals} {db : Db} {sid : String}
    (h : (db.session? sid).isSome = true) :
    replaySession ext db sid none = readEvidence ext sid (db.eventsOf sid) := by
  obtain ⟨row, hrow⟩ := Option.isSome_iff_exists.mp h
  simp [replaySession, hrow, replayRows, readEvidence]

theorem replaySession_some {ext : Externals} {db : Db} {sid : String} (k : Int)
    (h : (db.session? sid).isSome = true) :
    replaySession ext db sid (some k) =
      (readEvidence ext sid (through orderOf k (db.eventsOf sid))).map
        (ReplaySnapshot.boundedBy · k) := by
  obtain ⟨row, hrow⟩ := Option.isSome_iff_exists.mp h
  have hrows : replayRows db sid (some k) =
      (through orderOf k (db.eventsOf sid)).filter isEvidence := by
    simp only [replayRows, through, orderOf, List.filter_filter, Option.all_some, Bool.and_comm]
    rfl
  simp only [replaySession, hrow, readEvidence, hrows, replaySnapshot]
  cases ((through orderOf k (db.eventsOf sid)).filter isEvidence).mapM (replayEntry ext) with
  | error e => rfl
  | ok events =>
      dsimp only
      split <;> rfl

/-- Replay through an order that is taken does not see what is appended later. -/
theorem Grown.replaySession {ext : Externals} {db db' : Db} {sid : String}
    {later : List SessionEventRow} (h : Grown db db' sid later) {k : Int}
    (hk : k < nextOrder db sid) :
    replaySession ext db' sid (some k) = replaySession ext db sid (some k) := by
  have hthrough : through orderOf k (db'.eventsOf sid) = through orderOf k (db.eventsOf sid) := by
    rw [h.events, through_append_of_lt]
    intro e he
    have := h.order e he
    change k < (e.eventOrder : Int)
    omega
  cases hsession : (db.session? sid).isSome with
  | true =>
      rw [replaySession_some k hsession, replaySession_some k (h.session ▸ hsession), hthrough]
  | false =>
      have hsession' := h.session ▸ hsession
      rw [Option.isSome_eq_false_iff, Option.isNone_iff_eq_none] at hsession hsession'
      simp only [Session.replaySession, hsession, hsession']

/-! ### Outcome events as certificates -/

def isOutcome (event : SessionEventRow) : Bool := event.kind == .internal .outcome

/-- The payload of an outcome event holds the count and digest of a replay. -/
def RecordsReplay (event : SessionEventRow) (replay : Except PyExc ReplaySnapshot) : Prop :=
  ∃ (status : Status) (summary : PyStr) (snapshot : ReplaySnapshot), replay = .ok snapshot ∧
    event.payload = some (.obj (outcomePayload status summary snapshot))

structure OutcomeCertified (ext : Externals) (sid : String) (db : Db) : Prop where
  certified : Certified orderOf (readEvidence ext sid) isOutcome RecordsReplay (db.eventsOf sid)
  session : ∀ e, latestOutcome db sid = some e → (db.session? sid).isSome = true

theorem Grown.outcomeCertified {ext : Externals} {db db' : Db} {sid : String}
    {later : List SessionEventRow} (h : Grown db db' sid later)
    (hplain : ∀ e ∈ later, isOutcome e = false) (hdb : OutcomeCertified ext sid db) :
    OutcomeCertified ext sid db' where
  certified := by
    rw [h.events]
    refine hdb.certified.append hplain ?_
    intro x hx y hy
    have := eventOrder_lt_nextOrder hx
    have := h.order y hy
    change (x.eventOrder : Int) < y.eventOrder
    omega
  session := by
    intro e he
    rw [← h.session]
    change latest isOutcome (db'.eventsOf sid) = some e at he
    rw [h.events, latest_append_of_none hplain] at he
    exact hdb.session e he

theorem outcomeCertified_createOutcomeCard {ext : Externals} {db : Db} {sid : String}
    (sid' : String) (summary : PyStr) (now : Instant) (hdb : OutcomeCertified ext sid db) :
    OutcomeCertified ext sid (createOutcomeCard ext db sid' summary now).1 := by
  rcases createOutcomeCard_cases ext db sid' summary now with
    ⟨hsame, -⟩ | ⟨status, replay, -, hreplay, ha, -⟩
  · rw [hsame]
    exact hdb
  · have hgrown := Appended.grown ha sid
    by_cases hsid : sid' = sid
    · subst hsid
      have hsome : (db.session? sid').isSome = true := by
        unfold replaySession at hreplay
        split at hreplay
        · cases hreplay
        · simp [*]
      rw [replaySession_none hsome] at hreplay
      have hevents := hgrown.events
      rw [if_pos (show (outcomeEvent sid' status summary replay now).sessionId = sid' from rfl)]
        at hevents
      constructor
      · rw [hevents]
        refine certified_concat rfl ⟨status, summary, replay, hreplay, rfl⟩ ?_
        intro x hx
        exact Int.ofNat_lt.mpr (eventOrder_lt_nextOrder hx)
      · intro e he
        rw [← hgrown.session]
        exact hsome
    · have hplain : (outcomeEvent sid' status summary replay now).sessionId ≠ sid := hsid
      rw [if_neg hplain] at hgrown
      exact hgrown.outcomeCertified (by simp) hdb

theorem readOutcomeCard_outcomePayload {ext : Externals} {sid : String} {event : SessionEventRow}
    {status : Status} {summary : PyStr} {replay : ReplaySnapshot} {card : OutcomeCard}
    (hpayload : event.payload = some (.obj (outcomePayload status summary replay)))
    (hcard : readOutcomeCard ext sid event = .ok card) :
    card.eventOrder = event.eventOrder ∧ card.evidenceEventCount = replay.eventCount ∧
      card.replayDigest = replay.digest := by
  have hstatus : textField (outcomePayload status summary replay) "status" = some status.value :=
    rfl
  have hcount : Fields.get? (outcomePayload status summary replay) "evidence_event_count" =
      some (.int replay.eventCount) := rfl
  have hdigest : textField (outcomePayload status summary replay) "replay_digest" =
      some replay.digest := rfl
  unfold readOutcomeCard at hcard
  rw [hpayload] at hcard
  simp only [storedPayload, hstatus, hcount, hdigest, Option.bind_some, laxInt] at hcard
  cases hsummary : textField (outcomePayload status summary replay) "summary" with
  | none =>
      rw [hsummary] at hcard
      cases hcard
  | some text =>
      rw [hsummary] at hcard
      cases hcard
      exact ⟨rfl, rfl, rfl⟩

theorem OutcomeCertified.replay {ext : Externals} {db : Db} {sid : String} {card : OutcomeCard}
    (h : OutcomeCertified ext sid db) (hcard : getOutcomeCard ext db sid = .ok (some card)) :
    card.eventOrder < nextOrder db sid ∧
    ∃ snapshot, replaySession ext db sid (some ((card.eventOrder : Int) - 1)) = .ok snapshot ∧
      snapshot.digest = card.replayDigest ∧ snapshot.eventCount = card.evidenceEventCount := by
  obtain ⟨event, hlatest, hread⟩ := getOutcomeCard_eq_some.mp hcard
  obtain ⟨status, summary, snapshot, hsnapshot, hpayload⟩ := h.certified event hlatest
  obtain ⟨horder, hcount, hdigest⟩ := readOutcomeCard_outcomePayload hpayload hread
  refine ⟨?_, snapshot.boundedBy ((card.eventOrder : Int) - 1), ?_, hdigest.symm, hcount.symm⟩
  · rw [horder]
    exact eventOrder_lt_nextOrder (mem_of_latest hlatest)
  · rw [replaySession_some _ (h.session event hlatest), horder]
    change Except.map _ (readEvidence ext sid (through orderOf (orderOf event - 1) _)) = _
    rw [hsnapshot]
    rfl

/-- A created card is the one that is read afterwards. -/
theorem getOutcomeCard_createOutcomeCard {ext : Externals} {db : Db} {sid : String}
    {summary : PyStr} {now : Instant} {card : OutcomeCard}
    (h : (createOutcomeCard ext db sid summary now).2 = .ok card) :
    getOutcomeCard ext (createOutcomeCard ext db sid summary now).1 sid = .ok (some card) := by
  rcases createOutcomeCard_cases ext db sid summary now with
    ⟨hdb, hread⟩ | ⟨status, replay, -, -, ha, hread⟩
  · rw [hdb]
    exact hread card h
  · have hevents := (Appended.grown ha sid).events
    rw [if_pos (show (outcomeEvent sid status summary replay now).sessionId = sid from rfl)]
      at hevents
    refine getOutcomeCard_eq_some.mpr ⟨_, ?_, hread ▸ h⟩
    change latest isOutcome _ = _
    rw [hevents]
    exact latest_concat_of_pos rfl

/-! ### Runs -/

/-- What reaches the log of a session: appended events, created cards, and the status
updates that make the session terminal in between. -/
inductive HistoryStep
  | append (ev : NewEvent)
  | createOutcome (sessionId : String) (summary : PyStr) (now : Instant)
  | updateStatus (sessionId : String) (status : Status) (now : Instant)

def historyStep (ext : Externals) (db : Db) : HistoryStep → Db
  | .append ev => appendEvent ext db ev
  | .createOutcome sessionId summary now => (createOutcomeCard ext db sessionId summary now).1
  | .updateStatus sessionId status now => db.updateSession sessionId (setStatus status now)

def NoOutcome (sid : String) (ev : NewEvent) : Prop :=
  ev.sessionId = sid → ev.kind ≠ .internal .outcome

/-- Outcome events of the session come from `create_outcome_card` only. -/
def CardsCreated (sid : String) : HistoryStep → Prop
  | .append ev => NoOutcome sid ev
  | _ => True

theorem outcomeCertified_start {ext : Externals} {db : Db} {sid : String}
    (h : ∀ e ∈ db.eventsOf sid, e.kind ≠ .internal .outcome) : OutcomeCertified ext sid db := by
  have hnone : latest isOutcome (db.eventsOf sid) = none := by
    rw [latest_eq_none]
    intro e he
    simp [isOutcome, h e he]
  refine ⟨certified_of_none hnone, ?_⟩
  intro e he
  cases hnone.symm.trans he

theorem isOutcome_eq_false {sid : String} {ev : NewEvent} {e : SessionEventRow}
    (h : NoOutcome sid ev) (hsid : ev.sessionId = sid) (hkind : e.kind = ev.kind) :
    isOutcome e = false := by
  simp [isOutcome, hkind, h hsid]

theorem outcomeCertified_historyStep {ext : Externals} {sid : String} (db : Db)
    (step : HistoryStep) (h : OutcomeCertified ext sid db) (hstep : CardsCreated sid step) :
    OutcomeCertified ext sid (historyStep ext db step) := by
  cases step with
  | append ev =>
      obtain ⟨later, hgrown, hkinds⟩ := grown_appendEvent ext db ev sid
      refine hgrown.outcomeCertified ?_ h
      intro e he
      obtain ⟨hsid, hkind⟩ := hkinds e he
      exact isOutcome_eq_false hstep hsid hkind
  | createOutcome sid' summary now => exact outcomeCertified_createOutcomeCard sid' summary now h
  | updateStatus sid' status now =>
      refine ⟨h.certified, ?_⟩
      intro e he
      simp only [historyStep]
      rw [isSome_session?_updateSession (setStatus_sessionId status now)]
      exact h.session e he

theorem Grown.getOutcomeCard {ext : Externals} {db db' : Db} {sid : String}
    {later : List SessionEventRow} (h : Grown db db' sid later)
    (hplain : ∀ e ∈ later, isOutcome e = false) :
    getOutcomeCard ext db' sid = getOutcomeCard ext db sid := by
  have hlatest : latestOutcome db' sid = latestOutcome db sid := by
    change latest isOutcome (db'.eventsOf sid) = latest isOutcome (db.eventsOf sid)
    rw [h.events, latest_append_of_none hplain]
  rw [Session.getOutcomeCard, hlatest, Session.getOutcomeCard]

/-- Replaying through an order that is taken gives the same after any appends. A created
card is the one that is read. A card that a run has created keeps the digest and the
count of the replay before it, and as long as no other outcome event is appended to the
session, creating the card again returns it and leaves the database as it is. -/
theorem outcome_evidence_stable (ext : Externals) (sid : String) :
    (∀ (db : Db) (later : List NewEvent) (k : Int), k < nextOrder db sid →
      replaySession ext (run (appendEvent ext) db later) sid (some k) =
        replaySession ext db sid (some k)) ∧
    (∀ (db : Db) (summary : PyStr) (now : Instant) (card : OutcomeCard),
      (createOutcomeCard ext db sid summary now).2 = .ok card →
      getOutcomeCard ext (createOutcomeCard ext db sid summary now).1 sid = .ok (some card)) ∧
    ∀ (start : Db) (steps : List HistoryStep),
      (∀ e ∈ start.eventsOf sid, e.kind ≠ .internal .outcome) →
      (∀ step ∈ steps, CardsCreated sid step) →
      ∀ card, getOutcomeCard ext (run (historyStep ext) start steps) sid = .ok (some card) →
      ∀ later : List NewEvent,
        (∃ snapshot,
          replaySession ext (run (appendEvent ext) (run (historyStep ext) start steps) later) sid
            (some ((card.eventOrder : Int) - 1)) = .ok snapshot ∧
          snapshot.digest = card.replayDigest ∧
          snapshot.eventCount = card.evidenceEventCount) ∧
        ((∀ ev ∈ later, NoOutcome sid ev) → ∀ (summary : PyStr) (now : Instant),
          createOutcomeCard ext (run (appendEvent ext) (run (historyStep ext) start steps) later)
              sid summary now =
            (run (appendEvent ext) (run (historyStep ext) start steps) later, .ok card)) := by
  have hstable : ∀ (db : Db) (later : List NewEvent) (k : Int), k < nextOrder db sid →
      replaySession ext (run (appendEvent ext) db later) sid (some k) =
        replaySession ext db sid (some k) := by
    intro db later k hk
    obtain ⟨rows, hgrown, -⟩ := grown_run_appendEvent ext db later sid
    exact hgrown.replaySession hk
  refine ⟨hstable, fun db summary now card => getOutcomeCard_createOutcomeCard, ?_⟩
  intro start steps hstart hsteps card hcard later
  have hstarted : OutcomeCertified ext sid start := outcomeCertified_start hstart
  have hcertified := run_of_along outcomeCertified_historyStep hstarted
    (along_of_mem start hsteps)
  generalize run (historyStep ext) start steps = db at hcard hcertified ⊢
  obtain ⟨horder, snapshot, hsnapshot, hdigest, hcount⟩ := hcertified.replay hcard
  constructor
  · refine ⟨snapshot, ?_, hdigest, hcount⟩
    rw [hstable db later _ (by omega)]
    exact hsnapshot
  · intro hlater summary now
    obtain ⟨rows, hgrown, hkinds⟩ := grown_run_appendEvent ext db later sid
    apply createOutcomeCard_of_card
    rw [hgrown.getOutcomeCard, hcard]
    intro e he
    obtain ⟨ev, hev, hsid, hkind⟩ := hkinds e he
    exact isOutcome_eq_false (hlater ev hev) hsid hkind

namespace Sample

def digesting : Externals :=
  { Transport.Sample.externals with
    replayHash := fun v =>
      match v with
      | .arr events => toString events.length ++ " events"
      | _ => "" }

/-- `alice`'s node with a session under way. -/
def startDb : Db :=
  { Db.fresh (some "alice") [] [] with
    sessions :=
      [{ sessionId := "s1", sessionType := .ask, initiatorUsername := "alice"
         receiverUsername := "bob", status := .active, objective := none
         senderAgentId := none, receiverAgentId := none, turnLimit := 12
         runtimeBudgetSeconds := .null, artifactBytesBudget := .null, cumulativeArtifactBytes := 0
         costBudgetEstimate := .null, cumulativeCostEstimate := 0, createdAt := 0, updatedAt := 0
         expiresAt := none }] }

def note (kind : EventKind) (fields : Fields) : NewEvent where
  sessionId := "s1"
  actorUsername := "alice"
  actorAgentId := none
  kind := kind
  payload := some (.obj fields)
  createdAt := 0

/-- A finding, a private note, the end of the session and its outcome card. -/
def finishing : List HistoryStep :=
  [.append (note (.message .finding) [(.text "content", .text "done")]),
   .append (note (.internal .privateNote) [(.text "content", .text "mine")]),
   .updateStatus "s1" .completed 1, .createOutcome "s1" (.text "All done.") 2]

def finishedDb : Db := run (historyStep digesting) startDb finishing

def card : OutcomeCard where
  outcomeId := 2
  sessionId := "s1"
  eventOrder := 2
  status := "completed"
  summary := "All done."
  evidenceEventCount := 1
  replayDigest := "1 events"
  createdAt := "1970-01-01T00:00:00.000002+00:00"

def repliedDb : Db := run (appendEvent digesting) finishedDb [note (.message .finding) []]

def forgedOutcome : NewEvent :=
  note (.internal .outcome)
    [(.text "status", .text "failed"), (.text "summary", .text "Not done."),
     (.text "evidence_event_count", .int 7), (.text "replay_digest", .text "7 events")]

def forgedDb : Db := run (appendEvent digesting) finishedDb [forgedOutcome]

def forgedCard : OutcomeCard where
  outcomeId := 3
  sessionId := "s1"
  eventOrder := 3
  status := "failed"
  summary := "Not done."
  evidenceEventCount := 7
  replayDigest := "7 events"
  createdAt := "1970-01-01T00:00:00+00:00"

theorem getOutcomeCard_finishedDb :
    getOutcomeCard digesting finishedDb "s1" = .ok (some card) ∧
      getOutcomeCard digesting forgedDb "s1" = .ok (some forgedCard) := by
  decide +kernel

end Sample

/-- The card of the finished session stands after a message that follows it. -/
theorem outcome_evidence_stable_finished :
    (∃ snapshot, replaySession Sample.digesting Sample.repliedDb "s1" (some 1) = .ok snapshot ∧
      snapshot.digest = "1 events" ∧ snapshot.eventCount = 1) ∧
    createOutcomeCard Sample.digesting Sample.repliedDb "s1" (.text "Again.") 9 =
      (Sample.repliedDb, .ok Sample.card) := by
  have hsteps : ∀ step ∈ Sample.finishing, CardsCreated "s1" step := by
    simp [Sample.finishing, CardsCreated, NoOutcome, Sample.note]
  have hstands := (outcome_evidence_stable Sample.digesting "s1").2.2 Sample.startDb
    Sample.finishing (by simp [Sample.startDb, Db.eventsOf, Db.fresh]) hsteps Sample.card
    Sample.getOutcomeCard_finishedDb.1 [Sample.note (.message .finding) []]
  refine ⟨hstands.1, hstands.2 ?_ (.text "Again.") 9⟩
  simp [NoOutcome, Sample.note]

/-- An event of kind `outcome` appended after the card replaces it by a card whose digest
and count are not those of the replay before it. -/
theorem forged_outcome_replaces_card :
    getOutcomeCard Sample.digesting Sample.finishedDb "s1" = .ok (some Sample.card) ∧
    (createOutcomeCard Sample.digesting Sample.forgedDb "s1" (.text "All done.") 3).2 =
      .ok Sample.forgedCard ∧
    Sample.forgedCard ≠ Sample.card ∧
    (replaySession Sample.digesting Sample.forgedDb "s1"
        (some ((Sample.forgedCard.eventOrder : Int) - 1))).toOption.map
      (fun snapshot => (snapshot.digest, snapshot.eventCount)) ≠
    some (Sample.forgedCard.replayDigest, Sample.forgedCard.evidenceEventCount) := by
  obtain ⟨hcard, hforged⟩ := Sample.getOutcomeCard_finishedDb
  refine ⟨hcard, ?_, by decide, by decide +kernel⟩
  rw [createOutcomeCard_of_card hforged]

end Kin.Session
