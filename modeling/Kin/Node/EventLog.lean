import Kin.Lib.SequencedLog
import Kin.Node.Run

/-!
The event log of a node over whole runs: the order column counts the events of
a session, and the sequences of every actor count from one. The table has no
constraint that says so; it follows from the maximum that reconstruction reads,
the reducer's expected-next check and the duplicate check before it.
-/

namespace Kin.Node

open Kin.Py Kin.Lib Kin.Schemas Kin.Session Kin.Storage Kin.Audit Kin.Policy Kin.Transport

def sequencesOf (db : Db) (sessionId actorUsername : String) : List Nat :=
  ((db.eventsOf sessionId).filter fun e => decide (e.actorUsername = actorUsername)).filterMap
    (·.sequence)

abbrev LogSequenced (events : List SessionEventRow) : Prop :=
  Sequenced SessionEventRow.eventOrder SessionEventRow.actorUsername SessionEventRow.sequence events

structure LogInvariant (db : Db) : Prop where
  sequenced : ∀ sid, LogSequenced (db.eventsOf sid)
  stored : ∀ sid, db.session? sid = none → db.eventsOf sid = []

/-! ### Reading the log back -/

theorem nextOrder_of_sequenced {db : Db} {sid : String} (h : LogSequenced (db.eventsOf sid)) :
    nextOrder db sid = (db.eventsOf sid).length := by
  rw [nextOrder, h.positions]
  cases (db.eventsOf sid).length with
  | zero => rfl
  | succ n => rw [max?_range_succ]

/-- `MAX(sequence) ... GROUP BY actor_username`, for a non-empty actor. -/
theorem get?_eventSequences (events : List SessionEventRow) {actor : String} (hne : actor ≠ "") :
    (eventSequences events).get? actor =
      (numbersOf SessionEventRow.actorUsername SessionEventRow.sequence events actor).max?.map
        Int.ofNat := by
  induction events using List.reverseRecOn with
  | nil => rfl
  | append_singleton events e ih =>
      rw [eventSequences_concat, numbersOf_append, numbersOf_singleton]
      unfold recordSequence
      cases hseq : e.sequence with
      | none => simp [ih]
      | some n =>
          by_cases hactor : e.actorUsername = actor
          · subst hactor
            simp only [if_neg hne, Dict.get?_set_self, if_true, Option.toList_some, max?_concat, ih]
            cases (numbersOf SessionEventRow.actorUsername SessionEventRow.sequence events
              e.actorUsername).max? with
            | none => simp
            | some m =>
                simp only [Option.map_some, Option.getD_some, Int.ofNat_eq_natCast]
                exact congrArg some (by omega)
          · by_cases hempty : e.actorUsername = ""
            · simp [hempty, Ne.symm hne, ih]
            · simp [hempty, hactor, Dict.get?_set_of_ne _ _ (Ne.symm hactor), ih]

/-- On a sequenced log the actor's next number is the reducer's expected one. -/
theorem lastSequence_stateOf {ext : Externals} {row : SessionRow} {events : List SessionEventRow}
    (h : LogSequenced events) {actor : String} (hne : actor ≠ "") :
    (stateOf ext row events).lastSequence actor =
      (numbersOf SessionEventRow.actorUsername SessionEventRow.sequence events actor).length := by
  rw [SessionState.lastSequence]
  change ((eventSequences events).get? actor).getD 0 = _
  rw [get?_eventSequences events hne, h.numbered actor, List.length_range',
    show (0 : Int) = Int.ofNat 0 from rfl, Option.getD_map, max?_range']
  rfl

/-! ### One move -/

/-- What a move does to the logs: one session grows by new events, the others
stay, and no event changes. -/
theorem logSequenced_eventRow {db : Db} {ev : NewEvent}
    (h : LogSequenced (db.eventsOf ev.sessionId))
    (hnumber : ∀ n, ev.sequence = some n →
      n = (sequencesOf db ev.sessionId ev.actorUsername).length + 1) :
    LogSequenced (db.eventsOf ev.sessionId ++ [eventRow db ev]) :=
  h.append (nextOrder_of_sequenced h) hnumber

/-- A sequence that is stored is found. -/
theorem storedEvent?_of_mem {db : Db} {sid actor : String} {n : Nat}
    (h : n ∈ sequencesOf db sid actor) : storedEvent? db sid actor n ≠ none := by
  simp only [sequencesOf, Db.eventsOf, List.mem_filterMap, List.mem_filter, beq_iff_eq,
    decide_eq_true_eq] at h
  obtain ⟨e, ⟨⟨hmem, hsid⟩, hactor⟩, hseq⟩ := h
  intro hnone
  have := List.find?_eq_none.mp hnone e hmem
  simp [hsid, hactor, hseq] at this

theorem mem_of_storedEvent? {db : Db} {sid actor : String} {n : Nat} {event : SessionEventRow}
    (h : storedEvent? db sid actor n = some event) :
    event ∈ db.sessionEvents ∧ event.sessionId = sid ∧ event.actorUsername = actor ∧
      event.sequence = some n := by
  have hfound := List.find?_some h
  simp only [Bool.and_eq_true, beq_iff_eq] at hfound
  exact ⟨List.mem_of_find?_eq_some h, hfound.1.1, hfound.1.2, hfound.2⟩

theorem isSome_storedEvent?_iff {db : Db} (hlog : LogInvariant db) {sid actor : String} {n : Nat} :
    (storedEvent? db sid actor n).isSome = true ↔
      1 ≤ n ∧ n ≤ (sequencesOf db sid actor).length := by
  have hnumbers : sequencesOf db sid actor = List.range' 1 (sequencesOf db sid actor).length :=
    (hlog.sequenced sid).numbered actor
  have hmem : (storedEvent? db sid actor n).isSome = true ↔ n ∈ sequencesOf db sid actor := by
    constructor
    · intro hsome
      obtain ⟨event, hevent⟩ := Option.isSome_iff_exists.mp hsome
      obtain ⟨hmem, hsid, hactor, hseq⟩ := mem_of_storedEvent? hevent
      simp only [sequencesOf, Db.eventsOf, List.mem_filterMap, List.mem_filter, beq_iff_eq,
        decide_eq_true_eq]
      exact ⟨event, ⟨⟨hmem, hsid⟩, hactor⟩, hseq⟩
    · exact fun hmem => Option.isSome_iff_ne_none.mpr (storedEvent?_of_mem hmem)
  rw [hmem, hnumbers, List.mem_range'_1, ← hnumbers]
  omega

theorem storedEvent?_next {db : Db} (hlog : LogInvariant db)
    {sid actor : String} {n : Nat}
    (hn : n = (sequencesOf db sid actor).length + 1) : storedEvent? db sid actor n = none := by
  by_contra hsome
  have hstored := (isSome_storedEvent?_iff hlog).mp (Option.isSome_iff_ne_none.mpr hsome)
  omega

/-- `COALESCE(MAX(sequence), 0) + 1` counts the actor's numbers. -/
theorem nextSequence_eq {db : Db} (hlog : LogInvariant db) (sid actor : String) :
    nextSequence db sid actor = (sequencesOf db sid actor).length + 1 := by
  have hnumbers : sequencesOf db sid actor = List.range' 1 (sequencesOf db sid actor).length :=
    (hlog.sequenced sid).numbered actor
  have hnext : nextSequence db sid actor = ((sequencesOf db sid actor).max?).getD 0 + 1 := by
    simp [nextSequence, sequencesOf, beq_eq_decide]
  rw [hnext, hnumbers, max?_range', List.length_range']

theorem lastSequence_advanceToReview (state : SessionState) (kind : MessageKind) (actor : String) :
    (advanceToReview state kind).lastSequence actor = state.lastSequence actor := by
  rw [advanceToReview_eq]
  rfl

/-- An accepted envelope carries its actor's next number. -/
theorem sequence_of_accepts {ctx : IngestContext} {db base : Db} {raw : Fields}
    {envelope : SessionEnvelope} {stored : SessionRow} {state : SessionState}
    {participants : Dict String ParticipantInfo} (hinv : LogInvariant db)
    (h : Accepts ctx db raw envelope base stored state participants) :
    envelope.sequence =
      (sequencesOf db envelope.sessionId envelope.actorUsername).length + 1 := by
  have hseq := checkSequence_eq_none.mp h.admitted.sequence
  rw [lastSequence_advanceToReview] at hseq
  cases h.loaded with
  | created hnone hkind hcreates hreceiver =>
      rw [sequencesOf, hinv.stored _ hnone]
      exact Int.ofNat.inj hseq
  | stored hrow =>
      by_cases hne : envelope.actorUsername = ""
      · -- reconstruction drops the empty username, and the duplicate check stands in
        have hlast : (stateOf ctx.ext stored (db.eventsOf envelope.sessionId)).lastSequence
            envelope.actorUsername = 0 := by
          rw [SessionState.lastSequence, hne]
          change ((eventSequences _).get? "").getD 0 = 0
          rw [get?_eventSequences_empty]
          rfl
        rw [hlast] at hseq
        replace hseq : envelope.sequence = 0 + 1 := Int.ofNat.inj hseq
        have hnot : (1 : Nat) ∉ sequencesOf db envelope.sessionId envelope.actorUsername := by
          intro hmem
          refine storedEvent?_of_mem hmem ?_
          rw [← h.fresh, hseq]
        have hnumbers := (hinv.sequenced envelope.sessionId).numbered envelope.actorUsername
        cases hlen : (sequencesOf db envelope.sessionId envelope.actorUsername).length with
        | zero => exact hseq
        | succ n =>
            refine absurd ?_ hnot
            change sequencesOf db envelope.sessionId envelope.actorUsername = List.range' 1
              (sequencesOf db envelope.sessionId envelope.actorUsername).length at hnumbers
            rw [hnumbers, hlen]
            simp [List.mem_range'_1]
      · rw [lastSequence_stateOf (hinv.sequenced _) hne] at hseq
        exact Int.ofNat.inj hseq

theorem LogInvariant.of_same {db db' : Db} (h : LogInvariant db)
    (hevents : ∀ sid, db'.eventsOf sid = db.eventsOf sid)
    (hsessions : ∀ sid, (db.session? sid).isSome = true → (db'.session? sid).isSome = true) :
    LogInvariant db' where
  sequenced sid := by
    rw [hevents]
    exact h.sequenced sid
  stored sid hnone := by
    rw [hevents]
    refine h.stored sid ?_
    by_contra hsome
    have hsome' := hsessions sid (Option.isSome_iff_ne_none.mpr hsome)
    rw [hnone] at hsome'
    cases hsome'

theorem LogInvariant.of_statusWritten {db db' : Db} (h : LogInvariant db) {sid : String}
    {status : Status} {now : Instant} (hw : StatusWritten db sid status now db') :
    LogInvariant db' := by
  refine h.of_same (fun s => hw.eventsOf s) fun s hs => ?_
  rw [hw.session?, isSome_session?_updateSession (fun _ => setStatus_sessionId _ _ _)]
  exact hs

/-- An appended event that takes its actor's next number, or none, keeps the log. -/
theorem LogInvariant.of_appended {db db' : Db} (h : LogInvariant db) {ev : NewEvent}
    (hrow : (db.session? ev.sessionId).isSome = true)
    (hnumber : ∀ n, ev.sequence = some n →
      n = (sequencesOf db ev.sessionId ev.actorUsername).length + 1)
    (happ : Appended db ev db') : LogInvariant db' where
  sequenced sid := by
    rw [SameTables.eventsOf happ]
    by_cases hsid : sid = ev.sessionId
    · rw [hsid, eventsOf_addEvent_self]
      exact logSequenced_eventRow (h.sequenced _) hnumber
    · rw [eventsOf_addEvent_of_ne db ev hsid]
      exact h.sequenced sid
  stored sid hnone := by
    rw [SameTables.session? happ] at hnone
    have hsid : sid ≠ ev.sessionId := by
      rintro rfl
      change db.session? ev.sessionId = none at hnone
      rw [hnone] at hrow
      cases hrow
    rw [SameTables.eventsOf happ, eventsOf_addEvent_of_ne db ev hsid]
    exact h.stored sid hnone

theorem LogInvariant.of_commits {ctx : IngestContext} {db base db' : Db} {raw : Fields}
    {envelope : SessionEnvelope} {stored : SessionRow} {state : SessionState}
    {participants : Dict String ParticipantInfo} {status : Status} {now : Instant}
    (h : LogInvariant db) (haccepts : Accepts ctx db raw envelope base stored state participants)
    (hcommits : Commits base envelope status now db') : LogInvariant db' := by
  have hbase : LogInvariant base := by
    refine h.of_same haccepts.loaded.base_eventsOf fun sid hsome => ?_
    by_cases hsid : sid = envelope.sessionId
    · rw [hsid, haccepts.loaded.base_session?]
      rfl
    · rw [haccepts.loaded.base_session?_of_ne hsid]
      exact hsome
  -- acceptance and status are updates of the row, between them the event is added
  have haccepted : LogInvariant (base.updateSession envelope.sessionId (acceptedRow envelope)) :=
    hbase.of_same (fun _ => rfl) fun sid hsome => by
      rw [isSome_session?_updateSession fun _ => acceptedRow_sessionId _]
      exact hsome
  have hadded : LogInvariant (addEvent (base.updateSession envelope.sessionId
      (acceptedRow envelope)) (envelopeEvent envelope now)) := by
    refine haccepted.of_appended ?_ ?_ (.refl _)
    · rw [isSome_session?_updateSession fun _ => acceptedRow_sessionId _]
      change (base.session? envelope.sessionId).isSome = true
      rw [haccepts.loaded.base_session?]
      rfl
    · intro n hn
      cases hn
      rw [sequence_of_accepts h haccepts, sequencesOf, sequencesOf, eventsOf_updateSession,
        haccepts.loaded.base_eventsOf]
      rfl
  have hcommitted : LogInvariant (committed base envelope status now) :=
    hadded.of_statusWritten (.refl _)
  rcases hcommits with hsame | ⟨-, ev, hsid, hseq, -, happ⟩
  · exact hcommitted.of_same hsame.eventsOf fun sid hsome => by rw [hsame.session?]; exact hsome
  · refine hcommitted.of_appended ?_ (by simp [hseq]) happ
    rw [hsid, session?_committed_self haccepts.loaded.base_session?]
    rfl

theorem LogInvariant.of_move {envelopes : IngestContext → Db → SessionEnvelope → Prop} {db db' : Db}
    (h : LogInvariant db) (hmove : Move envelopes db db') : LogInvariant db' := by
  cases hmove with
  | ingest hmove =>
      cases hmove with
      | expire hexp =>
          rcases hexp with hsame | ⟨sid, row, -, -, hw⟩
          · exact h.of_same hsame.eventsOf fun s hs => by rw [hsame.session?]; exact hs
          · exact h.of_statusWritten hw
      | @create _ _ _ envelope row _ _ _ hnone hcreates =>
          refine h.of_same (fun _ => rfl) fun s hs => ?_
          have hid := (newRow_of_creates hcreates).sessionId
          by_cases hsid : s = row.sessionId
          · rw [hsid, hid, hnone] at hs
            cases hs
          · rw [session?_addSession_of_ne hsid]
            exact hs
      | commit hext hnow henv haccepts hcommits => exact h.of_commits haccepts hcommits
      | store hstores =>
          refine h.of_same (fun s => ?_) fun s hs => ?_
          · rw [Db.eventsOf, hstores.sessionEvents, Db.eventsOf]
          · obtain ⟨n, hn⟩ := hstores.session? s
            rw [hn, Option.isSome_map]
            exact hs
  | status hrow hlive hedge hne hw => exact h.of_statusWritten hw
  | append hseq hrow happ => exact h.of_appended hrow (by simp [hseq]) happ
  | quiet hsame =>
      obtain ⟨approvals, hsame⟩ := hsame
      exact h.of_same hsame.eventsOf fun s hs => by rw [hsame.session?]; exact hs

/-- No move changes or removes an event. -/
theorem sessionEvents_prefix_of_move {envelopes : IngestContext → Db → SessionEnvelope → Prop} {db db' : Db}
    (hmove : Move envelopes db db') : db.sessionEvents <+: db'.sessionEvents := by
  cases hmove with
  | ingest hmove =>
      cases hmove with
      | expire hexp =>
          rcases hexp with hsame | ⟨sid, row, -, -, hw⟩
          · exact hsame.sessionEvents ▸ List.prefix_rfl
          · exact SameTables.sessionEvents hw ▸ List.prefix_rfl
      | create => exact List.prefix_rfl
      | commit hext hnow henv haccepts hcommits =>
          rw [← haccepts.loaded.base_sessionEvents]
          exact hcommits.sessionEvents_prefix
      | store hstores => exact hstores.sessionEvents ▸ List.prefix_rfl
  | status hrow hlive hedge hne hw => exact SameTables.sessionEvents hw ▸ List.prefix_rfl
  | append hseq hrow happ =>
      rw [SameTables.sessionEvents happ]
      exact List.prefix_append ..
  | quiet hsame =>
      obtain ⟨approvals, hsame⟩ := hsame
      exact hsame.sessionEvents ▸ List.prefix_rfl

/-! ### Whole runs -/

theorem logInvariant_fresh (identity : Option String) (contacts : List ContactRow)
    (agents : List AgentRow) : LogInvariant (Db.fresh identity contacts agents) where
  sequenced _ := sequenced_nil
  stored _ _ := rfl

theorem logInvariant_step (db : Db) (op : Operation) (h : LogInvariant db) :
    LogInvariant (step db op) :=
  step_keeps (fun _ _ ha hmove => ha.of_move hmove) h

theorem sessionEvents_prefix_step (db : Db) (op : Operation) :
    db.sessionEvents <+: (step db op).sessionEvents :=
  step_keeps (P := fun db' => db.sessionEvents <+: db'.sessionEvents)
    (fun _ _ ha hmove => ha.trans (sessionEvents_prefix_of_move hmove)) List.prefix_rfl

theorem sessionEvents_prefix_run (db : Db) (ops : List Operation) :
    db.sessionEvents <+: (run step db ops).sessionEvents :=
  run_invariant (I := fun db' => db.sessionEvents <+: db'.sessionEvents)
    (fun db' op h => h.trans (sessionEvents_prefix_step db' op)) List.prefix_rfl ops

/-- In every run from an empty sessions table, each session's event orders are
`0, …, m - 1`, each actor's sequences by event order are `1, …, n`, and the log
so far is a beginning of every later log. -/
theorem run_log_sequenced (identity : Option String) (contacts : List ContactRow)
    (agents : List AgentRow) (ops later : List Operation) :
    let db := run step (Db.fresh identity contacts agents) ops
    (∀ sid, (db.eventsOf sid).map (·.eventOrder) = List.range (db.eventsOf sid).length) ∧
    (∀ sid actor, sequencesOf db sid actor = List.range' 1 (sequencesOf db sid actor).length) ∧
    db.sessionEvents <+: (run step db later).sessionEvents := by
  intro db
  have hinv : LogInvariant db :=
    run_invariant logInvariant_step (logInvariant_fresh identity contacts agents) ops
  exact ⟨fun sid => (hinv.sequenced sid).positions, fun sid => (hinv.sequenced sid).numbered,
    sessionEvents_prefix_run db later⟩

end Kin.Node
