import Kin.Tui.TimelineRuns

/-!
What polling brings. A poll reads the events after its cursor, and then the checkpoints,
decisions and outcomes; the cursor moves past all of them. An event that is stored between the
two reads is passed over when a record follows it there, and only then.
-/

namespace Kin.Tui

open Kin.Py Kin.Lib Kin.Audit

variable {screen : Screen} {sid : String} {n : Nat} {db db' : TimelineDb} {row : EventColumns}
  {history : List UiEvent} {t₀ t : Timeline}

/-- The node stores a checkpoint, a decision or an outcome of the session. -/
def TimelineAction.isRecord (sid : String) : TimelineAction → Bool
  | .appendEvent row => decide (row.sessionId = sid) && isHistory row
  | _ => false

/-- No record is stored between the two reads of a poll; `polling` is whether a poll is on its
way. -/
def Quiet (sid : String) : Bool → List TimelineAction → Prop
  | _, [] => True
  | _, .fetchEvents :: actions => Quiet sid true actions
  | _, .finishPoll :: actions => Quiet sid false actions
  | polling, action :: actions =>
      (polling = true → action.isRecord sid = false) ∧ Quiet sid polling actions

/-- What the first read of a poll has found in the database as it was then. -/
structure Snapshot (sid : String) (t : Timeline) (read : TimelineDb) (fetched : List UiEvent) :
    Prop where
  grown : Extends sid read t.db
  known : ∀ e ∈ fetched, Known sid read e
  found : ∀ row ∈ visibleRows read sid,
    Noted t.worker.maxOrder row.eventOrder ∨ row.eventId ∈ eventIds fetched
  records : ∀ row ∈ orderedRows t.db sid isHistory, row ∈ read.eventsOf sid

/-- Nothing that came after the opening has been passed over. -/
structure Caught (sid : String) (db : TimelineDb) (t : Timeline) : Prop where
  shown : ∀ row ∈ visibleRows t.db sid, row ∉ db.eventsOf sid →
    Noted t.worker.maxOrder row.eventOrder → row.eventId ∈ eventIds t.arena.events
  seen : ∀ id ∈ t.worker.seenIds, id ∈ eventIds t.arena.events
  reading : ∀ fetched, t.worker.fetched = some fetched → ∃ read, Snapshot sid t read fetched

section

variable {read : TimelineDb} {fetched : List UiEvent}

theorem Snapshot.extends (h : Snapshot sid t read fetched) (hdb : Extends sid t.db db')
    (hrecords : ∀ row ∈ orderedRows db' sid isHistory, row ∈ t.db.eventsOf sid) :
    Snapshot sid { t with db := db' } read fetched where
  grown := h.grown.trans hdb
  known := h.known
  found := h.found
  records row hrow :=
    h.records row (mem_orderedRows.mpr ⟨hrecords row hrow, (mem_orderedRows.mp hrow).2⟩)

/-- The first read of a poll. -/
theorem Sound.snapshot (h : Sound screen sid n db t₀ t) :
    Snapshot sid t t.db (getSessionEvents screen t.db sid t.worker.seenIds t.worker.maxOrder
      t.worker.maxCreated) where
  grown := .refl sid t.db
  known _ he := known_getSessionEvents he
  found row hrow := by
    by_cases hnoted : Noted t.worker.maxOrder row.eventOrder
    · exact .inl hnoted
    · refine .inr (mem_eventIds.mpr ⟨uiEvent screen row, ?_, rfl⟩)
      refine mem_getSessionEvents_of_row hrow ?_ ?_
      · exact fun hseen => hnoted (h.seenNoted row (mem_visibleRows.mp hrow).1 hseen)
      · intro k hk
        by_contra hle
        exact hnoted ⟨k, hk, by omega⟩
  records _ hrow := (mem_orderedRows.mp hrow).1

/-- All that the first read found is shown when the poll is done. -/
theorem Caught.mem_of_found (h : Caught sid db t) (hread : Snapshot sid t read fetched)
    (hrow : row ∈ visibleRows read sid) (hlater : row ∉ db.eventsOf sid) :
    row.eventId ∈ eventIds (t.arena.events ++ newEvents t.worker fetched history) := by
  rw [eventIds_append, List.mem_append]
  obtain ⟨hstored, hvisible⟩ := mem_visibleRows.mp hrow
  rcases hread.found row hrow with hnoted | hfound
  · exact .inl (h.shown row (mem_visibleRows.mpr ⟨hread.grown.kept row hstored, hvisible⟩) hlater
      hnoted)
  · by_cases hseen : row.eventId ∈ t.worker.seenIds
    · exact .inl (h.seen _ hseen)
    · obtain ⟨e, he, hid⟩ := mem_eventIds.mp hfound
      exact .inr (mem_eventIds.mpr ⟨e, mem_newEvents.mpr ⟨.inl he, hid ▸ hseen⟩, hid⟩)

/-- What a poll shows had been stored at its first read. -/
theorem Snapshot.lt_nextOrder (hread : Snapshot sid t read fetched)
    (hhistory : getSessionHistoryEvents screen t.db sid = some history) {order : Int}
    (horder : order ∈ orders (newEvents t.worker fetched history)) :
    order < read.nextOrder sid := by
  obtain ⟨e, he, heorder⟩ := mem_orders.mp horder
  have hknown : Known sid read e := by
    rcases (mem_newEvents.mp he).1 with hfirst | hsecond
    · exact hread.known e hfirst
    · obtain ⟨row, hrecorded⟩ := exists_recorded hhistory hsecond
      exact known_of_showsRow (hread.records row hrecorded.stored) hrecorded.showsRow
  rcases hknown with ⟨row, hrow, hshows⟩ | ⟨audit, -, hshows⟩
  · rw [← Option.some.inj (hshows.2.symm.trans heorder)]
    exact eventOrder_lt_nextOrder hrow
  · rw [hshows.2] at heorder
    cases heorder

end

theorem mem_of_appendEvent (hrecord : TimelineAction.isRecord sid (.appendEvent row) = false) :
    ∀ other ∈ orderedRows (db.appendEvent row) sid isHistory, other ∈ db.eventsOf sid := by
  intro other hother
  obtain ⟨hstored, hhistory⟩ := mem_orderedRows.mp hother
  rcases mem_eventsOf_appendEvent hstored with hold | ⟨rfl, hsid, -⟩
  · exact hold
  · have htrue : TimelineAction.isRecord sid (.appendEvent row) = true :=
      Bool.and_eq_true_iff.mpr ⟨decide_eq_true hsid, hhistory⟩
    rw [hrecord] at htrue
    cases htrue

theorem mem_of_appendAudit {audit : AuditColumns} :
    ∀ other ∈ orderedRows (db.appendAudit audit) sid isHistory, other ∈ db.eventsOf sid := by
  intro other hother
  have hstored := (mem_orderedRows.mp hother).1
  rwa [eventsOf_appendAudit] at hstored

theorem Caught.extends (h : Caught sid db t) (hsound : Sound screen sid n db t₀ t)
    (hdb : Extends sid t.db db')
    (hrecords : t.worker.fetched.isSome = true →
      ∀ row ∈ orderedRows db' sid isHistory, row ∈ t.db.eventsOf sid) :
    Caught sid db { t with db := db' } where
  shown row hrow hlater hnoted := by
    obtain ⟨hstored, hvisible⟩ := mem_visibleRows.mp hrow
    by_cases hold : row ∈ t.db.eventsOf sid
    · exact h.shown row (mem_visibleRows.mpr ⟨hold, hvisible⟩) hlater hnoted
    · obtain ⟨k, hk, hle⟩ := hnoted
      have := hsound.bounded k hk
      have := (hdb.newer row hstored hold).1
      omega
  seen := h.seen
  reading fetched hfetched := by
    obtain ⟨read, hread⟩ := h.reading fetched hfetched
    have hpolling : t.worker.fetched.isSome = true := Option.isSome_iff_exists.mpr ⟨_, hfetched⟩
    exact ⟨read, hread.extends hdb (hrecords hpolling)⟩

theorem Caught.finishPoll (h : Caught sid db t) :
    Caught sid db (Tui.finishPoll screen sid t) := by
  unfold Tui.finishPoll
  cases hfetched : t.worker.fetched with
  | none => exact h
  | some fetched =>
      obtain ⟨read, hread⟩ := h.reading fetched hfetched
      cases hhistory : getSessionHistoryEvents screen t.db sid with
      | none =>
          refine ⟨h.shown, h.seen, ?_⟩
          rintro fetched ⟨⟩
      | some history =>
          refine ⟨?_, ?_, ?_⟩
          · intro row hrow hlater hnoted
            rcases (noted_note _ t.worker _).mp hnoted with hbefore | ⟨order, horder, hle⟩
            · rw [eventIds_append]
              exact List.mem_append_left _ (h.shown row hrow hlater hbefore)
            · obtain ⟨hstored, hvisible⟩ := mem_visibleRows.mp hrow
              refine h.mem_of_found hread (mem_visibleRows.mpr ⟨?_, hvisible⟩) hlater
              by_contra hnew
              have := (hread.grown.newer row hstored hnew).1
              have := hread.lt_nextOrder hhistory horder
              omega
          · intro id hid
            rw [seenIds_note] at hid
            rw [eventIds_append]
            rcases List.mem_append.mp hid with hseen | hnew
            · exact List.mem_append_left _ (h.seen id hseen)
            · exact List.mem_append_right _ hnew
          · rintro fetched ⟨⟩

/-- Loading an older page only adds to what is shown. -/
theorem mem_loadOlderEvents {arena : Arena} {e : UiEvent} (h : e ∈ arena.events) :
    e ∈ (loadOlderEvents screen sid n t.db arena).events := by
  unfold loadOlderEvents
  split
  · split
    · exact h
    · exact List.mem_append_right _ h
  · exact h

theorem Caught.step (h : Caught sid db t) (hsound : Sound screen sid n db t₀ t)
    {action : TimelineAction}
    (hquiet : t.worker.fetched.isSome = true → action.isRecord sid = false) :
    Caught sid db (timelineStep screen sid n t action) := by
  cases action with
  | appendEvent row =>
      exact h.extends hsound (extends_appendEvent sid t.db row)
        fun hpolling => mem_of_appendEvent (hquiet hpolling)
  | appendAudit row =>
      exact h.extends hsound (extends_appendAudit sid t.db row) fun _ => mem_of_appendAudit
  | loadOlder =>
      have hmem : ∀ id ∈ eventIds t.arena.events,
          id ∈ eventIds (loadOlderEvents screen sid n t.db t.arena).events := by
        intro id hid
        obtain ⟨e, he, rfl⟩ := mem_eventIds.mp hid
        exact List.mem_map_of_mem (mem_loadOlderEvents he)
      refine ⟨?_, ?_, ?_⟩
      · exact fun row hrow hlater hnoted => hmem _ (h.shown row hrow hlater hnoted)
      · exact fun id hid => hmem id (h.seen id hid)
      · intro fetched hfetched
        obtain ⟨read, hread⟩ := h.reading fetched hfetched
        exact ⟨read, hread.grown, hread.known, hread.found, hread.records⟩
  | fetchEvents =>
      show Caught sid db { t with worker := fetchEvents screen sid t.db t.worker }
      unfold Tui.fetchEvents
      cases hfetched : t.worker.fetched with
      | some fetched => exact h
      | none =>
          refine ⟨h.shown, h.seen, ?_⟩
          rintro fetched ⟨⟩
          have hread := hsound.snapshot
          exact ⟨t.db, hread.grown, hread.known, hread.found, hread.records⟩
  | finishPoll => exact h.finishPoll

theorem Caught.run (hsize : 1 ≤ n ∧ n ≤ 2000) (h : Caught sid db t)
    (hsound : Sound screen sid n db t₀ t) {actions : List TimelineAction}
    (hquiet : Quiet sid t.worker.fetched.isSome actions) :
    Caught sid db (actions.foldl (timelineStep screen sid n) t) := by
  induction actions generalizing t with
  | nil => exact h
  | cons action actions ih =>
      have hnext := hsound.step hsize action
      cases action with
      | appendEvent row => exact ih (h.step hsound hquiet.1) hnext hquiet.2
      | appendAudit row => exact ih (h.step hsound hquiet.1) hnext hquiet.2
      | loadOlder => exact ih (h.step hsound hquiet.1) hnext hquiet.2
      | fetchEvents =>
          refine ih (h.step hsound fun _ => rfl) hnext ?_
          have hpolling : (fetchEvents screen sid t.db t.worker).fetched.isSome = true := by
            unfold Tui.fetchEvents
            split
            · simp [*]
            · rfl
          show Quiet sid (fetchEvents screen sid t.db t.worker).fetched.isSome actions
          rw [hpolling]
          exact hquiet
      | finishPoll =>
          refine ih (h.step hsound fun _ => rfl) hnext ?_
          have hidle : (Tui.finishPoll screen sid t).worker.fetched = none := by
            unfold Tui.finishPoll
            split
            · assumption
            · split <;> rfl
          show Quiet sid (Tui.finishPoll screen sid t).worker.fetched.isSome actions
          rw [hidle]
          exact hquiet

theorem Opened.caught (h : Opened screen sid n db history t) : Caught sid db t where
  shown row hrow hlater _ := absurd (mem_visibleRows.mp hrow).1 (h.start ▸ hlater)
  seen id hid := by
    rwa [h.worker, startWorker, seenIds_note, List.nil_append] at hid
  reading fetched hfetched := by
    rw [h.idle] at hfetched
    cases hfetched

def TimelineAction.isPoll : TimelineAction → Bool
  | .fetchEvents => true
  | .finishPoll => true
  | _ => false

theorem Snapshot.run {read : TimelineDb} {fetched : List UiEvent}
    (h : Snapshot sid t read fetched) {gap : List TimelineAction}
    (hgap : ∀ action ∈ gap, action.isPoll = false ∧ action.isRecord sid = false) :
    Snapshot sid (gap.foldl (timelineStep screen sid n) t) read fetched ∧
      (gap.foldl (timelineStep screen sid n) t).worker = t.worker := by
  induction gap generalizing t with
  | nil => exact ⟨h, rfl⟩
  | cons action gap ih =>
      obtain ⟨⟨hpoll, hrecord⟩, hlater⟩ := List.forall_mem_cons.mp hgap
      cases action with
      | appendEvent row =>
          exact ih (h.extends (extends_appendEvent sid t.db row)
            (mem_of_appendEvent hrecord)) hlater
      | appendAudit row =>
          exact ih (h.extends (extends_appendAudit sid t.db row) mem_of_appendAudit) hlater
      | loadOlder => exact ih ⟨h.grown, h.known, h.found, h.records⟩ hlater
      | fetchEvents => cases hpoll
      | finishPoll => cases hpoll

theorem quiet_of_gap {gap : List TimelineAction} {polling : Bool}
    (hgap : ∀ action ∈ gap, action.isPoll = false ∧ action.isRecord sid = false) :
    Quiet sid polling gap := by
  induction gap with
  | nil => trivial
  | cons action gap ih =>
      obtain ⟨⟨hpoll, hrecord⟩, hlater⟩ := List.forall_mem_cons.mp hgap
      cases action with
      | appendEvent row => exact ⟨fun _ => hrecord, ih hlater⟩
      | appendAudit row => exact ⟨fun _ => rfl, ih hlater⟩
      | loadOlder => exact ⟨fun _ => rfl, ih hlater⟩
      | fetchEvents => cases hpoll
      | finishPoll => cases hpoll

/-- The second read of a poll shows all that the first read found, and every record. -/
theorem Caught.mem_finishPoll {read : TimelineDb} {fetched : List UiEvent}
    (h : Caught sid db t) (hread : Snapshot sid t read fetched)
    (hfetched : t.worker.fetched = some fetched)
    (hreads : getSessionHistoryEvents screen t.db sid ≠ none) :
    (∀ row ∈ visibleRows read sid, row ∉ db.eventsOf sid →
        row.eventId ∈ eventIds (Tui.finishPoll screen sid t).arena.events) ∧
      (screen.vaultOpen = true → ∀ row e, Recorded screen sid t.db row e →
        row.eventId ∈ eventIds (Tui.finishPoll screen sid t).arena.events) := by
  obtain ⟨history, hhistory⟩ := Option.ne_none_iff_exists'.mp hreads
  have hevents : (Tui.finishPoll screen sid t).arena.events =
      t.arena.events ++ newEvents t.worker fetched history := by
    rw [Tui.finishPoll, hfetched, hhistory]
  rw [hevents]
  refine ⟨fun row hrow hlater => h.mem_of_found hread hrow hlater, ?_⟩
  intro hopen row e hrecorded
  rw [← hrecorded.showsRow.1, eventIds_append, List.mem_append]
  by_cases hseen : e.eventId ∈ t.worker.seenIds
  · exact .inl (h.seen _ hseen)
  · exact .inr (List.mem_map_of_mem
      (mem_newEvents.mpr ⟨.inr (mem_history hopen hhistory hrecorded), hseen⟩))

theorem db_finishPoll (t : Timeline) : (finishPoll screen sid t).db = t.db := by
  unfold finishPoll
  split
  · rfl
  · split <;> rfl

/-- When a poll is done, nothing that was there at its first read and had come after the opening
is missing, provided that no record has come between the two reads of this poll or of an
earlier one; and no record at all is missing. -/
theorem live_events_of_run (h : openTimeline screen sid n db = some t₀)
    (before gap : List TimelineAction) (hquiet : Quiet sid false before)
    (hidle : (before.foldl (timelineStep screen sid n) t₀).worker.fetched = none)
    (hgap : ∀ action ∈ gap, action.isPoll = false ∧ action.isRecord sid = false)
    (hreads : getSessionHistoryEvents screen
      ((before ++ TimelineAction.fetchEvents :: gap).foldl (timelineStep screen sid n) t₀).db
      sid ≠ none) :
    let tread := before.foldl (timelineStep screen sid n) t₀
    let t := (before ++ TimelineAction.fetchEvents :: gap ++ [TimelineAction.finishPoll]).foldl
      (timelineStep screen sid n) t₀
    (∀ row ∈ visibleRows tread.db sid, row ∉ db.eventsOf sid →
        (eventIds t.arena.events).count row.eventId = 1) ∧
      (screen.vaultOpen = true → ∀ row e, Recorded screen sid t.db row e →
        (eventIds t.arena.events).count row.eventId = 1) := by
  intro tread t
  obtain ⟨history₀, hopened⟩ := opened_of_openTimeline h
  have hsize := hopened.pageSize
  have hquiet₀ : Quiet sid t₀.worker.fetched.isSome before := by rwa [hopened.idle]
  have hcaught := hopened.caught.run hsize hopened.sound hquiet₀
  have hsound := hopened.sound.run hsize before
  -- the first read
  let polled : Timeline := { tread with worker := fetchEvents screen sid tread.db tread.worker }
  have hfetched : polled.worker.fetched = some (getSessionEvents screen tread.db sid
      tread.worker.seenIds tread.worker.maxOrder tread.worker.maxCreated) := by
    show (fetchEvents screen sid tread.db tread.worker).fetched = _
    rw [fetchEvents, hidle]
  have hpolled : Snapshot sid polled tread.db (getSessionEvents screen tread.db sid
      tread.worker.seenIds tread.worker.maxOrder tread.worker.maxCreated) := by
    have hread := hsound.snapshot
    have horder : polled.worker.maxOrder = tread.worker.maxOrder := by
      show (fetchEvents screen sid tread.db tread.worker).maxOrder = _
      rw [fetchEvents, hidle]
    exact ⟨hread.grown, hread.known, by rw [horder]; exact hread.found, hread.records⟩
  -- what comes before the second
  let second := gap.foldl (timelineStep screen sid n) polled
  have hstep : Caught sid db (timelineStep screen sid n tread .fetchEvents) :=
    hcaught.step hsound fun _ => rfl
  have hcaught₂ : Caught sid db second :=
    hstep.run hsize hsound.fetchEvents (quiet_of_gap hgap)
  obtain ⟨hread, hworker⟩ : Snapshot sid second tread.db _ ∧ second.worker = polled.worker :=
    hpolled.run hgap
  have hsecond : (before ++ TimelineAction.fetchEvents :: gap).foldl
      (timelineStep screen sid n) t₀ = second := List.foldl_append
  have hend : t = finishPoll screen sid second := by
    show List.foldl _ _ _ = _
    rw [List.foldl_append, hsecond]
    rfl
  rw [hsecond] at hreads
  have hshown := hcaught₂.mem_finishPoll hread (hworker ▸ hfetched) hreads
  have hnodup : (eventIds t.arena.events).Nodup := (hopened.sound.run hsize _).nodup
  refine ⟨?_, ?_⟩
  · intro row hrow hnew
    refine List.count_eq_one_of_mem hnodup ?_
    rw [hend]
    exact hshown.1 row hrow hnew
  · intro hopen row e hrecorded
    refine List.count_eq_one_of_mem hnodup ?_
    rw [hend, db_finishPoll] at hrecorded
    rw [hend]
    exact hshown.2 hopen row e hrecorded

/-- A message that comes before the poll, and one that comes between its reads. -/
theorem live_events_of_run_message :
    ∃ t₀, openTimeline Sample.screen "s1" 1 Sample.noEvents = some t₀ ∧
      (eventIds ([TimelineAction.appendEvent (Sample.row "e0" "message" "peer_visible" 0),
        .fetchEvents, .appendEvent (Sample.row "e1" "message" "peer_visible" 0),
        .finishPoll].foldl
          (timelineStep Sample.screen "s1" 1) t₀).arena.events).count "e0" = 1 := by
  obtain ⟨t₀, h⟩ := Sample.exists_openTimeline Sample.noEvents (by decide)
  obtain ⟨history, hopened⟩ := opened_of_openTimeline h
  refine ⟨t₀, h, ?_⟩
  have hread : getSessionHistoryEvents Sample.screen
      ((Sample.noEvents.appendEvent (Sample.row "e0" "message" "peer_visible" 0)).appendEvent
        (Sample.row "e1" "message" "peer_visible" 0)) "s1" = some [] := by
    have hnone : orderedRows ((Sample.noEvents.appendEvent
        (Sample.row "e0" "message" "peer_visible" 0)).appendEvent
          (Sample.row "e1" "message" "peer_visible" 0)) "s1" isHistory = [] := by
      rw [orderedRows, List.filter_eq_nil_iff.mpr (by decide)]
      exact List.mergeSort_nil
    rw [getSessionHistoryEvents, hnone]
    rfl
  have hlive := live_events_of_run h
    [.appendEvent (Sample.row "e0" "message" "peer_visible" 0)]
    [.appendEvent (Sample.row "e1" "message" "peer_visible" 0)]
    ⟨fun h => absurd h (by decide), trivial⟩ hopened.idle (by decide)
    (by
      show getSessionHistoryEvents _ ((t₀.db.appendEvent _).appendEvent _) _ ≠ none
      rw [hopened.start, hread]
      exact Option.some_ne_none _)
  refine hlive.1 (Sample.row "e0" "message" "peer_visible" 0) ?_ (by decide)
  show _ ∈ visibleRows (t₀.db.appendEvent _) "s1"
  rw [hopened.start, mem_visibleRows]
  decide

end Kin.Tui
