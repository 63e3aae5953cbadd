import Kin.Tui.SessionArena

/-!
The timeline of an open session over whole runs. Whatever is appended while it is open, no
event is shown twice, and the older pages end at the first event of the session, except for
what lies between the first page and an older checkpoint.
-/

namespace Kin.Tui

open Kin.Py Kin.Lib Kin.Audit

variable {screen : Screen} {sid : String} {n : Nat} {db db' : TimelineDb} {row : EventColumns}

/-! ### What the worker notes -/

def Noted (maxOrder : Option Int) (order : Int) : Prop := ∃ k, maxOrder = some k ∧ order ≤ k

theorem noted_laterOrder {m o : Option Int} {order : Int} :
    Noted (laterOrder m o) order ↔ Noted m order ∨ Noted o order := by
  cases m with
  | none => simp [laterOrder, Noted]
  | some m =>
      cases o with
      | none => simp [laterOrder, Noted]
      | some o => simp [laterOrder, Noted]

theorem mem_orders {events : List UiEvent} {order : Int} :
    order ∈ orders events ↔ ∃ e ∈ events, e.eventOrder = some order := List.mem_filterMap

theorem mem_eventIds {events : List UiEvent} {id : String} :
    id ∈ eventIds events ↔ ∃ e ∈ events, e.eventId = id := List.mem_map

@[simp] theorem orders_append (events events' : List UiEvent) :
    orders (events ++ events') = orders events ++ orders events' := List.filterMap_append

@[simp] theorem eventIds_append (events events' : List UiEvent) :
    eventIds (events ++ events') = eventIds events ++ eventIds events' := List.map_append

theorem seenIds_note (events : List UiEvent) (w : Worker) :
    (events.foldl Worker.note w).seenIds = w.seenIds ++ eventIds events := by
  induction events generalizing w with
  | nil => exact (List.append_nil _).symm
  | cons e events ih =>
      rw [List.foldl_cons, ih, Worker.note, List.append_assoc]
      rfl

theorem noted_note (events : List UiEvent) (w : Worker) (order : Int) :
    Noted (events.foldl Worker.note w).maxOrder order ↔
      Noted w.maxOrder order ∨ ∃ k ∈ orders events, order ≤ k := by
  induction events generalizing w with
  | nil => simp [orders]
  | cons e events ih =>
      have hstep : Noted (w.note e).maxOrder order ↔
          Noted w.maxOrder order ∨ Noted e.eventOrder order := noted_laterOrder
      rw [List.foldl_cons, ih, hstep, or_assoc]
      refine or_congr_right ?_
      cases horder : e.eventOrder with
      | none => simp [orders, Noted, horder]
      | some k => simp [orders, Noted, horder]

/-! ### Known events -/

def Known (sid : String) (db : TimelineDb) (e : UiEvent) : Prop :=
  (∃ row ∈ db.eventsOf sid, ShowsRow row e) ∨
    ∃ audit ∈ db.auditEvents, e.eventId = audit.auditId ∧ e.eventOrder = none

theorem Known.extends {e : UiEvent} (h : Known sid db e) (hdb : Extends sid db db') :
    Known sid db' e := by
  rcases h with ⟨row, hrow, hshows⟩ | ⟨audit, haudit, hshows⟩
  · exact .inl ⟨row, hdb.kept row hrow, hshows⟩
  · exact .inr ⟨audit, hdb.audits audit haudit, hshows⟩

theorem Known.showsRow {e : UiEvent} (h : Known sid db e) (hrow : row ∈ db.eventsOf sid)
    (hid : e.eventId = row.eventId) : ShowsRow row e := by
  rcases h with ⟨other, hother, hshows⟩ | ⟨audit, haudit, hshows⟩
  · have heq := eq_of_eventId hother hrow (hshows.1.symm.trans hid)
    exact heq ▸ hshows
  · exact absurd (hid.symm.trans hshows.1) (eventId_ne_auditId hrow haudit)

theorem Known.showsRow_of_order {e : UiEvent} (h : Known sid db e) (hrow : row ∈ db.eventsOf sid)
    (horder : e.eventOrder = some row.eventOrder) : ShowsRow row e := by
  rcases h with ⟨other, hother, hshows⟩ | ⟨audit, -, hshows⟩
  · have heq := eq_of_eventOrder hother hrow (Option.some.inj (hshows.2.symm.trans horder))
    exact heq ▸ hshows
  · rw [hshows.2] at horder
    cases horder

theorem mem_eventIds_iff {events : List UiEvent} (h : ∀ e ∈ events, Known sid db e)
    (hrow : row ∈ db.eventsOf sid) :
    row.eventId ∈ eventIds events ↔ row.eventOrder ∈ orders events := by
  rw [mem_eventIds, mem_orders]
  constructor
  · rintro ⟨e, he, hid⟩
    exact ⟨e, he, ((h e he).showsRow hrow hid).2⟩
  · rintro ⟨e, he, horder⟩
    exact ⟨e, he, ((h e he).showsRow_of_order hrow horder).1⟩

theorem nodup_eventIds_uiEvent (screen : Screen) {rows : List EventColumns}
    (hrows : (rows.map EventColumns.eventId).Nodup) :
    (eventIds (rows.map (uiEvent screen))).Nodup := by
  rw [eventIds, List.map_map]
  exact hrows

theorem nodup_eventId (db : TimelineDb) (sid : String) (wanted : EventColumns → Bool) :
    ((orderedRows db sid wanted).map EventColumns.eventId).Nodup := by
  have hperm : (orderedRows db sid wanted).Perm ((db.eventsOf sid).filter wanted) :=
    List.mergeSort_perm _ _
  rw [(hperm.map _).nodup_iff]
  exact (List.nodup_append.mp db.uniqueIds).1.sublist
    ((List.filter_sublist.trans List.filter_sublist).map _)

/-! ### What the queries give -/

theorem known_of_showsRow {e : UiEvent} (hrow : row ∈ db.eventsOf sid) (h : ShowsRow row e) :
    Known sid db e := .inl ⟨row, hrow, h⟩

structure Recorded (screen : Screen) (sid : String) (db : TimelineDb) (row : EventColumns)
    (e : UiEvent) : Prop where
  stored : row ∈ orderedRows db sid isHistory
  event : historyEvent screen row = some (some e)

theorem Recorded.showsRow {e : UiEvent} (h : Recorded screen sid db row e) : ShowsRow row e :=
  showsRow_historyEvent h.event

theorem Recorded.mem {e : UiEvent} (h : Recorded screen sid db row e) : row ∈ db.eventsOf sid :=
  (mem_orderedRows.mp h.stored).1

theorem not_isVisible_of_isHistory (h : isHistory row = true) : isVisible row = false := by
  rw [isHistory, decide_eq_true_eq] at h
  simp [isVisible, h.1]

/-- A row that is shown as a record is not one of the timeline's own. -/
theorem Recorded.not_isVisible {e : UiEvent} (h : Recorded screen sid db row e) :
    isVisible row = false := not_isVisible_of_isHistory (mem_orderedRows.mp h.stored).2

theorem exists_recorded {history : List UiEvent}
    (h : getSessionHistoryEvents screen db sid = some history) {e : UiEvent} (he : e ∈ history) :
    ∃ row, Recorded screen sid db row e := by
  obtain ⟨row, hrow, hevent⟩ := mem_getSessionHistoryEvents h he
  exact ⟨row, hrow, hevent⟩

theorem eventIds_historyEvents {rows : List EventColumns} {history : List UiEvent}
    (h : historyEvents screen rows = some history) :
    (eventIds history).Sublist (rows.map EventColumns.eventId) := by
  induction rows generalizing history with
  | nil =>
      obtain rfl := Option.some.inj h
      exact .slnil
  | cons row rows ih =>
      rw [historyEvents] at h
      split at h
      · cases h
      · exact (ih h).cons _
      · rename_i event hevent
        obtain ⟨rest, hrest, rfl⟩ := Option.map_eq_some_iff.mp h
        show (event.eventId :: eventIds rest).Sublist (row.eventId :: _)
        rw [(showsRow_historyEvent hevent).1]
        exact (ih hrest).cons_cons _

theorem nodup_history {history : List UiEvent}
    (h : getSessionHistoryEvents screen db sid = some history) : (eventIds history).Nodup := by
  unfold getSessionHistoryEvents at h
  split at h
  · exact (nodup_eventId db sid isHistory).sublist (eventIds_historyEvents h)
  · obtain rfl := Option.some.inj h
    exact List.nodup_nil

/-- With the vault open, every row that loads is shown. -/
theorem mem_history {history : List UiEvent} (hopen : screen.vaultOpen = true)
    (h : getSessionHistoryEvents screen db sid = some history) {e : UiEvent}
    (he : Recorded screen sid db row e) : e ∈ history := by
  rw [getSessionHistoryEvents, if_pos hopen] at h
  rw [historyEvents_eq_some h]
  exact List.mem_filterMap.mpr ⟨row, he.stored, by rw [he.event]; rfl⟩

theorem vaultOpen_of_mem {history : List UiEvent}
    (h : getSessionHistoryEvents screen db sid = some history) {e : UiEvent} (he : e ∈ history) :
    screen.vaultOpen = true := by
  unfold getSessionHistoryEvents at h
  split at h
  · assumption
  · obtain rfl := Option.some.inj h
    cases he

section

variable {seen : List String} {afterOrder : Option Int} {afterCreated : Option String}
  {e : UiEvent}

/-- An event of the first read of a poll: a visible row after the cursor, or an audit row. -/
theorem mem_getSessionEvents
    (h : e ∈ getSessionEvents screen db sid seen afterOrder afterCreated) :
    e.eventId ∉ seen ∧
      ((∃ row ∈ visibleRows db sid, (∀ k, afterOrder = some k → k < row.eventOrder) ∧
          e = uiEvent screen row) ∨
        ∃ audit ∈ db.auditEvents, e = auditUiEvent sid audit) := by
  rw [getSessionEvents, List.mem_mergeSort, List.mem_append, List.mem_map, List.mem_map] at h
  rcases h with ⟨row, hrow, rfl⟩ | ⟨audit, haudit, rfl⟩
  · rw [List.mem_filter, List.mem_filter] at hrow
    obtain ⟨⟨hvisible, hafter⟩, hunseen⟩ := hrow
    have hid : row.eventId ∉ seen := by simpa using hunseen
    refine ⟨hid, .inl ⟨row, hvisible, ?_, rfl⟩⟩
    rintro k rfl
    simpa using hafter
  · rw [List.mem_filter, (screen.auditOrder_perm _).mem_iff, List.mem_filter] at haudit
    obtain ⟨⟨hmem, -⟩, hunseen⟩ := haudit
    have hid : audit.auditId ∉ seen := by simpa using (Bool.and_eq_true_iff.mp hunseen).2
    exact ⟨hid, .inr ⟨audit, hmem, rfl⟩⟩

/-- Every visible row after the cursor is there. -/
theorem mem_getSessionEvents_of_row (hrow : row ∈ visibleRows db sid)
    (hunseen : row.eventId ∉ seen) (hafter : ∀ k, afterOrder = some k → k < row.eventOrder) :
    uiEvent screen row ∈ getSessionEvents screen db sid seen afterOrder afterCreated := by
  rw [getSessionEvents, List.mem_mergeSort]
  refine List.mem_append_left _ (List.mem_map_of_mem ?_)
  rw [List.mem_filter, List.mem_filter]
  refine ⟨⟨hrow, ?_⟩, by simpa using hunseen⟩
  rw [Option.all_eq_true]
  exact fun k hk => decide_eq_true (hafter k hk)

theorem known_getSessionEvents
    (h : e ∈ getSessionEvents screen db sid seen afterOrder afterCreated) : Known sid db e := by
  rcases (mem_getSessionEvents h).2 with ⟨row, hrow, -, rfl⟩ | ⟨audit, haudit, rfl⟩
  · exact known_of_showsRow (mem_visibleRows.mp hrow).1 (showsRow_uiEvent screen row)
  · exact .inr ⟨audit, haudit, rfl, rfl⟩

theorem nodup_getSessionEvents :
    (eventIds (getSessionEvents screen db sid seen afterOrder afterCreated)).Nodup := by
  have hperm : ∀ events : List UiEvent,
      (events.mergeSort fun a b => decide (a.createdAt ≤ b.createdAt)).Perm events :=
    fun events => List.mergeSort_perm _ _
  rw [getSessionEvents, eventIds, ((hperm _).map _).nodup_iff, List.map_append, List.map_map,
    List.map_map]
  refine List.nodup_append.mpr ⟨?_, ?_, ?_⟩
  · exact (nodup_eventId db sid isVisible).sublist
      ((List.filter_sublist.trans List.filter_sublist).map _)
  · refine List.Nodup.sublist (List.filter_sublist.map _) ?_
    show ((screen.auditOrder _).map AuditColumns.auditId).Nodup
    rw [((screen.auditOrder_perm _).map _).nodup_iff]
    exact (List.nodup_append.mp db.uniqueIds).2.1.sublist (List.filter_sublist.map _)
  · intro id hid id' hid'
    obtain ⟨row, hrow, rfl⟩ := List.mem_map.mp hid
    obtain ⟨audit, haudit, rfl⟩ := List.mem_map.mp hid'
    have hmem := (mem_visibleRows.mp (List.mem_of_mem_filter (List.mem_of_mem_filter hrow))).1
    have hdb := List.mem_of_mem_filter
      ((screen.auditOrder_perm _).mem_iff.mp (List.mem_of_mem_filter haudit))
    exact eventId_ne_auditId hmem hdb

end

/-! ### Opening -/

def firstPage (sid : String) (n : Nat) (db : TimelineDb) : List EventColumns :=
  (page n (visibleRows db sid)).1

def Unread (events : List UiEvent) (row : EventColumns) : Prop :=
  ∀ order ∈ orders events, row.eventOrder < order

structure Opened (screen : Screen) (sid : String) (n : Nat) (db : TimelineDb)
    (history : List UiEvent) (t : Timeline) : Prop where
  pageSize : 1 ≤ n ∧ n ≤ 2000
  records : getSessionHistoryEvents screen db sid = some history
  start : t.db = db
  events : t.arena.events.Perm ((firstPage sid n db).map (uiEvent screen) ++ history)
  hasOlder : t.arena.hasOlderEvents = decide (n < (visibleRows db sid).length)
  worker : t.worker = startWorker t.arena.events

theorem opened_of_openTimeline {t : Timeline} (h : openTimeline screen sid n db = some t) :
    ∃ history, Opened screen sid n db history t := by
  obtain ⟨arena, harena, rfl⟩ := Option.map_eq_some_iff.mp h
  unfold loadArenaData getSessionEventsPage at harena
  split at harena
  · cases harena
  · rename_i events hasOlder hpage
    split at hpage
    · rename_i hsize
      obtain ⟨history, hhistory, rfl⟩ := Option.map_eq_some_iff.mp harena
      rw [below_none] at hpage
      obtain ⟨rfl, rfl⟩ := Prod.mk.inj (Option.some.inj hpage)
      exact ⟨history, hsize, hhistory, rfl, List.mergeSort_perm _ _, page_snd n _, rfl⟩
    · cases hpage

variable {history : List UiEvent} {t₀ t : Timeline}

theorem mem_visibleRows_of_firstPage (h : row ∈ firstPage sid n db) : row ∈ visibleRows db sid := by
  rw [firstPage, page_fst] at h
  exact List.mem_of_mem_drop h

theorem Opened.mem_events (h : Opened screen sid n db history t) {e : UiEvent} :
    e ∈ t.arena.events ↔
      (∃ row ∈ firstPage sid n db, uiEvent screen row = e) ∨ e ∈ history := by
  rw [h.events.mem_iff, List.mem_append, List.mem_map]

/-- The page and the records share no event. -/
theorem nodup_append_history {shown : List UiEvent} (hshown : (eventIds shown).Nodup)
    (hhistory : getSessionHistoryEvents screen db sid = some history)
    (hother : ∀ e ∈ shown, ∀ row ∈ db.eventsOf sid, isVisible row = false →
      e.eventId ≠ row.eventId) : (eventIds (shown ++ history)).Nodup := by
  rw [eventIds_append]
  refine List.nodup_append.mpr ⟨hshown, nodup_history hhistory, ?_⟩
  intro id hid id' hid'
  obtain ⟨e, he, rfl⟩ := mem_eventIds.mp hid
  obtain ⟨e', he', rfl⟩ := mem_eventIds.mp hid'
  obtain ⟨row, hrecorded⟩ := exists_recorded hhistory he'
  rw [hrecorded.showsRow.1]
  exact hother e he row hrecorded.mem hrecorded.not_isVisible

/-! ### The invariant -/

structure Fetched (sid : String) (t : Timeline) (fetched : List UiEvent) : Prop where
  known : ∀ e ∈ fetched, Known sid t.db e
  nodup : (eventIds fetched).Nodup
  newer : ∀ e ∈ fetched, ∀ row ∈ t.db.eventsOf sid, ShowsRow row e →
    isVisible row = true ∧ ¬ Noted t.worker.maxOrder row.eventOrder

/-- What holds of an open timeline, whatever is appended and whoever reads next. -/
structure Sound (screen : Screen) (sid : String) (n : Nat) (db : TimelineDb) (t₀ t : Timeline) :
    Prop where
  grown : Extends sid db t.db
  known : ∀ e ∈ t.arena.events, Known sid t.db e
  nodup : (eventIds t.arena.events).Nodup
  kept : ∀ order ∈ orders t₀.arena.events, order ∈ orders t.arena.events
  shown : ∀ row ∈ visibleRows db sid, row.eventOrder ∈ orders t.arena.events ↔
    row ∈ firstPage sid n db ∨ Unread t₀.arena.events row ∧ ¬ Unread t.arena.events row
  finished : t.arena.hasOlderEvents = false →
    ∀ row ∈ visibleRows db sid, ¬ Unread t.arena.events row
  anchored : t.arena.hasOlderEvents = true →
    ∃ order ∈ orders t.arena.events, order < db.nextOrder sid
  noted : ∀ order ∈ orders t.arena.events, Noted t.worker.maxOrder order
  covered : ∀ row ∈ visibleRows db sid, Noted t.worker.maxOrder row.eventOrder
  bounded : ∀ k, t.worker.maxOrder = some k → k < t.db.nextOrder sid
  unseen : ∀ e ∈ t.arena.events, e.eventId ∉ t.worker.seenIds →
    ∃ row ∈ visibleRows db sid, ShowsRow row e
  seen : ∀ id ∈ t.worker.seenIds, id ∈ t.db.ids
  seenNoted : ∀ row ∈ t.db.eventsOf sid, row.eventId ∈ t.worker.seenIds →
    Noted t.worker.maxOrder row.eventOrder
  recorded : screen.vaultOpen = true → ∀ row e, Recorded screen sid db row e →
    e.eventId ∈ t.worker.seenIds
  fetched : ∀ fetched, t.worker.fetched = some fetched → Fetched sid t fetched

theorem Known.mem_ids {e : UiEvent} (h : Known sid db e) : e.eventId ∈ db.ids := by
  rcases h with ⟨row, hrow, hshows⟩ | ⟨audit, haudit, hshows⟩
  · rw [hshows.1]
    exact List.mem_append_left _ (List.mem_map_of_mem (mem_eventsOf.mp hrow).1)
  · rw [hshows.1]
    exact List.mem_append_right _ (List.mem_map_of_mem haudit)

theorem Opened.known (h : Opened screen sid n db history t) :
    ∀ e ∈ t.arena.events, Known sid db e := by
  intro e he
  rcases h.mem_events.mp he with ⟨row, hrow, rfl⟩ | hhistory
  · exact known_of_showsRow (mem_visibleRows.mp (mem_visibleRows_of_firstPage hrow)).1
      (showsRow_uiEvent screen row)
  · obtain ⟨row, hrecorded⟩ := exists_recorded h.records hhistory
    exact known_of_showsRow hrecorded.mem hrecorded.showsRow

theorem Opened.nodup (h : Opened screen sid n db history t) : (eventIds t.arena.events).Nodup := by
  rw [eventIds, (h.events.map _).nodup_iff]
  refine nodup_append_history ?_ h.records ?_
  · refine nodup_eventIds_uiEvent screen ?_
    rw [firstPage, page_fst]
    exact (nodup_eventId db sid isVisible).sublist ((List.drop_sublist _ _).map _)
  · intro e he row hrow hhidden heq
    obtain ⟨other, hother, rfl⟩ := List.mem_map.mp he
    obtain ⟨hmem, hvisible⟩ := mem_visibleRows.mp (mem_visibleRows_of_firstPage hother)
    rw [eq_of_eventId hmem hrow heq, hhidden] at hvisible
    cases hvisible

theorem mem_firstPage_or (h : row ∈ visibleRows db sid) :
    row ∈ firstPage sid n db ∨
      n < (visibleRows db sid).length ∧ ∀ row' ∈ firstPage sid n db,
        row.eventOrder < row'.eventOrder := by
  have hsplit := unread_append_page n (visibleRows db sid)
  have hascending := ascending_orderedRows db sid isVisible
  rw [← visibleRows, ← hsplit] at hascending
  rw [← hsplit, List.mem_append] at h
  rcases h with hunread | hpage
  · have hcross := (List.pairwise_append.mp hascending).2.2
    refine .inr ⟨?_, fun row' hrow' => hcross row hunread row' hrow'⟩
    have hlength := List.length_pos_of_mem hunread
    rw [length_unread] at hlength
    omega
  · exact .inl hpage

theorem mem_orders_firstPage (h : Opened screen sid n db history t)
    (hrow : row ∈ firstPage sid n db) :
    row.eventOrder ∈ orders t.arena.events :=
  mem_orders.mpr ⟨uiEvent screen row, h.mem_events.mpr (.inl ⟨row, hrow, rfl⟩), rfl⟩

theorem Opened.firstPage_ne_nil (h : Opened screen sid n db history t)
    (hrow : row ∈ visibleRows db sid) : ∃ row', row' ∈ firstPage sid n db := by
  refine List.exists_mem_of_ne_nil _ ?_
  rw [firstPage, page_fst, Ne, List.drop_eq_nil_iff]
  have hlength := List.length_pos_of_mem hrow
  have hsize := h.pageSize.1
  omega

theorem fetched_note (events : List UiEvent) (w : Worker) :
    (events.foldl Worker.note w).fetched = w.fetched := by
  induction events generalizing w with
  | nil => rfl
  | cons e events ih => exact ih (w.note e)

theorem Opened.idle (h : Opened screen sid n db history t) : t.worker.fetched = none := by
  rw [h.worker, startWorker, fetched_note]

theorem Opened.sound (h : Opened screen sid n db history t) : Sound screen sid n db t t := by
  have hknown := h.known
  have hseen : t.worker.seenIds = eventIds t.arena.events := by
    rw [h.worker, startWorker, seenIds_note, List.nil_append]
  have hnoted : ∀ order, Noted t.worker.maxOrder order ↔
      ∃ k ∈ orders t.arena.events, order ≤ k := by
    intro order
    rw [h.worker, startWorker, noted_note]
    simp [Noted]
  refine ⟨h.start ▸ .refl sid db, h.start ▸ hknown, h.nodup, fun _ horder => horder, ?_, ?_, ?_,
    ?_, ?_, ?_, ?_, ?_, ?_, ?_, ?_⟩
  · intro row hrow
    constructor
    · intro horder
      refine .inl ?_
      obtain ⟨e, he, heorder⟩ := mem_orders.mp horder
      obtain ⟨hmem, hvisible⟩ := mem_visibleRows.mp hrow
      rcases h.mem_events.mp he with ⟨row', hrow', rfl⟩ | hhistory
      · have hmem' := (mem_visibleRows.mp (mem_visibleRows_of_firstPage hrow')).1
        rwa [eq_of_eventOrder hmem hmem' (Option.some.inj heorder).symm]
      · obtain ⟨row', hrecorded⟩ := exists_recorded h.records hhistory
        have heq := eq_of_eventOrder hmem hrecorded.mem
          (Option.some.inj (heorder.symm.trans hrecorded.showsRow.2))
        rw [heq, hrecorded.not_isVisible] at hvisible
        cases hvisible
    · rintro (hpage | ⟨hunread, hread⟩)
      · exact mem_orders_firstPage h hpage
      · exact absurd hunread hread
  · intro hlast row hrow hunread
    rw [h.hasOlder, decide_eq_false_iff_not] at hlast
    rcases mem_firstPage_or hrow with hpage | ⟨hlonger, -⟩
    · have := hunread _ (mem_orders_firstPage h hpage)
      omega
    · exact hlast hlonger
  · intro hmore
    rw [h.hasOlder, decide_eq_true_eq] at hmore
    obtain ⟨row, hrow⟩ := List.exists_mem_of_length_pos (Nat.zero_lt_of_lt hmore)
    obtain ⟨row', hrow'⟩ := h.firstPage_ne_nil hrow
    exact ⟨row'.eventOrder, mem_orders_firstPage h hrow',
      eventOrder_lt_nextOrder (mem_visibleRows.mp (mem_visibleRows_of_firstPage hrow')).1⟩
  · exact fun order horder => (hnoted order).mpr ⟨order, horder, le_rfl⟩
  · intro row hrow
    rw [hnoted]
    obtain ⟨row', hrow'⟩ := h.firstPage_ne_nil hrow
    rcases mem_firstPage_or hrow with hpage | ⟨-, hbefore⟩
    · exact ⟨_, mem_orders_firstPage h hpage, le_rfl⟩
    · exact ⟨_, mem_orders_firstPage h hrow', (hbefore row' hrow').le⟩
  · intro k hk
    obtain ⟨order, horder, hle⟩ := (hnoted k).mp ⟨k, hk, le_rfl⟩
    obtain ⟨e, he, heorder⟩ := mem_orders.mp horder
    rcases hknown e he with ⟨row, hrow, hshows⟩ | ⟨audit, -, hshows⟩
    · have hlt := eventOrder_lt_nextOrder hrow
      rw [hshows.2] at heorder
      have heq := Option.some.inj heorder
      rw [h.start]
      omega
    · rw [hshows.2] at heorder
      cases heorder
  · intro e he hunseen
    rw [hseen] at hunseen
    exact absurd (List.mem_map_of_mem he) hunseen
  · intro id hid
    rw [hseen] at hid
    obtain ⟨e, he, rfl⟩ := mem_eventIds.mp hid
    rw [h.start]
    exact (hknown e he).mem_ids
  · intro row hrow hid
    rw [h.start] at hrow
    rw [hseen, mem_eventIds_iff hknown hrow] at hid
    exact (hnoted _).mpr ⟨_, hid, le_rfl⟩
  · intro hopen row e hrecorded
    rw [hseen]
    exact List.mem_map_of_mem (h.mem_events.mpr (.inr (mem_history hopen h.records hrecorded)))
  · intro fetched hfetched
    rw [h.idle] at hfetched
    cases hfetched

/-! ### What the node appends -/

theorem Fetched.extends {fetched : List UiEvent} (h : Fetched sid t fetched)
    (hdb : Extends sid t.db db') : Fetched sid { t with db := db' } fetched where
  known e he := (h.known e he).extends hdb
  nodup := h.nodup
  newer e he row hrow hshows := by
    by_cases hold : row ∈ t.db.eventsOf sid
    · exact h.newer e he row hold hshows
    · refine absurd ((h.known e he).mem_ids) ?_
      rw [hshows.1]
      exact (hdb.newer row hrow hold).2

theorem Sound.extends (h : Sound screen sid n db t₀ t) (hdb : Extends sid t.db db') :
    Sound screen sid n db t₀ { t with db := db' } where
  grown := h.grown.trans hdb
  known e he := (h.known e he).extends hdb
  nodup := h.nodup
  kept := h.kept
  shown := h.shown
  finished := h.finished
  anchored := h.anchored
  noted := h.noted
  covered := h.covered
  bounded k hk := (h.bounded k hk).trans_le hdb.nextOrder_le
  unseen := h.unseen
  seen id hid := hdb.ids id (h.seen id hid)
  seenNoted row hrow hid := by
    by_cases hold : row ∈ t.db.eventsOf sid
    · exact h.seenNoted row hold hid
    · exact absurd (h.seen _ hid) (hdb.newer row hrow hold).2
  recorded := h.recorded
  fetched fetched hfetched := (h.fetched fetched hfetched).extends hdb

/-! ### Older pages -/

/-- The rows that are older than everything on the timeline. -/
def unreadRows (sid : String) (db : TimelineDb) (events : List UiEvent) : List EventColumns :=
  below EventColumns.eventOrder (orders events).min? (visibleRows db sid)

theorem lt_min_iff {events : List UiEvent} {order : Int} :
    (∀ k ∈ (orders events).min?, order < k) ↔ ∀ k ∈ orders events, order < k := by
  cases hmin : (orders events).min? with
  | none =>
      rw [List.min?_eq_none_iff] at hmin
      simp [hmin]
  | some m =>
      obtain ⟨hmem, hle⟩ := List.min?_eq_some_iff.mp hmin
      constructor
      · intro hlt k hk
        have := hlt m rfl
        have := hle k hk
        omega
      · rintro hlt k ⟨⟩
        exact hlt m hmem

theorem mem_unreadRows {events : List UiEvent} :
    row ∈ unreadRows sid db events ↔ row ∈ visibleRows db sid ∧ Unread events row := by
  rw [unreadRows, mem_below, lt_min_iff]
  rfl

theorem ascending_unreadRows (sid : String) (db : TimelineDb) (events : List UiEvent) :
    Ascending EventColumns.eventOrder (unreadRows sid db events) :=
  (ascending_orderedRows db sid isVisible).below _

/-- The query for an older page sees none of the rows that came later. -/
theorem Sound.below_oldest (h : Sound screen sid n db t₀ t) {oldest : Int}
    (holdest : (orders t.arena.events).min? = some oldest)
    (hmore : t.arena.hasOlderEvents = true) :
    below EventColumns.eventOrder (some oldest) (visibleRows t.db sid) =
      unreadRows sid db t.arena.events := by
  obtain ⟨order, horder, hlt⟩ := h.anchored hmore
  have hle := (List.min?_eq_some_iff.mp holdest).2 order horder
  refine Ascending.ext ((ascending_orderedRows t.db sid isVisible).below _)
    (ascending_unreadRows sid db t.arena.events) fun row => ?_
  rw [unreadRows, holdest, mem_below, mem_below, mem_visibleRows, mem_visibleRows]
  constructor
  · rintro ⟨⟨hmem, hvisible⟩, hbefore⟩
    refine ⟨⟨?_, hvisible⟩, hbefore⟩
    by_contra hnew
    have := (h.grown.newer row hmem hnew).1
    have := hbefore oldest rfl
    omega
  · rintro ⟨⟨hmem, hvisible⟩, hbefore⟩
    exact ⟨⟨h.grown.kept row hmem, hvisible⟩, hbefore⟩

/-- What asking for older events does: nothing when there are none, or a page of the rows that
are unread, in front of what is shown. -/
theorem loadOlderEvents_cases (hsize : 1 ≤ n ∧ n ≤ 2000) (h : Sound screen sid n db t₀ t) :
    (t.arena.hasOlderEvents = false ∧ loadOlderEvents screen sid n t.db t.arena = t.arena) ∨
    (t.arena.hasOlderEvents = true ∧ loadOlderEvents screen sid n t.db t.arena =
      ⟨(page n (unreadRows sid db t.arena.events)).1.map (uiEvent screen) ++ t.arena.events,
        decide (n < (unreadRows sid db t.arena.events).length)⟩) := by
  unfold loadOlderEvents
  cases hmore : t.arena.hasOlderEvents with
  | false => exact .inl ⟨rfl, rfl⟩
  | true =>
      refine .inr ⟨rfl, ?_⟩
      obtain ⟨order, horder, -⟩ := h.anchored hmore
      cases holdest : (orders t.arena.events).min? with
      | none =>
          rw [List.min?_eq_none_iff] at holdest
          rw [holdest] at horder
          cases horder
      | some oldest =>
          simp only [getSessionEventsPage, if_pos hsize, h.below_oldest holdest hmore, page_snd]
          congr 1
          congr 1
          rw [List.filter_eq_self]
          intro e he
          obtain ⟨row, hrow, rfl⟩ := List.mem_map.mp he
          rw [page_fst] at hrow
          obtain ⟨hvisible, hunread⟩ := mem_unreadRows.mp (List.mem_of_mem_drop hrow)
          have hmem := h.grown.kept row (mem_visibleRows.mp hvisible).1
          have hnew : row.eventId ∉ eventIds t.arena.events := by
            rw [mem_eventIds_iff h.known hmem]
            intro hin
            have := hunread _ hin
            omega
          show (!decide (row.eventId ∈ eventIds t.arena.events)) = true
          simp [hnew]

theorem unreadRows_page (events : List UiEvent) :
    unreadRows sid db ((page n (unreadRows sid db events)).1.map (uiEvent screen) ++ events) =
      unread n (unreadRows sid db events) := by
  have hsplit := unread_append_page n (unreadRows sid db events)
  have hascending := ascending_unreadRows sid db events
  refine Ascending.ext (ascending_unreadRows _ _ _) (hascending.unread n) fun row => ?_
  have hcross : ∀ row ∈ unread n (unreadRows sid db events),
      ∀ row' ∈ (page n (unreadRows sid db events)).1, row.eventOrder < row'.eventOrder := by
    rw [← hsplit] at hascending
    exact (List.pairwise_append.mp hascending).2.2
  have horders : orders ((page n (unreadRows sid db events)).1.map (uiEvent screen)) =
      (page n (unreadRows sid db events)).1.map EventColumns.eventOrder := by
    rw [orders, List.filterMap_map]
    exact congrFun List.filterMap_eq_map' _
  rw [mem_unreadRows]
  constructor
  · rintro ⟨hvisible, hunread⟩
    have hmem : row ∈ unreadRows sid db events := by
      refine mem_unreadRows.mpr ⟨hvisible, fun order horder => hunread order ?_⟩
      rw [orders_append]
      exact List.mem_append_right _ horder
    rw [← hsplit, List.mem_append] at hmem
    rcases hmem with hbefore | hpage
    · exact hbefore
    · have := hunread row.eventOrder (by
        rw [orders_append, horders]
        exact List.mem_append_left _ (List.mem_map_of_mem hpage))
      omega
  · intro hbefore
    obtain ⟨hvisible, hunread⟩ := mem_unreadRows.mp (List.mem_of_mem_take hbefore)
    refine ⟨hvisible, fun order horder => ?_⟩
    rw [orders_append, horders, List.mem_append] at horder
    rcases horder with hpage | hshown
    · obtain ⟨row', hrow', rfl⟩ := List.mem_map.mp hpage
      exact hcross row hbefore row' hrow'
    · exact hunread order hshown

theorem Sound.loadOlder (h : Sound screen sid n db t₀ t) (hsize : 1 ≤ n ∧ n ≤ 2000) :
    Sound screen sid n db t₀ { t with arena := loadOlderEvents screen sid n t.db t.arena } := by
  rcases loadOlderEvents_cases hsize h with ⟨-, hsame⟩ | ⟨hmore, hpage⟩
  · rw [hsame]
    exact h
  · rw [hpage]
    have hsplit := unread_append_page n (unreadRows sid db t.arena.events)
    have hlater : unreadRows sid db
        ((page n (unreadRows sid db t.arena.events)).1.map (uiEvent screen) ++ t.arena.events) =
          unread n (unreadRows sid db t.arena.events) := unreadRows_page t.arena.events
    generalize hrows : (page n (unreadRows sid db t.arena.events)).1 = rows at hsplit hlater
    have hunread : ∀ row ∈ rows, row ∈ visibleRows db sid ∧ Unread t.arena.events row := by
      intro row hrow
      rw [← mem_unreadRows, ← hsplit]
      exact List.mem_append_right _ hrow
    have hstored : ∀ row ∈ rows, row ∈ t.db.eventsOf sid := fun row hrow =>
      h.grown.kept row (mem_visibleRows.mp (hunread row hrow).1).1
    have hmem : ∀ order, order ∈ orders (rows.map (uiEvent screen) ++ t.arena.events) ↔
        (∃ row ∈ rows, row.eventOrder = order) ∨ order ∈ orders t.arena.events := by
      intro order
      rw [orders_append, List.mem_append, mem_orders]
      simp [uiEvent]
    refine ⟨h.grown, ?_, ?_, ?_, ?_, ?_, ?_, ?_, h.covered, h.bounded, ?_, h.seen, h.seenNoted,
      h.recorded, ?_⟩
    · intro e he
      rcases List.mem_append.mp he with hnew | hshown
      · obtain ⟨row, hrow, rfl⟩ := List.mem_map.mp hnew
        exact known_of_showsRow (hstored row hrow) (showsRow_uiEvent screen row)
      · exact h.known e hshown
    · rw [eventIds_append]
      refine List.nodup_append.mpr ⟨nodup_eventIds_uiEvent screen ?_, h.nodup, ?_⟩
      · rw [← hrows, page_fst]
        exact (nodup_eventId db sid isVisible).sublist
          (((List.drop_sublist _ _).trans List.filter_sublist).map _)
      · rintro id hid _ hshown rfl
        obtain ⟨e, he, rfl⟩ := mem_eventIds.mp hid
        obtain ⟨row, hrow, rfl⟩ := List.mem_map.mp he
        have hin := (mem_eventIds_iff h.known (hstored row hrow)).mp hshown
        have := (hunread row hrow).2 _ hin
        omega
    · exact fun order horder => (hmem order).mpr (.inr (h.kept order horder))
    · intro row hrow
      have hstill : Unread (rows.map (uiEvent screen) ++ t.arena.events) row →
          Unread t.arena.events row :=
        fun hun order horder => hun order ((hmem order).mpr (.inr horder))
      rw [hmem]
      constructor
      · rintro (⟨row', hrow', horder⟩ | hshown)
        · have heq : row' = row :=
            eq_of_eventOrder (mem_visibleRows.mp (hunread row' hrow').1).1
              (mem_visibleRows.mp hrow).1 horder
          rw [heq] at hrow'
          refine .inr ⟨fun order horder => (hunread row hrow').2 order (h.kept order horder), ?_⟩
          intro hun
          have := hun row.eventOrder ((hmem _).mpr (.inl ⟨row, hrow', rfl⟩))
          omega
        · rcases (h.shown row hrow).mp hshown with hfirst | ⟨hunread₀, hread⟩
          · exact .inl hfirst
          · exact .inr ⟨hunread₀, fun hun => hread (hstill hun)⟩
      · rintro (hfirst | ⟨hunread₀, hread⟩)
        · exact .inr ((h.shown row hrow).mpr (.inl hfirst))
        · by_cases hun : Unread t.arena.events row
          · have hin := mem_unreadRows.mpr ⟨hrow, hun⟩
            rw [← hsplit, ← hlater, List.mem_append] at hin
            rcases hin with hbefore | hpaged
            · exact absurd (mem_unreadRows.mp hbefore).2 hread
            · exact .inl ⟨row, hpaged, rfl⟩
          · exact .inr ((h.shown row hrow).mpr (.inr ⟨hunread₀, hun⟩))
    · intro hlast row hrow hun
      have hin := mem_unreadRows.mpr ⟨hrow, hun⟩
      have hlength := List.length_pos_of_mem (hlater ▸ hin)
      rw [length_unread] at hlength
      rw [decide_eq_false_iff_not] at hlast
      omega
    · intro _
      obtain ⟨order, horder, hlt⟩ := h.anchored hmore
      exact ⟨order, (hmem order).mpr (.inr horder), hlt⟩
    · intro order horder
      rcases (hmem order).mp horder with ⟨row, hrow, rfl⟩ | hshown
      · exact h.covered row (hunread row hrow).1
      · exact h.noted order hshown
    · intro e he hunseen
      rcases List.mem_append.mp he with hnew | hshown
      · obtain ⟨row, hrow, rfl⟩ := List.mem_map.mp hnew
        exact ⟨row, (hunread row hrow).1, showsRow_uiEvent screen row⟩
      · exact h.unseen e hshown hunseen
    · intro fetched hfetched
      have hread := h.fetched fetched hfetched
      exact ⟨hread.known, hread.nodup, hread.newer⟩

/-! ### Polls -/

theorem Sound.fetchEvents (h : Sound screen sid n db t₀ t) :
    Sound screen sid n db t₀ { t with worker := fetchEvents screen sid t.db t.worker } := by
  unfold Tui.fetchEvents
  cases hfetched : t.worker.fetched with
  | some fetched => exact h
  | none =>
      refine ⟨h.grown, h.known, h.nodup, h.kept, h.shown, h.finished, h.anchored, h.noted,
        h.covered, h.bounded, h.unseen, h.seen, h.seenNoted, h.recorded, ?_⟩
      rintro fetched ⟨⟩
      refine ⟨fun e he => known_getSessionEvents he, nodup_getSessionEvents, ?_⟩
      intro e he row hrow hshows
      rcases (mem_getSessionEvents he).2 with ⟨row', hrow', hafter, rfl⟩ | ⟨audit, haudit, rfl⟩
      · have heq : row' = row := eq_of_eventId (mem_visibleRows.mp hrow').1 hrow hshows.1
        rw [heq] at hrow' hafter
        refine ⟨(mem_visibleRows.mp hrow').2, ?_⟩
        rintro ⟨k, hk, hle⟩
        have := hafter k hk
        omega
      · exact absurd hshows.2 (by simp [auditUiEvent])

section

variable {fetched : List UiEvent}

/-- An event that a poll shows was read first, or is a record that the worker had not seen. -/
theorem mem_newEvents {w : Worker} {e : UiEvent} :
    e ∈ newEvents w fetched history ↔ (e ∈ fetched ∨ e ∈ history) ∧ e.eventId ∉ w.seenIds := by
  rw [newEvents, List.mem_filter, List.mem_mergeSort, List.mem_append, List.mem_filter]
  simp only [Bool.not_eq_true', decide_eq_false_iff_not]
  tauto

structure News (sid : String) (db : TimelineDb) (t : Timeline) (new : List UiEvent) : Prop where
  known : ∀ e ∈ new, Known sid t.db e
  nodup : (eventIds new).Nodup
  unseen : ∀ e ∈ new, e.eventId ∉ t.worker.seenIds
  later : ∀ order ∈ orders new, ∀ row ∈ visibleRows db sid, row.eventOrder < order

theorem Sound.news (h : Sound screen sid n db t₀ t) (hfetched : t.worker.fetched = some fetched)
    (hhistory : getSessionHistoryEvents screen t.db sid = some history) :
    News sid db t (newEvents t.worker fetched history) := by
  have hread := h.fetched fetched hfetched
  refine ⟨?_, ?_, ?_, ?_⟩
  · intro e he
    rcases (mem_newEvents.mp he).1 with hfirst | hsecond
    · exact hread.known e hfirst
    · obtain ⟨row, hrecorded⟩ := exists_recorded hhistory hsecond
      exact known_of_showsRow hrecorded.mem hrecorded.showsRow
  · have hall : (eventIds (fetched ++ history)).Nodup := by
      refine nodup_append_history hread.nodup hhistory ?_
      intro e he row hrow hhidden hid
      have hvisible := (hread.newer e he row hrow ((hread.known e he).showsRow hrow hid)).1
      rw [hhidden] at hvisible
      cases hvisible
    have hperm : ∀ events : List UiEvent, (events.mergeSort inOrder).Perm events :=
      fun events => List.mergeSort_perm _ _
    refine List.Nodup.sublist (List.filter_sublist.map _) (((hperm _).map _).nodup_iff.mpr ?_)
    exact hall.sublist ((List.filter_sublist.append_left _).map _)
  · exact fun e he => (mem_newEvents.mp he).2
  · intro order horder row hrow
    obtain ⟨e, he, heorder⟩ := mem_orders.mp horder
    obtain ⟨hread', hunseen⟩ := mem_newEvents.mp he
    rcases hread' with hfirst | hsecond
    · rcases hread.known e hfirst with ⟨row', hrow', hshows⟩ | ⟨audit, -, hshows⟩
      · obtain ⟨k, hk, hle⟩ := h.covered row hrow
        have hnew := (hread.newer e hfirst row' hrow' hshows).2
        have heq : row'.eventOrder = order := Option.some.inj (hshows.2.symm.trans heorder)
        by_contra hnot
        exact hnew ⟨k, hk, by omega⟩
      · rw [hshows.2] at heorder
        cases heorder
    · obtain ⟨row', hrecorded⟩ := exists_recorded hhistory hsecond
      have heq : row'.eventOrder = order :=
        Option.some.inj (hrecorded.showsRow.2.symm.trans heorder)
      by_cases hold : row' ∈ db.eventsOf sid
      · have hstored : Recorded screen sid db row' e :=
          ⟨mem_orderedRows.mpr ⟨hold, (mem_orderedRows.mp hrecorded.stored).2⟩, hrecorded.event⟩
        exact absurd (h.recorded (vaultOpen_of_mem hhistory hsecond) row' e hstored) hunseen
      · have hnew := (h.grown.newer row' hrecorded.mem hold).1
        have hlt := eventOrder_lt_nextOrder (mem_visibleRows.mp hrow).1
        omega

/-- What is new is younger than all that was there at the opening. -/
theorem News.unread_iff {new : List UiEvent} (h : News sid db t new) (events : List UiEvent)
    (hrow : row ∈ visibleRows db sid) : Unread (events ++ new) row ↔ Unread events row := by
  rw [Unread, Unread, orders_append]
  constructor
  · exact fun hun order horder => hun order (List.mem_append_left _ horder)
  · intro hun order horder
    rcases List.mem_append.mp horder with hshown | hnew
    · exact hun order hshown
    · exact h.later order hnew row hrow

/-- What a poll leaves when its second read does not raise. -/
theorem Sound.showNews (h : Sound screen sid n db t₀ t) {new : List UiEvent}
    (hnew : News sid db t new) :
    Sound screen sid n db t₀ { t with
      arena := { t.arena with events := t.arena.events ++ new }
      worker := { new.foldl Worker.note t.worker with fetched := none } } := by
  have hnoted : ∀ order, Noted (new.foldl Worker.note t.worker).maxOrder order ↔
      Noted t.worker.maxOrder order ∨ ∃ k ∈ orders new, order ≤ k := noted_note new t.worker
  have hstored : ∀ order ∈ orders new, ∃ row ∈ t.db.eventsOf sid, row.eventOrder = order := by
    intro order horder
    obtain ⟨e, he, heorder⟩ := mem_orders.mp horder
    rcases hnew.known e he with ⟨row, hrow, hshows⟩ | ⟨audit, -, hshows⟩
    · exact ⟨row, hrow, Option.some.inj (hshows.2.symm.trans heorder)⟩
    · rw [hshows.2] at heorder
      cases heorder
  refine ⟨h.grown, ?_, ?_, ?_, ?_, ?_, ?_, ?_, ?_, ?_, ?_, ?_, ?_, ?_, ?_⟩
  · intro e he
    rcases List.mem_append.mp he with hshown | hlater
    · exact h.known e hshown
    · exact hnew.known e hlater
  · rw [eventIds_append]
    refine List.nodup_append.mpr ⟨h.nodup, hnew.nodup, ?_⟩
    rintro id hid _ hid' rfl
    obtain ⟨e, he, rfl⟩ := mem_eventIds.mp hid
    obtain ⟨e', he', heq⟩ := mem_eventIds.mp hid'
    have hunseen : e.eventId ∉ t.worker.seenIds := heq ▸ hnew.unseen e' he'
    obtain ⟨row, hrow, hshows⟩ := h.unseen e he hunseen
    have hshows' := (hnew.known e' he').showsRow (h.grown.kept row (mem_visibleRows.mp hrow).1)
      (heq.trans hshows.1)
    have := hnew.later _ (mem_orders.mpr ⟨e', he', hshows'.2⟩) row hrow
    omega
  · intro order horder
    rw [orders_append]
    exact List.mem_append_left _ (h.kept order horder)
  · intro row hrow
    rw [hnew.unread_iff _ hrow, ← h.shown row hrow, orders_append, List.mem_append]
    refine or_iff_left fun hin => ?_
    have := hnew.later _ hin row hrow
    omega
  · intro hlast row hrow
    rw [hnew.unread_iff _ hrow]
    exact h.finished hlast row hrow
  · intro hmore
    obtain ⟨order, horder, hlt⟩ := h.anchored hmore
    exact ⟨order, by rw [orders_append]; exact List.mem_append_left _ horder, hlt⟩
  · intro order horder
    rw [orders_append] at horder
    rcases List.mem_append.mp horder with hshown | hlater
    · exact (hnoted order).mpr (.inl (h.noted order hshown))
    · exact (hnoted order).mpr (.inr ⟨order, hlater, le_rfl⟩)
  · exact fun row hrow => (hnoted _).mpr (.inl (h.covered row hrow))
  · intro k hk
    rcases (hnoted k).mp ⟨k, hk, le_rfl⟩ with ⟨k', hk', hle⟩ | ⟨order, horder, hle⟩
    · have := h.bounded k' hk'
      show k < t.db.nextOrder sid
      omega
    · obtain ⟨row, hrow, rfl⟩ := hstored order horder
      exact hle.trans_lt (eventOrder_lt_nextOrder hrow)
  · intro e he hunseen
    rw [seenIds_note] at hunseen
    rcases List.mem_append.mp he with hshown | hlater
    · exact h.unseen e hshown fun hin => hunseen (List.mem_append_left _ hin)
    · exact absurd (List.mem_append_right _ (List.mem_map_of_mem hlater)) hunseen
  · intro id hid
    rw [seenIds_note] at hid
    rcases List.mem_append.mp hid with hseen | hlater
    · exact h.seen id hseen
    · obtain ⟨e, he, rfl⟩ := mem_eventIds.mp hlater
      exact (hnew.known e he).mem_ids
  · intro row hrow hid
    rw [seenIds_note] at hid
    refine (hnoted _).mpr ?_
    rcases List.mem_append.mp hid with hseen | hlater
    · exact .inl (h.seenNoted row hrow hseen)
    · exact .inr ⟨_, (mem_eventIds_iff hnew.known hrow).mp hlater, le_rfl⟩
  · intro hopen row e hrecorded
    rw [seenIds_note]
    exact List.mem_append_left _ (h.recorded hopen row e hrecorded)
  · rintro fetched ⟨⟩

end

theorem Sound.finishPoll (h : Sound screen sid n db t₀ t) :
    Sound screen sid n db t₀ (finishPoll screen sid t) := by
  unfold Tui.finishPoll
  cases hfetched : t.worker.fetched with
  | none => exact h
  | some fetched =>
      cases hhistory : getSessionHistoryEvents screen t.db sid with
      | some history => exact h.showNews (h.news hfetched hhistory)
      | none =>
          refine ⟨h.grown, h.known, h.nodup, h.kept, h.shown, h.finished, h.anchored, h.noted,
            h.covered, h.bounded, h.unseen, h.seen, h.seenNoted, h.recorded, ?_⟩
          rintro fetched ⟨⟩

/-! ### Runs -/

theorem Sound.step (hsize : 1 ≤ n ∧ n ≤ 2000) (h : Sound screen sid n db t₀ t)
    (action : TimelineAction) : Sound screen sid n db t₀ (timelineStep screen sid n t action) := by
  cases action with
  | appendEvent row => exact h.extends (extends_appendEvent sid t.db row)
  | appendAudit row => exact h.extends (extends_appendAudit sid t.db row)
  | loadOlder => exact h.loadOlder hsize
  | fetchEvents => exact h.fetchEvents
  | finishPoll => exact h.finishPoll

theorem Sound.run (hsize : 1 ≤ n ∧ n ≤ 2000) (h : Sound screen sid n db t₀ t)
    (actions : List TimelineAction) :
    Sound screen sid n db t₀ (actions.foldl (timelineStep screen sid n) t) := by
  induction actions generalizing t with
  | nil => exact h
  | cons action actions ih => exact ih (h.step hsize action)

def TimelineAction.isLoadOlder : TimelineAction → Bool
  | .loadOlder => true
  | _ => false

/-- `k` pages have been read of what was unread at the opening. -/
structure Paged (sid : String) (n : Nat) (db : TimelineDb) (t₀ : Timeline) (k : Nat)
    (t : Timeline) : Prop where
  length : (unreadRows sid db t.arena.events).length ≤
    (unreadRows sid db t₀.arena.events).length - n * k
  more : 1 ≤ k → t.arena.hasOlderEvents = true → unreadRows sid db t.arena.events ≠ []

theorem Paged.step (hsize : 1 ≤ n ∧ n ≤ 2000) (h : Sound screen sid n db t₀ t) {k : Nat}
    (hpaged : Paged sid n db t₀ k t) (action : TimelineAction) :
    Paged sid n db t₀ (k + if action.isLoadOlder then 1 else 0)
      (timelineStep screen sid n t action) := by
  cases action with
  | appendEvent row => exact ⟨hpaged.length, hpaged.more⟩
  | appendAudit row => exact ⟨hpaged.length, hpaged.more⟩
  | fetchEvents => exact ⟨hpaged.length, hpaged.more⟩
  | loadOlder =>
      show Paged sid n db t₀ (k + 1)
        { t with arena := loadOlderEvents screen sid n t.db t.arena }
      rcases loadOlderEvents_cases hsize h with ⟨hlast, hsame⟩ | ⟨hmore, hpage⟩
      · have hempty : unreadRows sid db t.arena.events = [] := by
          rw [List.eq_nil_iff_forall_not_mem]
          intro row hrow
          obtain ⟨hvisible, hunread⟩ := mem_unreadRows.mp hrow
          exact h.finished hlast row hvisible hunread
        rw [hsame]
        refine ⟨?_, ?_⟩
        · rw [hempty]
          exact Nat.zero_le _
        · rw [hlast]
          rintro - ⟨⟩
      · rw [hpage]
        refine ⟨?_, ?_⟩
        · show (unreadRows sid db (_ ++ _)).length ≤ _
          have := hpaged.length
          rw [unreadRows_page, length_unread, Nat.mul_succ]
          omega
        · intro _ hagain
          show unreadRows sid db (_ ++ _) ≠ []
          have := decide_eq_true_eq.mp hagain
          rw [unreadRows_page, Ne, ← List.length_eq_zero_iff, length_unread]
          omega
  | finishPoll =>
      have hsame : unreadRows sid db (Tui.finishPoll screen sid t).arena.events =
          unreadRows sid db t.arena.events := by
        unfold Tui.finishPoll
        cases hfetched : t.worker.fetched with
        | none => rfl
        | some fetched =>
            cases hhistory : getSessionHistoryEvents screen t.db sid with
            | none => rfl
            | some history =>
                refine Ascending.ext (ascending_unreadRows _ _ _) (ascending_unreadRows _ _ _) ?_
                intro row
                rw [mem_unreadRows, mem_unreadRows]
                exact and_congr_right fun hrow => (h.news hfetched hhistory).unread_iff _ hrow
      have hflag : (Tui.finishPoll screen sid t).arena.hasOlderEvents = t.arena.hasOlderEvents := by
        unfold Tui.finishPoll
        split
        · rfl
        · split <;> rfl
      refine ⟨?_, ?_⟩
      · show (unreadRows sid db (Tui.finishPoll screen sid t).arena.events).length ≤ _
        rw [hsame]
        exact hpaged.length
      · show 1 ≤ k → (Tui.finishPoll screen sid t).arena.hasOlderEvents = true →
          unreadRows sid db (Tui.finishPoll screen sid t).arena.events ≠ []
        rw [hsame, hflag]
        exact hpaged.more

theorem Paged.run (hsize : 1 ≤ n ∧ n ≤ 2000) (h : Sound screen sid n db t₀ t) {k : Nat}
    (hpaged : Paged sid n db t₀ k t) (actions : List TimelineAction) :
    Paged sid n db t₀ (k + actions.countP TimelineAction.isLoadOlder)
      (actions.foldl (timelineStep screen sid n) t) := by
  induction actions generalizing t k with
  | nil => exact hpaged
  | cons action actions ih =>
      have hnext := ih (h.step hsize action) (hpaged.step hsize h action)
      rw [List.countP_cons]
      rwa [Nat.add_comm (actions.countP _), ← Nat.add_assoc]

/-- Whatever is appended and polled meanwhile, nothing is shown twice, asking for older events
comes to an end, and then everything that was there at the opening is shown if and only if no
record was older than a row that the first page had left out. -/
theorem older_events_of_run {t₀ : Timeline} (h : openTimeline screen sid n db = some t₀)
    (actions : List TimelineAction) :
    (eventIds (actions.foldl (timelineStep screen sid n) t₀).arena.events).Nodup ∧
    (1 ≤ actions.countP TimelineAction.isLoadOlder →
      (unreadRows sid db t₀.arena.events).length ≤
        n * actions.countP TimelineAction.isLoadOlder →
      (actions.foldl (timelineStep screen sid n) t₀).arena.hasOlderEvents = false) ∧
    ((actions.foldl (timelineStep screen sid n) t₀).arena.hasOlderEvents = false →
      ((∀ row ∈ visibleRows db sid, row.eventId ∈
          eventIds (actions.foldl (timelineStep screen sid n) t₀).arena.events) ↔
        ∀ row ∈ visibleRows db sid, row ∉ firstPage sid n db →
          Unread t₀.arena.events row)) := by
  obtain ⟨history, hopened⟩ := opened_of_openTimeline h
  have hsound := hopened.sound.run hopened.pageSize actions
  have hpaged : Paged sid n db t₀ (0 + actions.countP TimelineAction.isLoadOlder) _ :=
    Paged.run hopened.pageSize hopened.sound (t := t₀) (k := 0)
      ⟨by simp, fun hzero => absurd hzero (by decide)⟩ actions
  rw [Nat.zero_add] at hpaged
  refine ⟨hsound.nodup, ?_, ?_⟩
  · intro hone hall
    cases hmore : (actions.foldl (timelineStep screen sid n) t₀).arena.hasOlderEvents with
    | false => rfl
    | true =>
        refine absurd ?_ (hpaged.more hone hmore)
        rw [← List.length_eq_zero_iff]
        have := hpaged.length
        omega
  · intro hlast
    refine forall_congr' fun row => forall_congr' fun hrow => ?_
    have hstored := hsound.grown.kept row (mem_visibleRows.mp hrow).1
    rw [mem_eventIds_iff hsound.known hstored, hsound.shown row hrow, or_iff_not_imp_left]
    exact imp_congr_right fun _ => and_iff_left (hsound.finished hlast row hrow)

/-- Pages of one event, and a message that comes between them. -/
theorem older_events_of_run_two :
    ∃ t₀, openTimeline Sample.screen "s1" 1 Sample.twoMessages = some t₀ ∧
      (eventIds ([TimelineAction.loadOlder, .fetchEvents,
        .appendEvent (Sample.row "e2" "message" "peer_visible" 0), .finishPoll, .fetchEvents,
        .finishPoll, .loadOlder].foldl
          (timelineStep Sample.screen "s1" 1) t₀).arena.events).Nodup := by
  obtain ⟨t₀, h⟩ := Sample.exists_openTimeline Sample.twoMessages (by decide)
  exact ⟨t₀, h, (older_events_of_run h _).1⟩

end Kin.Tui
