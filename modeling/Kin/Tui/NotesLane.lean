import Kin.Tui.TimelineRuns

/-!
The notes lane. The owner's private notes are read by a query of their own, and the timeline
has none of them, by whichever of its reads an event has come.
-/

namespace Kin.Tui

open Kin.Py Kin.Lib Kin.Audit

variable {screen : Screen} {sid : String} {n : Nat} {db db' : TimelineDb} {row : EventColumns}
  {history : List UiEvent} {t₀ t : Timeline}

def NotesApart (sid : String) (t : Timeline) : Prop :=
  ∀ row ∈ t.db.eventsOf sid, isPrivateNote row = true → row.eventId ∉ eventIds t.arena.events

theorem not_isPrivateNote_of_isHistory (h : isHistory row = true) : isPrivateNote row = false := by
  rw [isHistory, decide_eq_true_eq] at h
  rw [isPrivateNote, decide_eq_false_iff_not]
  rintro ⟨-, hkind⟩
  have := h.2
  rw [hkind] at this
  revert this
  decide

theorem not_isPrivateNote_of_isVisible (h : isVisible row = true) : isPrivateNote row = false := by
  rw [isVisible, decide_eq_true_eq] at h
  rw [isPrivateNote, decide_eq_false_iff_not]
  exact fun hnote => h hnote.1

theorem NotesApart.extends (h : NotesApart sid t) (hsound : Sound screen sid n db t₀ t)
    (hdb : Extends sid t.db db') : NotesApart sid { t with db := db' } := by
  intro row hrow hnote hshown
  by_cases hold : row ∈ t.db.eventsOf sid
  · exact h row hold hnote hshown
  · obtain ⟨e, he, hid⟩ := mem_eventIds.mp hshown
    exact (hdb.newer row hrow hold).2 (hid ▸ (hsound.known e he).mem_ids)

theorem NotesApart.step (hsize : 1 ≤ n ∧ n ≤ 2000) (h : NotesApart sid t)
    (hsound : Sound screen sid n db t₀ t) (action : TimelineAction) :
    NotesApart sid (timelineStep screen sid n t action) := by
  cases action with
  | appendEvent row => exact h.extends hsound (extends_appendEvent sid t.db row)
  | appendAudit row => exact h.extends hsound (extends_appendAudit sid t.db row)
  | fetchEvents => exact h
  | loadOlder =>
      show NotesApart sid { t with arena := loadOlderEvents screen sid n t.db t.arena }
      rcases loadOlderEvents_cases hsize hsound with ⟨-, hsame⟩ | ⟨-, hpage⟩
      · rw [hsame]
        exact h
      · rw [hpage]
        intro row hrow hnote hshown
        rw [eventIds_append, List.mem_append] at hshown
        rcases hshown with holder | hshown
        · obtain ⟨e, he, hid⟩ := mem_eventIds.mp holder
          obtain ⟨row', hrow', rfl⟩ := List.mem_map.mp he
          rw [page_fst] at hrow'
          obtain ⟨hstored, hvisible⟩ :=
            mem_visibleRows.mp (mem_unreadRows.mp (List.mem_of_mem_drop hrow')).1
          have heq : row' = row := eq_of_eventId (hsound.grown.kept row' hstored) hrow hid
          rw [← heq, not_isPrivateNote_of_isVisible hvisible] at hnote
          cases hnote
        · exact h row hrow hnote hshown
  | finishPoll =>
      show NotesApart sid (Tui.finishPoll screen sid t)
      unfold Tui.finishPoll
      cases hfetched : t.worker.fetched with
      | none => exact h
      | some fetched =>
          cases hhistory : getSessionHistoryEvents screen t.db sid with
          | none => exact h
          | some history =>
              intro row hrow hnote hshown
              rw [eventIds_append, List.mem_append] at hshown
              rcases hshown with hshown | hlater
              · exact h row hrow hnote hshown
              · obtain ⟨e, he, hid⟩ := mem_eventIds.mp hlater
                rcases (mem_newEvents.mp he).1 with hfirst | hsecond
                · have hread := hsound.fetched fetched hfetched
                  have hshows := (hread.known e hfirst).showsRow hrow hid
                  have hvisible := (hread.newer e hfirst row hrow hshows).1
                  rw [not_isPrivateNote_of_isVisible hvisible] at hnote
                  cases hnote
                · obtain ⟨row', hrecorded⟩ := exists_recorded hhistory hsecond
                  have heq : row' = row :=
                    eq_of_eventId hrecorded.mem hrow (hrecorded.showsRow.1.symm.trans hid)
                  have hrecord := (mem_orderedRows.mp hrecorded.stored).2
                  rw [heq] at hrecord
                  rw [not_isPrivateNote_of_isHistory hrecord] at hnote
                  cases hnote

theorem Opened.notesApart (h : Opened screen sid n db history t) : NotesApart sid t := by
  intro row hrow hnote hshown
  rw [h.start] at hrow
  obtain ⟨e, he, hid⟩ := mem_eventIds.mp hshown
  rcases h.mem_events.mp he with ⟨row', hrow', rfl⟩ | hrecord
  · obtain ⟨hstored, hvisible⟩ := mem_visibleRows.mp (mem_visibleRows_of_firstPage hrow')
    have heq : row' = row := eq_of_eventId hstored hrow hid
    rw [← heq, not_isPrivateNote_of_isVisible hvisible] at hnote
    cases hnote
  · obtain ⟨row', hrecorded⟩ := exists_recorded h.records hrecord
    have heq : row' = row :=
      eq_of_eventId hrecorded.mem hrow (hrecorded.showsRow.1.symm.trans hid)
    have hhistory := (mem_orderedRows.mp hrecorded.stored).2
    rw [heq] at hhistory
    rw [not_isPrivateNote_of_isHistory hhistory] at hnote
    cases hnote

theorem NotesApart.run (hsize : 1 ≤ n ∧ n ≤ 2000) (h : NotesApart sid t)
    (hsound : Sound screen sid n db t₀ t) (actions : List TimelineAction) :
    NotesApart sid (actions.foldl (timelineStep screen sid n) t) := by
  induction actions generalizing t with
  | nil => exact h
  | cons action actions ih => exact ih (h.step hsize hsound action) (hsound.step hsize action)

/-- Whatever is stored, read and polled, what the notes lane has is not on the timeline. -/
theorem private_notes_of_run (h : openTimeline screen sid n db = some t₀)
    (actions : List TimelineAction) :
    ∀ note ∈ getPrivateNotes screen (actions.foldl (timelineStep screen sid n) t₀).db sid,
      note.eventId ∉
        eventIds (actions.foldl (timelineStep screen sid n) t₀).arena.events := by
  obtain ⟨history, hopened⟩ := opened_of_openTimeline h
  have hapart := hopened.notesApart.run hopened.pageSize hopened.sound actions
  intro note hnote
  rw [getPrivateNotes] at hnote
  split at hnote
  · obtain ⟨row, hrow, hview⟩ := List.mem_filterMap.mp hnote
    obtain ⟨hstored, hprivate⟩ := mem_orderedRows.mp hrow
    have hid : note.eventId = row.eventId := by
      unfold noteView at hview
      split at hview
      · split at hview
        · cases hview
          rfl
        · cases hview
      · cases hview
    rw [hid]
    exact hapart row hstored hprivate
  · cases hnote

/-- A note that is stored while the session is open. -/
theorem private_notes_of_run_note :
    ∃ t₀, openTimeline Sample.screen "s1" 1 Sample.twoMessages = some t₀ ∧
      ∀ note ∈ getPrivateNotes Sample.screen ([TimelineAction.fetchEvents,
          .appendEvent (Sample.row "e2" "private_note" "local_only" 0), .finishPoll].foldl
            (timelineStep Sample.screen "s1" 1) t₀).db "s1",
        note.eventId ∉ eventIds ([TimelineAction.fetchEvents,
          .appendEvent (Sample.row "e2" "private_note" "local_only" 0), .finishPoll].foldl
            (timelineStep Sample.screen "s1" 1) t₀).arena.events := by
  obtain ⟨t₀, h⟩ := Sample.exists_openTimeline Sample.twoMessages (by decide)
  exact ⟨t₀, h, private_notes_of_run h _⟩

end Kin.Tui
