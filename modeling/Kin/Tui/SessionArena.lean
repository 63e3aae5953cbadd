import Kin.Lib.Run
import Kin.Tui.LocalState

/-!
The timeline of `kin/tui/widgets/session_arena.py`: what is shown when a session is opened,
the older pages that its owner asks for, and the worker that polls for what is new. A poll
reads the database twice, and the node may append to it at any time.
-/

namespace Kin.Tui

open Kin.Py Kin.Lib Kin.Audit

/-! ### The arena and its worker -/

def textsInOrder (a b : UiEvent) : Bool :=
  decide (a.createdAt < b.createdAt) ||
    (decide (a.createdAt = b.createdAt) && decide (a.eventId ≤ b.eventId))

/-- The key `(event_order is None, event_order or 0, created_at, event_id)`. -/
def inOrder (a b : UiEvent) : Bool :=
  match a.eventOrder, b.eventOrder with
  | some m, some n => decide (m < n) || (decide (m = n) && textsInOrder a b)
  | some _, none => true
  | none, some _ => false
  | none, none => textsInOrder a b

structure Arena where
  events : List UiEvent
  hasOlderEvents : Bool

/-- The locals of the polling loop; `fetched` is there between the two reads of a poll. -/
structure Worker where
  seenIds : List String
  maxOrder : Option Int
  maxCreated : Option String
  fetched : Option (List UiEvent)

structure Timeline where
  db : TimelineDb
  arena : Arena
  worker : Worker

/-- `event_order` of the events that have one. -/
def orders (events : List UiEvent) : List Int := events.filterMap UiEvent.eventOrder

def eventIds (events : List UiEvent) : List String := events.map UiEvent.eventId

def laterOrder : Option Int → Option Int → Option Int
  | none, o => o
  | some m, none => some m
  | some m, some o => some (max m o)

def laterText : Option String → String → Option String
  | none, t => if t = "" then none else some t
  | some m, t => some (if m < t then t else m)

def Worker.note (w : Worker) (e : UiEvent) : Worker :=
  { w with
    seenIds := w.seenIds ++ [e.eventId]
    maxOrder := laterOrder w.maxOrder e.eventOrder
    maxCreated := laterText w.maxCreated e.createdAt }

/-- The locals before the loop. Ids are not empty. -/
def startWorker (events : List UiEvent) : Worker :=
  events.foldl Worker.note ⟨[], none, none, none⟩

section

variable (screen : Screen) (sessionId : String) (pageSize : Nat)

/-- The events part of `load_arena_data`; `none` when a query raises. -/
def loadArenaData (db : TimelineDb) : Option Arena :=
  match getSessionEventsPage screen db sessionId pageSize none with
  | none => none
  | some (events, hasOlder) =>
      (getSessionHistoryEvents screen db sessionId).map fun history =>
        ⟨(events ++ history).mergeSort inOrder, hasOlder⟩

def openTimeline (db : TimelineDb) : Option Timeline :=
  (loadArenaData screen sessionId pageSize db).map fun arena =>
    ⟨db, arena, startWorker arena.events⟩

def loadOlderEvents (db : TimelineDb) (arena : Arena) : Arena :=
  match arena.hasOlderEvents, (orders arena.events).min? with
  | true, some oldest =>
      match getSessionEventsPage screen db sessionId pageSize (some oldest) with
      | none => arena
      | some (older, hasOlder) =>
          ⟨older.filter (fun e => !decide (e.eventId ∈ eventIds arena.events)) ++ arena.events,
            hasOlder⟩
  | _, _ => arena

/-- The first read of a poll. -/
def fetchEvents (db : TimelineDb) (w : Worker) : Worker :=
  match w.fetched with
  | some _ => w
  | none =>
      { w with
        fetched := some (getSessionEvents screen db sessionId w.seenIds w.maxOrder w.maxCreated) }

/-- What a poll shows: both reads, without what the worker has seen. -/
def newEvents (w : Worker) (fetched history : List UiEvent) : List UiEvent :=
  ((fetched ++ history.filter fun e => !decide (e.eventId ∈ w.seenIds)).mergeSort inOrder).filter
    fun e => !decide (e.eventId ∈ w.seenIds)

/-- The second read of a poll, and what follows it. When the read raises, the poll is given
up. -/
def finishPoll (t : Timeline) : Timeline :=
  match t.worker.fetched with
  | none => t
  | some fetched =>
      match getSessionHistoryEvents screen t.db sessionId with
      | none => { t with worker := { t.worker with fetched := none } }
      | some history =>
          let new := newEvents t.worker fetched history
          { t with
            arena := { t.arena with events := t.arena.events ++ new }
            worker := { new.foldl Worker.note t.worker with fetched := none } }

inductive TimelineAction
  /-- The node stores an event, in whatever session. -/
  | appendEvent (row : EventColumns)
  | appendAudit (row : AuditColumns)
  /-- The owner asks for older events. -/
  | loadOlder
  | fetchEvents
  | finishPoll

def timelineStep (t : Timeline) : TimelineAction → Timeline
  | .appendEvent row => { t with db := t.db.appendEvent row }
  | .appendAudit row => { t with db := t.db.appendAudit row }
  | .loadOlder => { t with arena := loadOlderEvents screen sessionId pageSize t.db t.arena }
  | .fetchEvents => { t with worker := fetchEvents screen sessionId t.db t.worker }
  | .finishPoll => finishPoll screen sessionId t

end

namespace Sample

def screen : Screen where
  exporter := Audit.Sample.exporter
  vaultOpen := true
  redactLone _ := .text ""
  auditOrder rows := rows
  auditOrder_perm rows := .refl rows

def row (id kind visibility : String) (order : Int) : EventColumns :=
  { Audit.Sample.eventRow order visibility "" with
    eventId := id, kind := kind, payloadJson := none }

def twoMessages : TimelineDb where
  sessionEvents := [row "e0" "message" "peer_visible" 0, row "e1" "message" "peer_visible" 1]
  auditEvents := []
  uniqueOrder := by decide
  uniqueIds := by decide

def noEvents : TimelineDb := ⟨[], [], .nil, .nil⟩

/-- A session without records can be opened. -/
theorem exists_openTimeline (db : TimelineDb) (h : (db.eventsOf "s1").filter isHistory = []) :
    ∃ t, openTimeline screen "s1" 1 db = some t := by
  have hnone : orderedRows db "s1" isHistory = [] := by
    rw [orderedRows, h]
    exact List.mergeSort_nil
  refine Option.isSome_iff_exists.mp ?_
  simp [openTimeline, loadArenaData, getSessionEventsPage, getSessionHistoryEvents, screen,
    hnone, historyEvents]

end Sample

end Kin.Tui
