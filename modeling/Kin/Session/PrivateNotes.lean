import Kin.Session.Invocation

/-!
Private notes and the agent. Notes live in the event log with visibility
`local_only`; reconstruction reads the whole log, and the history of a request is
the whole log again. Two databases that differ in notes alone are compared by the
requests they lead to.
-/

namespace Kin.Session

open Kin.Py Kin.Lib Kin.Schemas Kin.Storage Kin.Audit Kin.Transport

/-! ### Databases up to notes -/

def noteAs (payload : Option Json) (event : SessionEventRow) : SessionEventRow :=
  if event.visibility = .localOnly then { event with payload } else event

/-- The database with one payload in place of every local-only one. -/
def withNotes (db : Db) (payload : Option Json) : Db :=
  { db with sessionEvents := db.sessionEvents.map (noteAs payload) }

/-- The databases agree on everything but the payloads of local-only events. -/
def SameButNotes (db db' : Db) : Prop := withNotes db' none = withNotes db none

theorem noteAs_noteAs (payload payload' : Option Json) (event : SessionEventRow) :
    noteAs payload' (noteAs payload event) = noteAs payload' event := by
  unfold noteAs
  by_cases h : event.visibility = .localOnly
  · simp [h]
  · simp [h]

theorem sameButNotes_withNotes (db : Db) (payload : Option Json) :
    SameButNotes db (withNotes db payload) := by
  simp only [SameButNotes, withNotes, List.map_map]
  congr 1
  apply List.map_congr_left
  intro event _
  exact noteAs_noteAs payload none event

theorem noteAs_of_ne (payload : Option Json) {event : SessionEventRow}
    (h : event.visibility ≠ .localOnly) : noteAs payload event = event := if_neg h

@[simp] theorem noteAs_visibility (payload : Option Json) (event : SessionEventRow) :
    (noteAs payload event).visibility = event.visibility := by
  unfold noteAs
  split <;> rfl

@[simp] theorem noteAs_sessionId (payload : Option Json) (event : SessionEventRow) :
    (noteAs payload event).sessionId = event.sessionId := by
  unfold noteAs
  split <;> rfl

@[simp] theorem countsAsTurn_noteAs (payload : Option Json) (event : SessionEventRow) :
    countsAsTurn (noteAs payload event) = countsAsTurn event := by
  unfold noteAs
  split <;> rfl

theorem eventsOf_withNotes (db : Db) (payload : Option Json) (sid : String) :
    (withNotes db payload).eventsOf sid = (db.eventsOf sid).map (noteAs payload) := by
  simp only [Db.eventsOf, withNotes, List.filter_map]
  congr 1
  apply List.filter_congr
  intro event _
  simp

/-! ### What does not depend on notes -/

theorem invocation?_withNotes (sender : Sender) (db : Db) (payload : Option Json) (sid : String) :
    invocation? sender (withNotes db payload) sid = invocation? sender db sid := by
  have hturn : ∀ row : SessionRow,
      (stateOf sender.ext row ((withNotes db payload).eventsOf sid)).currentTurn =
        (stateOf sender.ext row (db.eventsOf sid)).currentTurn := by
    intro row
    refine congrArg Int.ofNat ?_
    rw [eventsOf_withNotes, List.countP_map]
    exact List.countP_congr fun event _ => by simp
  have hsession : (withNotes db payload).session? sid = db.session? sid := rfl
  unfold invocation?
  rw [hsession]
  cases db.session? sid with
  | none => rfl
  | some row =>
      simp only [Option.bind_eq_bind, Option.bind_some, hturn row]
      rfl

theorem invocation?_of_sameButNotes (sender : Sender) {db db' : Db} (h : SameButNotes db db')
    (sid : String) : invocation? sender db' sid = invocation? sender db sid := by
  rw [← invocation?_withNotes sender db' none sid, h, invocation?_withNotes]

theorem inputItems_of_sameButNotes {db db' : Db} (h : SameButNotes db db') (ext : Externals)
    (sid : String) : inputItems ext db' sid = inputItems ext db sid := by
  have hartifacts : (withNotes db' none).artifacts = (withNotes db none).artifacts := by rw [h]
  change db'.artifacts = db.artifacts at hartifacts
  unfold inputItems loadArtifactBytes
  rw [hartifacts]

def historyOf (ext : Externals) (events : List SessionEventRow) : List HistoryItem :=
  events.map fun event => historyItem ext (eventEntry ext event)

theorem historyItems_stateOf (ext : Externals) (row : SessionRow) (events : List SessionEventRow) :
    historyItems ext (stateOf ext row events).events = historyOf ext events := by
  change (events.map (eventEntry ext)).map (historyItem ext) = _
  rw [List.map_map]
  rfl

/-- The history in the request, when the checks are passed. -/
theorem history_invokedRequest? {sender : Sender} {db : Db} {sid : String} {i : Invocation}
    (readCard : AgentRow → CardView) (h : invocation? sender db sid = some i) :
    (invokedRequest? sender readCard db sid).map (·.history) =
      some (historyOf sender.ext (db.eventsOf sid)) := by
  rw [invokedRequest?, h, Option.map_some, Option.map_some, adapterRequest, historyItems_stateOf]

/-! ### The history of a log -/

section History

variable {ext : Externals}

/-- A note with an object as its payload is told by the text of the object. -/
theorem historyItem_note {event : SessionEventRow} (h : event.visibility = .localOnly)
    (fields : Fields) :
    historyItem ext (eventEntry ext (noteAs (some (.obj fields)) event)) =
      ⟨event.kind.value, event.actorUsername, .text (ext.strOf (.obj fields))⟩ := by
  rw [noteAs, if_pos h]
  rfl

/-- Two objects with different texts in the notes make two histories, if there is
a note. -/
theorem historyOf_notes_ne {p q : Fields} (hpq : ext.strOf (.obj p) ≠ ext.strOf (.obj q))
    {events : List SessionEventRow} (hnote : ∃ event ∈ events, event.visibility = .localOnly) :
    historyOf ext (events.map (noteAs (some (.obj p)))) ≠
      historyOf ext (events.map (noteAs (some (.obj q)))) := by
  intro heq
  obtain ⟨event, hmem, hlocal⟩ := hnote
  simp only [historyOf, List.map_map] at heq
  have hitem := List.map_inj_left.mp heq event hmem
  simp only [Function.comp_apply, historyItem_note hlocal, HistoryItem.mk.injEq, true_and,
    PyStr.text.injEq] at hitem
  exact hpq hitem

end History

/-! ### Requests -/

section Requests

variable {sender : Sender} {readCard : AgentRow → CardView} {db : Db} {sid : String}

/-- No database that differs in notes alone leads to another request. -/
def NotesPrivate (sender : Sender) (readCard : AgentRow → CardView) (db : Db) (sid : String) :
    Prop :=
  ∀ db', SameButNotes db db' →
    invokedRequest? sender readCard db' sid = invokedRequest? sender readCard db sid

/-- The turn passes its checks, and the session has a local-only event. -/
def exposesNotes (sender : Sender) (db : Db) (sid : String) : Bool :=
  (invocation? sender db sid).isSome &&
    (db.eventsOf sid).any fun event => decide (event.visibility = .localOnly)

/-- Without notes in its session a turn reads the same log. -/
theorem eventsOf_of_sameButNotes {db' : Db} (h : SameButNotes db db')
    (hno : ∀ event ∈ db.eventsOf sid, event.visibility ≠ .localOnly) :
    db'.eventsOf sid = db.eventsOf sid := by
  have hmap : (db'.eventsOf sid).map (noteAs none) = (db.eventsOf sid).map (noteAs none) := by
    rw [← eventsOf_withNotes, h, eventsOf_withNotes]
  have hself : ∀ events : List SessionEventRow,
      (∀ event ∈ events, event.visibility ≠ .localOnly) → events.map (noteAs none) = events := by
    intro events hevents
    exact (List.map_congr_left fun event hmem => noteAs_of_ne none (hevents event hmem)).trans
      (List.map_id' events)
  rw [hself _ hno] at hmap
  rw [← hmap]
  refine (hself _ fun event hmem => ?_).symm
  have himage : noteAs none event ∈ db.eventsOf sid := by
    rw [← hmap]
    exact List.mem_map_of_mem hmem
  rw [← noteAs_visibility none event]
  exact hno _ himage

theorem notesPrivate_of_not_exposes (h : exposesNotes sender db sid = false) :
    NotesPrivate sender readCard db sid := by
  intro db' hsame
  unfold invokedRequest?
  rw [invocation?_of_sameButNotes sender hsame sid]
  cases hi : invocation? sender db sid with
  | none => rfl
  | some i =>
  simp only [exposesNotes, hi, Option.isSome_some, Bool.true_and, List.any_eq_false,
    decide_eq_true_eq] at h
  simp only [adapterRequest, inputItems_of_sameButNotes hsame, eventsOf_of_sameButNotes hsame h]

/-- For every database, session, owner and reading of cards: no change of notes
changes what the adapter is asked, if and only if the turn stops before its
request or the session has no local-only event. -/
theorem notes_private_iff (hstr : ∃ p q, sender.ext.strOf (.obj p) ≠ sender.ext.strOf (.obj q)) :
    NotesPrivate sender readCard db sid ↔ exposesNotes sender db sid = false := by
  refine ⟨fun hprivate => ?_, notesPrivate_of_not_exposes⟩
  by_contra hexposes
  simp only [exposesNotes, Bool.not_eq_false, Bool.and_eq_true, List.any_eq_true,
    decide_eq_true_eq] at hexposes
  obtain ⟨hready, hnote⟩ := hexposes
  obtain ⟨i, hi⟩ := Option.isSome_iff_exists.mp hready
  obtain ⟨p, q, hpq⟩ := hstr
  have hhistory : ∀ fields : Fields,
      (invokedRequest? sender readCard db sid).map (·.history) =
        some (historyOf sender.ext ((db.eventsOf sid).map (noteAs (some (.obj fields))))) := by
    intro fields
    rw [← hprivate _ (sameButNotes_withNotes db (some (.obj fields))),
      history_invokedRequest? readCard ((invocation?_withNotes sender db _ sid).trans hi),
      eventsOf_withNotes]
  exact historyOf_notes_ne hpq hnote (Option.some.inj ((hhistory p).symm.trans (hhistory q)))

end Requests

namespace Sample

open Kin.Transport.Sample

/-- A text for the empty object, another one for the rest. -/
def noteTexts : Externals :=
  { externals with
    strOf := fun v =>
      match v with
      | .obj [] => "empty"
      | _ => "value" }

def owner : Sender := { sender "bob" with ext := noteTexts }

/-- `bob`, whose agent is `bot`, has a request of `alice`. -/
def requestedDb : Db :=
  (ingestEnvelope context
    (Db.fresh (some "bob") [] [⟨"bot", true, "available", none⟩])
    (envelope "s1" "alice" "scout" 1 .taskRequest request)).db

/-- `bob` wrote a private note. -/
def notedDb : Db :=
  (appendSessionEvent noteTexts requestedDb
    { sessionId := "s1", actorUsername := "bob", actorAgentId := none,
      kind := .internal .privateNote, visibility := .localOnly,
      payload := some (.obj [(.text "content", .text "ask for less")]), createdAt := time }).1

end Sample

/-- Without a note there is nothing to tell. -/
theorem notes_private_unwritten :
    (invocation? Sample.owner Sample.requestedDb "s1").isSome = true ∧
      NotesPrivate Sample.owner (fun _ => {}) Sample.requestedDb "s1" := by
  refine ⟨by decide +kernel, (notes_private_iff ?_).mpr (by decide +kernel)⟩
  exact ⟨[], [(.text "content", .null)], by decide⟩

/-- What the note says is in the history the adapter gets. -/
theorem private_note_told : ¬NotesPrivate Sample.owner (fun _ => {}) Sample.notedDb "s1" := by
  intro hprivate
  have hsame := hprivate (withNotes Sample.notedDb (some (.obj [])))
    (sameButNotes_withNotes _ _)
  have hcontent := congrArg
    (fun request => request.map fun r : AdapterRequest => r.history.map (·.content)) hsame
  exact absurd hcontent (by decide +kernel)

end Kin.Session
