import Kin.Audit.Export
import Kin.Lib.Pages
import Kin.Tui.Redaction

/-!
The timeline queries of `kin/tui/local_state.py`: one page of a session's events, everything
after a cursor, and the owner's own checkpoints, decisions and outcomes. The rows are those of
the two append-only tables.
-/

namespace Kin.Tui

open Kin.Py Kin.Lib Kin.Schemas Kin.Audit

/-! ### Tables -/

/-- The columns that are read of `audit_events`. -/
structure AuditColumns where
  auditId : String
  sessionId : Option String
  category : String
  actorUsername : Option String
  createdAt : String
  deriving DecidableEq

/-- The two tables. Ids are uuids, so that the two tables share none. -/
structure TimelineDb where
  sessionEvents : List EventColumns
  auditEvents : List AuditColumns
  uniqueOrder : (sessionEvents.map fun row => (row.sessionId, row.eventOrder)).Nodup
  uniqueIds : (sessionEvents.map EventColumns.eventId ++
    auditEvents.map AuditColumns.auditId).Nodup

def TimelineDb.ids (db : TimelineDb) : List String :=
  db.sessionEvents.map EventColumns.eventId ++ db.auditEvents.map AuditColumns.auditId

def TimelineDb.eventsOf (db : TimelineDb) (sessionId : String) : List EventColumns :=
  db.sessionEvents.filter fun row => decide (row.sessionId = sessionId)

/-- `COALESCE(MAX(event_order), -1) + 1`. -/
def TimelineDb.nextOrder (db : TimelineDb) (sessionId : String) : Int :=
  match ((db.eventsOf sessionId).map EventColumns.eventOrder).max? with
  | none => 0
  | some m => m + 1

theorem mem_eventsOf {db : TimelineDb} {sessionId : String} {row : EventColumns} :
    row ∈ db.eventsOf sessionId ↔ row ∈ db.sessionEvents ∧ row.sessionId = sessionId := by
  simp [TimelineDb.eventsOf]

theorem eventOrder_lt_nextOrder {db : TimelineDb} {sessionId : String} {row : EventColumns}
    (h : row ∈ db.eventsOf sessionId) : row.eventOrder < db.nextOrder sessionId := by
  unfold TimelineDb.nextOrder
  cases hmax : ((db.eventsOf sessionId).map EventColumns.eventOrder).max? with
  | none =>
      rw [List.max?_eq_none_iff, List.map_eq_nil_iff] at hmax
      rw [hmax] at h
      cases h
  | some m =>
      have hle := (List.max?_eq_some_iff.mp hmax).2 row.eventOrder (List.mem_map_of_mem h)
      show row.eventOrder < m + 1
      omega

def TimelineDb.numbered (db : TimelineDb) (row : EventColumns) : EventColumns :=
  { row with eventOrder := db.nextOrder row.sessionId }

theorem TimelineDb.numbered_fresh (db : TimelineDb) (row : EventColumns) :
    (row.sessionId, db.nextOrder row.sessionId) ∉
      db.sessionEvents.map fun row => (row.sessionId, row.eventOrder) := by
  intro hmem
  obtain ⟨other, hother, heq⟩ := List.mem_map.mp hmem
  have hsession : other.sessionId = row.sessionId := congrArg Prod.fst heq
  have horder : other.eventOrder = db.nextOrder row.sessionId := congrArg Prod.snd heq
  have hlt := eventOrder_lt_nextOrder (mem_eventsOf.mpr ⟨hother, hsession⟩)
  omega

/-- `INSERT INTO session_events`, when the id is a new one. -/
def TimelineDb.appendEvent (db : TimelineDb) (row : EventColumns) : TimelineDb :=
  if h : row.eventId ∉ db.ids then
    { db with
      sessionEvents := db.sessionEvents ++ [db.numbered row]
      uniqueOrder := by
        rw [List.map_append, List.map_singleton, ← List.concat_eq_append]
        exact db.uniqueOrder.concat (db.numbered_fresh row)
      uniqueIds := by
        have hperm : ((db.sessionEvents ++ [db.numbered row]).map EventColumns.eventId ++
            db.auditEvents.map AuditColumns.auditId).Perm (row.eventId :: db.ids) := by
          rw [List.map_append, List.append_assoc]
          exact List.perm_middle
        exact hperm.nodup_iff.mpr (List.nodup_cons.mpr ⟨h, db.uniqueIds⟩) }
  else db

/-- `INSERT INTO audit_events`, when the id is a new one. -/
def TimelineDb.appendAudit (db : TimelineDb) (row : AuditColumns) : TimelineDb :=
  if h : row.auditId ∉ db.ids then
    { db with
      auditEvents := db.auditEvents ++ [row]
      uniqueIds := by
        rw [List.map_append, List.map_singleton, ← List.append_assoc, ← List.concat_eq_append]
        exact db.uniqueIds.concat h }
  else db

/-! ### Events as they are shown -/

inductive PresentationClass
  | message
  | activity
  | checkpoint
  | artifact
  | approval
  | stateTransition
  | security
  deriving DecidableEq, Repr

def eventKindMapping : EventKind → PresentationClass
  | .message .taskRequest => .message
  | .message .acceptance => .stateTransition
  | .message .decline => .stateTransition
  | .message .clarification => .message
  | .message .plan => .activity
  | .message .proposal => .message
  | .message .counterproposal => .message
  | .message .finding => .activity
  | .message .question => .message
  | .message .answer => .message
  | .message .artifactOffer => .artifact
  | .message .artifactAccept => .artifact
  | .message .approvalRequest => .approval
  | .message .approvalDecision => .approval
  | .message .statusEvent => .activity
  | .message .finalResult => .stateTransition
  | .message .cancel => .stateTransition
  | .message .participantChanged => .stateTransition
  | .internal .message => .message
  | .internal .envelopeReceived => .activity
  | .internal .publicMsg => .message
  | .internal .privateNote => .activity
  | .internal .outboundEnvelopeQueued => .activity
  | .internal .activity => .activity
  | .internal .adapterError => .security
  | .internal .checkpoint => .checkpoint
  | .internal .decision => .checkpoint
  | .internal .outcome => .stateTransition
  | .internal .rerunCreated => .activity

def auditCategoryMapping : List (String × PresentationClass) :=
  [("security_rejection", .security), ("session_status_rejected", .security),
   ("adapter_error", .security), ("duplicate_delivery", .activity),
   ("session_status_updated", .stateTransition), ("budget_exhausted", .stateTransition),
   ("approval_request", .approval), ("approval_decision", .approval),
   ("relay_poll_error", .activity), ("state_transition", .stateTransition),
   ("ColonCommand", .activity), ("fresh_authority_rerun", .stateTransition),
   ("outcome_card_error", .security)]

def auditCategory? (category : String) : Option PresentationClass :=
  (auditCategoryMapping.find? fun entry => decide (entry.1 = category)).map Prod.snd

def internalKinds : List InternalEventKind :=
  [.message, .envelopeReceived, .publicMsg, .privateNote, .outboundEnvelopeQueued, .activity,
   .adapterError, .checkpoint, .decision, .outcome, .rerunCreated]

/-- `MessageKind(kind)`, then `InternalEventKind(kind)`. -/
def kindOf? (kind : String) : Option EventKind :=
  match MessageKind.ofText kind with
  | some k => some (.message k)
  | none => (internalKinds.find? fun k => decide (k.value = kind)).map .internal

/-- `map_event_kind_to_presentation_class` of a text; `none` is its `ValueError`. -/
def mapEventKindToPresentationClass (kind : String) : Option PresentationClass :=
  match auditCategory? kind with
  | some presentation => some presentation
  | none => (kindOf? kind).map eventKindMapping

/-- An unrecognised kind is shown as a matter of security. -/
def presentationOf (kind : String) : PresentationClass :=
  (mapEventKindToPresentationClass kind).getD .security

/-- `UiEvent`; `content` is `null` where the source has `None`. -/
structure UiEvent where
  eventId : String
  sessionId : String
  kind : String
  createdAt : String
  actorUsername : Option String
  presentationClass : PresentationClass
  eventOrder : Option Int
  content : Json

/-- What the queries take from outside: the vault, whether the keychain gave its key, the
scrubbing of texts that are no Unicode, and the order in which SQLite returns the rows of a
query without `ORDER BY`. -/
structure Screen where
  exporter : Exporter
  vaultOpen : Bool
  redactLone : List Nat → PyStr
  auditOrder : List AuditColumns → List AuditColumns
  auditOrder_perm : ∀ rows, (auditOrder rows).Perm rows

section

variable (screen : Screen)

/-- `redact_ui_text` of a Python text. -/
def redacted : PyStr → PyStr
  | .text s => .text (redactUiText (some s))
  | .lone cs => screen.redactLone cs

/-- `data.get(k) or ...` over several keys. -/
def firstOf (fields : Fields) : List String → Json
  | [] => .null
  | [key] => fields.getD key .null
  | key :: keys => Fields.firstTruthy (fields.getD key .null) (firstOf fields keys)

/-- The stored column, decrypted if that works and gives anything. -/
def readableText (payloadJson : String) : String :=
  if screen.vaultOpen then
    match decryptField screen.exporter payloadJson with
    | .ok decrypted => if decrypted = "" then payloadJson else decrypted
    | .error _ => payloadJson
  else payloadJson

def parsePayloadContent (payloadJson : Option String) : Json :=
  match payloadJson.filter (· ≠ "") with
  | none => .null
  | some stored =>
      match screen.exporter.ext.loads (readableText screen stored) with
      | none => .null
      | some data =>
          let rawText :=
            match data with
            | .obj fields =>
                firstOf fields ["message", "question", "reason", "content", "goal", "outcome"]
            | .str s => .str s
            | _ => .null
          match rawText with
          | .str s => if (Json.str s).truthy then .str (redacted screen s) else .null
          | _ => .null

/-- A row of `session_events` on the timeline. -/
def uiEvent (row : EventColumns) : UiEvent where
  eventId := row.eventId
  sessionId := row.sessionId
  kind := row.kind
  createdAt := row.createdAt
  actorUsername := some row.actorUsername
  presentationClass := presentationOf row.kind
  eventOrder := some row.eventOrder
  content := parsePayloadContent screen row.payloadJson

/-- A row of `audit_events` on the timeline: `UiEvent.from_audit_event` and its fallback. -/
def auditUiEvent (sessionId : String) (row : AuditColumns) : UiEvent where
  eventId := row.auditId
  sessionId := (row.sessionId.filter (· ≠ "")).getD sessionId
  kind := row.category
  createdAt := row.createdAt
  actorUsername := row.actorUsername
  presentationClass := (auditCategory? row.category).getD .security
  eventOrder := none
  content := .null

/-! ### Queries -/

/-- `COALESCE(visibility, 'peer_visible') != 'local_only'`. -/
def isVisible (row : EventColumns) : Bool := decide (row.visibility ≠ "local_only")

def historyKinds : List String :=
  [InternalEventKind.checkpoint.value, InternalEventKind.decision.value,
   InternalEventKind.outcome.value]

/-- The owner's own checkpoints, decisions and outcomes. -/
def isHistory (row : EventColumns) : Bool :=
  decide (row.visibility = "local_only" ∧ row.kind ∈ historyKinds)

/-- `ORDER BY event_order ASC` of the rows of a session that a query wants. -/
def orderedRows (db : TimelineDb) (sessionId : String) (wanted : EventColumns → Bool) :
    List EventColumns :=
  orderBy EventColumns.eventOrder ((db.eventsOf sessionId).filter wanted)

def visibleRows (db : TimelineDb) (sessionId : String) : List EventColumns :=
  orderedRows db sessionId isVisible

/-- `get_session_events_page`; `none` is its `ValueError`. -/
def getSessionEventsPage (db : TimelineDb) (sessionId : String) (pageSize : Nat)
    (beforeEventOrder : Option Int) : Option (List UiEvent × Bool) :=
  if 1 ≤ pageSize ∧ pageSize ≤ 2000 then
    let (rows, hasOlder) := page pageSize
      (below EventColumns.eventOrder beforeEventOrder (visibleRows db sessionId))
    some (rows.map (uiEvent screen), hasOlder)
  else none

def mirrorsEvent (category : String) : Bool := "session_event_".toList.isPrefixOf category.toList

def getSessionEvents (db : TimelineDb) (sessionId : String) (seenEventIds : List String)
    (afterEventOrder : Option Int) (afterCreatedAt : Option String) : List UiEvent :=
  let rows := (visibleRows db sessionId).filter fun row =>
    afterEventOrder.all fun k => decide (k < row.eventOrder)
  let audits := screen.auditOrder <| db.auditEvents.filter fun row =>
    decide (row.sessionId = some sessionId) &&
      afterCreatedAt.all fun t => decide (t ≤ row.createdAt)
  let events :=
    (rows.filter fun row => !decide (row.eventId ∈ seenEventIds)).map (uiEvent screen) ++
      (audits.filter fun row => !mirrorsEvent row.category &&
        !decide (row.auditId ∈ seenEventIds)).map (auditUiEvent sessionId)
  events.mergeSort fun a b => decide (a.createdAt ≤ b.createdAt)

/-- `json.loads(decrypt_field(vault_key, payload_json) or "{}")`; `none` when it raises. -/
def historyPayload (payloadJson : Option String) : Option Json :=
  match decryptColumn screen.exporter payloadJson with
  | .error _ => none
  | .ok decrypted =>
      match decrypted.filter (· ≠ "") with
      | none => some (.obj [])
      | some text => screen.exporter.ext.loads text

/-- One row of `get_session_history_events`: nothing when its payload does not load, and
`none` when the payload is no dictionary, whose `get` raises. -/
def historyEvent (row : EventColumns) : Option (Option UiEvent) :=
  match historyPayload screen row.payloadJson with
  | none => some none
  | some (.obj fields) =>
      some (some { uiEvent screen row with
        content := Fields.firstTruthy (firstOf fields ["content", "summary", "label"])
          (.text "") })
  | some _ => none

/-- The loop over the rows; `none` when a row raises. -/
def historyEvents : List EventColumns → Option (List UiEvent)
  | [] => some []
  | row :: rows =>
      match historyEvent screen row with
      | none => none
      | some none => historyEvents rows
      | some (some event) => (historyEvents rows).map (event :: ·)

def getSessionHistoryEvents (db : TimelineDb) (sessionId : String) : Option (List UiEvent) :=
  if screen.vaultOpen then historyEvents screen (orderedRows db sessionId isHistory) else some []

structure PrivateNoteView where
  eventId : String
  sessionId : String
  actorUsername : String
  noteText : PyStr
  createdAt : String
  eventOrder : Int

def isPrivateNote (row : EventColumns) : Bool :=
  decide (row.visibility = "local_only" ∧ row.kind = InternalEventKind.privateNote.value)

/-- One row of `get_private_notes`; a row that does not read is left out. -/
def noteView (row : EventColumns) : Option PrivateNoteView :=
  match historyPayload screen row.payloadJson with
  | some (.obj fields) =>
      match Fields.getD fields "content" .null with
      | .str note => some ⟨row.eventId, row.sessionId, row.actorUsername, note, row.createdAt,
          row.eventOrder⟩
      | _ => none
  | _ => none

def getPrivateNotes (db : TimelineDb) (sessionId : String) : List PrivateNoteView :=
  if screen.vaultOpen then
    (orderedRows db sessionId isPrivateNote).filterMap (noteView screen)
  else []

end

/-! ### The rows of a session -/

variable {db db' : TimelineDb} {sid : String} {row row' : EventColumns}
  {wanted : EventColumns → Bool}

theorem mem_orderedRows :
    row ∈ orderedRows db sid wanted ↔ row ∈ db.eventsOf sid ∧ wanted row = true := by
  rw [orderedRows, mem_orderBy, List.mem_filter]

theorem mem_visibleRows :
    row ∈ visibleRows db sid ↔ row ∈ db.eventsOf sid ∧ isVisible row = true := mem_orderedRows

theorem nodup_eventOrder (db : TimelineDb) (sid : String) :
    ((db.eventsOf sid).map EventColumns.eventOrder).Nodup := by
  have hkeys : ((db.eventsOf sid).map fun row => (row.sessionId, row.eventOrder)).Nodup :=
    db.uniqueOrder.sublist (List.filter_sublist.map _)
  rw [List.Nodup, List.pairwise_map] at hkeys ⊢
  refine hkeys.imp_of_mem ?_
  intro a b ha hb hne heq
  have ha' := (mem_eventsOf.mp ha).2
  have hb' := (mem_eventsOf.mp hb).2
  exact hne (Prod.ext (ha'.trans hb'.symm) heq)

/-- A query without a cursor gives the rows it wants in the order of the log. -/
theorem ascending_orderedRows (db : TimelineDb) (sid : String) (wanted : EventColumns → Bool) :
    Ascending EventColumns.eventOrder (orderedRows db sid wanted) :=
  pairwise_orderBy ((nodup_eventOrder db sid).sublist (List.filter_sublist.map _))

theorem eq_of_eventOrder (h : row ∈ db.eventsOf sid) (h' : row' ∈ db.eventsOf sid)
    (heq : row.eventOrder = row'.eventOrder) : row = row' :=
  List.inj_on_of_nodup_map (nodup_eventOrder db sid) h h' heq

theorem eq_of_eventId (h : row ∈ db.eventsOf sid) (h' : row' ∈ db.eventsOf sid)
    (heq : row.eventId = row'.eventId) : row = row' :=
  List.inj_on_of_nodup_map (List.nodup_append.mp db.uniqueIds).1 (mem_eventsOf.mp h).1
    (mem_eventsOf.mp h').1 heq

theorem eventId_ne_auditId {audit : AuditColumns} (h : row ∈ db.eventsOf sid)
    (haudit : audit ∈ db.auditEvents) : row.eventId ≠ audit.auditId :=
  (List.nodup_append.mp db.uniqueIds).2.2 _ (List.mem_map_of_mem (mem_eventsOf.mp h).1) _
    (List.mem_map_of_mem haudit)

/-! ### What a query shows of a row -/

def ShowsRow (row : EventColumns) (e : UiEvent) : Prop :=
  e.eventId = row.eventId ∧ e.eventOrder = some row.eventOrder

theorem showsRow_uiEvent (screen : Screen) (row : EventColumns) :
    ShowsRow row (uiEvent screen row) := ⟨rfl, rfl⟩

theorem showsRow_historyEvent {screen : Screen} {e : UiEvent}
    (h : historyEvent screen row = some (some e)) : ShowsRow row e := by
  unfold historyEvent at h
  split at h
  · cases h
  · cases h
    exact ⟨rfl, rfl⟩
  · cases h

/-- What the loop shows, one event for each row that loads. -/
theorem historyEvents_eq_some {screen : Screen} {rows : List EventColumns} {events : List UiEvent}
    (h : historyEvents screen rows = some events) :
    events = rows.filterMap fun row => (historyEvent screen row).join := by
  induction rows generalizing events with
  | nil => exact (Option.some.inj h).symm
  | cons row rows ih =>
      rw [historyEvents] at h
      split at h
      · cases h
      · rename_i hnone
        rw [List.filterMap_cons_none (by rw [hnone]; rfl)]
        exact ih h
      · rename_i event hevent
        obtain ⟨rest, hrest, rfl⟩ := Option.map_eq_some_iff.mp h
        rw [List.filterMap_cons_some (by rw [hevent]; rfl), ih hrest]

theorem mem_getSessionHistoryEvents {screen : Screen} {events : List UiEvent}
    (h : getSessionHistoryEvents screen db sid = some events) {e : UiEvent} (he : e ∈ events) :
    ∃ row ∈ orderedRows db sid isHistory, historyEvent screen row = some (some e) := by
  unfold getSessionHistoryEvents at h
  split at h
  · rw [historyEvents_eq_some h] at he
    obtain ⟨row, hrow, hevent⟩ := List.mem_filterMap.mp he
    exact ⟨row, hrow, by simpa [Option.join_eq_some_iff] using hevent⟩
  · obtain rfl := Option.some.inj h
    cases he

/-! ### Appending -/

/-- `db'` has what `db` has, and its other rows of the session are newer. -/
structure Extends (sid : String) (db db' : TimelineDb) : Prop where
  kept : ∀ row ∈ db.eventsOf sid, row ∈ db'.eventsOf sid
  newer : ∀ row ∈ db'.eventsOf sid, row ∉ db.eventsOf sid →
    db.nextOrder sid ≤ row.eventOrder ∧ row.eventId ∉ db.ids
  audits : ∀ row ∈ db.auditEvents, row ∈ db'.auditEvents
  ids : ∀ id ∈ db.ids, id ∈ db'.ids

theorem Extends.refl (sid : String) (db : TimelineDb) : Extends sid db db where
  kept _ h := h
  newer _ h hnew := absurd h hnew
  audits _ h := h
  ids _ h := h

theorem nextOrder_le_of_lt {k : Int} (hempty : db.eventsOf sid = [] → 0 ≤ k)
    (h : ∀ row ∈ db.eventsOf sid, row.eventOrder < k) : db.nextOrder sid ≤ k := by
  unfold TimelineDb.nextOrder
  cases hmax : ((db.eventsOf sid).map EventColumns.eventOrder).max? with
  | none =>
      rw [List.max?_eq_none_iff, List.map_eq_nil_iff] at hmax
      exact hempty hmax
  | some m =>
      obtain ⟨row, hrow, rfl⟩ := List.mem_map.mp (List.max?_eq_some_iff.mp hmax).1
      have := h row hrow
      show row.eventOrder + 1 ≤ k
      omega

theorem Extends.nextOrder_le (h : Extends sid db db') : db.nextOrder sid ≤ db'.nextOrder sid := by
  refine nextOrder_le_of_lt ?_ fun row hrow => eventOrder_lt_nextOrder (h.kept row hrow)
  intro hempty
  have hzero : db.nextOrder sid = 0 := by
    rw [TimelineDb.nextOrder, hempty]
    rfl
  unfold TimelineDb.nextOrder
  cases hmax : ((db'.eventsOf sid).map EventColumns.eventOrder).max? with
  | none => exact le_rfl
  | some m =>
      obtain ⟨row, hrow, rfl⟩ := List.mem_map.mp (List.max?_eq_some_iff.mp hmax).1
      have hnew := (h.newer row hrow (by rw [hempty]; exact List.not_mem_nil)).1
      show 0 ≤ row.eventOrder + 1
      omega

theorem Extends.trans {a b c : TimelineDb} (hab : Extends sid a b) (hbc : Extends sid b c) :
    Extends sid a c where
  kept row h := hbc.kept row (hab.kept row h)
  newer row h hnew := by
    by_cases hb : row ∈ b.eventsOf sid
    · exact hab.newer row hb hnew
    · obtain ⟨horder, hid⟩ := hbc.newer row h hb
      exact ⟨hab.nextOrder_le.trans horder, fun ha => hid (hab.ids _ ha)⟩
  audits row h := hbc.audits row (hab.audits row h)
  ids id h := hbc.ids id (hab.ids id h)

theorem mem_eventsOf_appendEvent (h : row' ∈ (db.appendEvent row).eventsOf sid) :
    row' ∈ db.eventsOf sid ∨
      row' = db.numbered row ∧ row.sessionId = sid ∧ row.eventId ∉ db.ids := by
  unfold TimelineDb.appendEvent at h
  split at h
  · rename_i hfresh
    obtain ⟨hmem, hsid⟩ := mem_eventsOf.mp h
    rcases List.mem_append.mp hmem with hold | hnew
    · exact .inl (mem_eventsOf.mpr ⟨hold, hsid⟩)
    · obtain rfl := List.mem_singleton.mp hnew
      exact .inr ⟨rfl, hsid, hfresh⟩
  · exact .inl h

theorem extends_appendEvent (sid : String) (db : TimelineDb) (row : EventColumns) :
    Extends sid db (db.appendEvent row) where
  kept other hother := by
    unfold TimelineDb.appendEvent
    split
    · obtain ⟨hmem, hsid⟩ := mem_eventsOf.mp hother
      exact mem_eventsOf.mpr ⟨List.mem_append_left _ hmem, hsid⟩
    · exact hother
  newer other hother hnew := by
    rcases mem_eventsOf_appendEvent hother with hold | ⟨rfl, rfl, hfresh⟩
    · exact absurd hold hnew
    · exact ⟨le_rfl, hfresh⟩
  audits other hother := by
    unfold TimelineDb.appendEvent
    split <;> exact hother
  ids id hid := by
    unfold TimelineDb.appendEvent
    split
    · rcases List.mem_append.mp hid with hevent | haudit
      · refine List.mem_append_left _ ?_
        rw [List.map_append]
        exact List.mem_append_left _ hevent
      · exact List.mem_append_right _ haudit
    · exact hid

theorem eventsOf_appendAudit (db : TimelineDb) (audit : AuditColumns) (sid : String) :
    (db.appendAudit audit).eventsOf sid = db.eventsOf sid := by
  unfold TimelineDb.appendAudit
  split <;> rfl

theorem extends_appendAudit (sid : String) (db : TimelineDb) (audit : AuditColumns) :
    Extends sid db (db.appendAudit audit) where
  kept _ h := by rwa [eventsOf_appendAudit]
  newer _ h hnew := absurd (by rwa [eventsOf_appendAudit] at h) hnew
  audits other hother := by
    unfold TimelineDb.appendAudit
    split
    · exact List.mem_append_left _ hother
    · exact hother
  ids id hid := by
    unfold TimelineDb.appendAudit
    split
    · rcases List.mem_append.mp hid with hevent | haudit
      · exact List.mem_append_left _ hevent
      · refine List.mem_append_right _ ?_
        rw [List.map_append]
        exact List.mem_append_left _ haudit
    · exact hid

end Kin.Tui
