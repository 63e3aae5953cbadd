import Kin.Lib.OrderBy
import Kin.Lib.Rows
import Kin.Transport.Outbound

/-!
The session export of `kin/audit/export.py`. The rows of the two tables are modelled with
the columns it selects, encrypted columns included, so that what is decrypted at all is
visible. Columns are text as stored: the export does not check them.
-/

namespace Kin.Audit

open Kin.Py Kin.Lib Kin.Schemas

/-! ### Tables -/

/-- The columns `export_session` reads of a session. -/
structure SessionColumns where
  sessionId : String
  sessionType : String
  initiatorUsername : String
  receiverUsername : String
  status : String
  objective : Option String
  senderAgentId : Option String
  receiverAgentId : Option String
  participantSnapshotJson : Option String
  turnLimit : Int
  createdAt : String
  updatedAt : String
  terminalResultJson : Option String

/-- A row of `session_events`; `payloadJson` is the vault token. -/
structure EventColumns where
  eventId : String
  sessionId : String
  eventOrder : Int
  sequence : Option Int
  actorUsername : String
  actorAgentId : Option String
  kind : String
  visibility : String
  payloadJson : Option String
  signature : Option String
  createdAt : String
  deriving DecidableEq

/-- The two tables, with `UNIQUE(session_id, event_order)`. -/
structure TranscriptDb where
  sessions : List SessionColumns
  sessionEvents : List EventColumns
  uniqueOrder : (sessionEvents.map fun row => (row.sessionId, row.eventOrder)).Nodup

/-! ### The vault -/

inductive ExportExc
  | valueError
  | invalidTag
  /-- Any exception of `compute_content_hash`. -/
  | contentHash
  deriving DecidableEq

/-- What the export takes from outside the repository, with the vault key in it. -/
structure Exporter where
  ext : Externals
  /-- `base64.b64decode(value, validate=True)`; `none` when it raises. -/
  b64decodeStrict : String → Option Bytes
  /-- `AESGCM(key).decrypt(nonce, ciphertext, None)`. -/
  aesgcmDecrypt : Bytes → Bytes → Except ExportExc Bytes
  /-- `float.__repr__`, and the words `json.dumps` writes for the other floats. -/
  floatText : PyFloat → String

def versionPrefix : Bytes := [0x76, 0x31, 0x3a]

/-- `decrypt_field` of a token. -/
def decryptField (env : Exporter) (token : String) : Except ExportExc String :=
  match env.ext.b64decode (.text token) with
  | none => .error .valueError
  | some raw =>
      if versionPrefix.isPrefixOf raw = false then .error .valueError
      else
        let payload := raw.drop versionPrefix.length
        match env.aesgcmDecrypt (payload.take 12) (payload.drop 12) with
        | .error e => .error e
        | .ok plaintext =>
            match String.fromUTF8? ⟨plaintext.toArray⟩ with
            | some s => .ok s
            | none => .error .valueError

/-- `decrypt_field` of a column. -/
def decryptColumn (env : Exporter) : Option String → Except ExportExc (Option String)
  | none => .ok none
  | some token => (decryptField env token).map some

def decryptFieldOrPlaintext (env : Exporter) : Option String → Except ExportExc (Option String)
  | none => .ok none
  | some value =>
      match env.b64decodeStrict value with
      | none => .ok (some value)
      | some raw =>
          if versionPrefix.isPrefixOf raw then (decryptField env value).map some
          else .ok (some value)

/-! ### The exported values -/

def textOrNull (column : Option String) : Json := column.elim .null .text

/-- `json.loads(text)`, or the text when it is no JSON. -/
def loadsOrText (env : Exporter) (text : String) : Json := (env.ext.loads text).getD (.text text)

/-- `json.loads(dec) if dec else None`, or the text. -/
def parsedColumn (env : Exporter) : Option String → Json
  | none => .null
  | some text => if text = "" then .null else loadsOrText env text

structure SessionMeta where
  row : SessionColumns
  objective : Option String
  participantSnapshot : Json
  terminalResult : Json

def sessionMeta (env : Exporter) (row : SessionColumns) : Except ExportExc SessionMeta :=
  match decryptFieldOrPlaintext env row.objective with
  | .error e => .error e
  | .ok objective =>
      match decryptFieldOrPlaintext env row.participantSnapshotJson with
      | .error e => .error e
      | .ok snapshot =>
          match decryptFieldOrPlaintext env row.terminalResultJson with
          | .error e => .error e
          | .ok result => .ok ⟨row, objective, parsedColumn env snapshot, parsedColumn env result⟩

def SessionMeta.toJson (info : SessionMeta) : Json :=
  .obj
    [(.text "session_id", .text info.row.sessionId), (.text "type", .text info.row.sessionType),
     (.text "initiator_username", .text info.row.initiatorUsername),
     (.text "receiver_username", .text info.row.receiverUsername),
     (.text "status", .text info.row.status), (.text "objective", textOrNull info.objective),
     (.text "sender_agent_id", textOrNull info.row.senderAgentId),
     (.text "receiver_agent_id", textOrNull info.row.receiverAgentId),
     (.text "participant_snapshot", info.participantSnapshot),
     (.text "turn_limit", .int info.row.turnLimit), (.text "created_at", .text info.row.createdAt),
     (.text "updated_at", .text info.row.updatedAt), (.text "terminal_result", info.terminalResult)]

/-- An entry of `exported_events`. -/
structure ExportedEvent where
  eventId : String
  eventOrder : Int
  sequence : Option Int
  actorUsername : String
  actorAgentId : Option String
  kind : String
  visibility : String
  payload : Json
  contentHash : String
  signature : Option String
  createdAt : String

def ExportedEvent.toJson (event : ExportedEvent) : Json :=
  .obj
    [(.text "event_id", .text event.eventId), (.text "event_order", .int event.eventOrder),
     (.text "sequence", event.sequence.elim .null .int),
     (.text "actor_username", .text event.actorUsername),
     (.text "actor_agent_id", textOrNull event.actorAgentId), (.text "kind", .text event.kind),
     (.text "visibility", .text event.visibility), (.text "payload", event.payload),
     (.text "content_hash", .text event.contentHash),
     (.text "signature", textOrNull event.signature),
     (.text "created_at", .text event.createdAt)]

def parsedPayload (env : Exporter) (decrypted : Option String) : Json :=
  decrypted.elim .null (loadsOrText env)

def marksPrivate : Json → Bool
  | .obj fields => textField fields "visibility" == some "local_only"
  | _ => false

/-- `str(v)`. -/
def strOfJson (env : Exporter) : Json → PyStr
  | .str s => s
  | v => .text (env.ext.strOf v)

/-- `content_hash`. -/
def payloadHash (env : Exporter) : Json → Except ExportExc String
  | .null => .ok ""
  | v =>
      let hashed : Fields :=
        match v with
        | .obj fields => fields
        | v => [(.text "value", .str (strOfJson env v))]
      match computeContentHash env.ext hashed with
      | some hash => .ok hash
      | none => .error .contentHash

def exportedEvent (env : Exporter) (row : EventColumns) (payload : Json) :
    Except ExportExc ExportedEvent :=
  (payloadHash env payload).map fun contentHash =>
    { eventId := row.eventId, eventOrder := row.eventOrder, sequence := row.sequence
      actorUsername := row.actorUsername, actorAgentId := row.actorAgentId, kind := row.kind
      visibility := row.visibility, payload, contentHash, signature := row.signature
      createdAt := row.createdAt }

/-- One pass of the loop over the event rows; `none` when the row is skipped. -/
def exportRow (env : Exporter) (includePrivateNotes : Bool) (row : EventColumns) :
    Except ExportExc (Option ExportedEvent) :=
  if row.visibility = "local_only" ∧ includePrivateNotes = false then .ok none
  else
    match decryptColumn env row.payloadJson with
    | .error e => .error e
    | .ok decrypted =>
        let payload := parsedPayload env decrypted
        if marksPrivate payload = true ∧ includePrivateNotes = false then .ok none
        else (exportedEvent env row payload).map some

def exportRows (env : Exporter) (includePrivateNotes : Bool) :
    List EventColumns → Except ExportExc (List ExportedEvent)
  | [] => .ok []
  | row :: rows =>
      match exportRow env includePrivateNotes row with
      | .error e => .error e
      | .ok none => exportRows env includePrivateNotes rows
      | .ok (some event) => (exportRows env includePrivateNotes rows).map (event :: ·)

/-- `SELECT ... FROM session_events WHERE session_id = ? ORDER BY event_order ASC`. -/
def eventRowsOf (db : TranscriptDb) (sessionId : String) : List EventColumns :=
  orderBy EventColumns.eventOrder
    (db.sessionEvents.filter fun row => decide (row.sessionId = sessionId))

def exportedEvents (env : Exporter) (db : TranscriptDb) (sessionId : String)
    (includePrivateNotes : Bool) : Except ExportExc (List ExportedEvent) :=
  exportRows env includePrivateNotes (eventRowsOf db sessionId)

/-! ### The two renderers -/

def hexEscape (n : Nat) : String :=
  "\\u" ++ String.ofList
    [Nat.digitChar (n / 4096 % 16), Nat.digitChar (n / 256 % 16), Nat.digitChar (n / 16 % 16),
     Nat.digitChar (n % 16)]

/-- One code point inside a JSON string: anything but printable ASCII is escaped. -/
def escapeCode (c : Nat) : String :=
  if c = 0x22 then "\\\""
  else if c = 0x5C then "\\\\"
  else if c = 0x08 then "\\b"
  else if c = 0x09 then "\\t"
  else if c = 0x0A then "\\n"
  else if c = 0x0C then "\\f"
  else if c = 0x0D then "\\r"
  else if 0x20 ≤ c ∧ c ≤ 0x7E then String.ofList [Char.ofNat c]
  else if c < 0x10000 then hexEscape c
  -- beyond the basic plane, a surrogate pair
  else hexEscape (0xD800 + (c - 0x10000) / 1024) ++ hexEscape (0xDC00 + (c - 0x10000) % 1024)

def quoted (s : PyStr) : String := "\"" ++ String.join (s.codePoints.map escapeCode) ++ "\""

def newline (level : Nat) : String := "\n" ++ String.ofList (List.replicate (2 * level) ' ')

mutual

/-- `json.dumps(value, indent=2)`, inside `level` brackets. -/
def dumpsIndented (floatText : PyFloat → String) (level : Nat) : Json → String
  | .null => "null"
  | .bool true => "true"
  | .bool false => "false"
  | .int n => toString n
  | .float x => floatText x
  | .str s => quoted s
  | .arr items =>
      if items.isEmpty then "[]"
      else "[" ++ newline (level + 1) ++ dumpsIndentedItems floatText (level + 1) items ++
        newline level ++ "]"
  | .obj fields =>
      if fields.isEmpty then "\x7b\x7d"
      else "\x7b" ++ newline (level + 1) ++ dumpsIndentedMembers floatText (level + 1) fields ++
        newline level ++ "\x7d"

def dumpsIndentedItems (floatText : PyFloat → String) (level : Nat) : List Json → String
  | [] => ""
  | [item] => dumpsIndented floatText level item
  | item :: items =>
      dumpsIndented floatText level item ++ "," ++ newline level ++
        dumpsIndentedItems floatText level items

def dumpsIndentedMembers (floatText : PyFloat → String) (level : Nat) :
    List (PyStr × Json) → String
  | [] => ""
  | [(key, value)] => quoted key ++ ": " ++ dumpsIndented floatText level value
  | (key, value) :: members =>
      quoted key ++ ": " ++ dumpsIndented floatText level value ++ "," ++ newline level ++
        dumpsIndentedMembers floatText level members

end

/-- `column or default`. -/
def orElseText (column : Option String) (default : String) : String :=
  match column with
  | some s => if s = "" then default else s
  | none => default

/-- `json.dumps(payload, indent=2)` of a dictionary or list, else `str(payload)`. -/
def payloadText (env : Exporter) : Json → PyStr
  | .arr items => .text (dumpsIndented env.floatText 0 (.arr items))
  | .obj fields => .text (dumpsIndented env.floatText 0 (.obj fields))
  | v => strOfJson env v

def eventLines (env : Exporter) (event : ExportedEvent) : List PyStr :=
  [.text ("### Event #" ++ toString event.eventOrder ++ " - " ++ event.kind),
   .text ("- **Event ID**: " ++ event.eventId),
   .text ("- **Actor**: " ++ event.actorUsername ++ " (" ++
     orElseText event.actorAgentId "system" ++ ")"),
   .text ("- **Sequence**: " ++ event.sequence.elim "N/A" toString),
   .text ("- **Visibility**: " ++ event.visibility),
   .text ("- **Content Hash**: " ++ event.contentHash),
   .text ("- **Signature**: " ++ orElseText event.signature "N/A"),
   .text ("- **Timestamp**: " ++ event.createdAt),
   .text "```json", payloadText env event.payload, .text "```", .text ""]

def transcriptLines (env : Exporter) (sessionId : String) (info : SessionMeta)
    (events : List ExportedEvent) : List PyStr :=
  [.text ("# Session Transcript: " ++ sessionId), .text ("- **Type**: " ++ info.row.sessionType),
   .text ("- **Initiator**: " ++ info.row.initiatorUsername),
   .text ("- **Receiver**: " ++ info.row.receiverUsername),
   .text ("- **Status**: " ++ info.row.status),
   .text ("- **Objective**: " ++ orElseText info.objective "N/A"),
   .text ("- **Created At**: " ++ info.row.createdAt), .text "", .text "## Events Sequence",
   .text ""] ++
    if events.isEmpty then [.text "*(No events recorded)*"]
    else events.flatMap (eventLines env)

/-- `"\n".join(lines)`. -/
def joinLines : List PyStr → PyStr
  | [] => .text ""
  | [line] => line
  | line :: lines => line ++ (.text "\n" ++ joinLines lines)

inductive ExportFormat
  | json
  | markdown
  | unsupported (format : String)
  deriving DecidableEq

def renderTranscript (env : Exporter) (sessionId : String) (info : SessionMeta)
    (events : List ExportedEvent) : ExportFormat → Except ExportExc PyStr
  | .json =>
      .ok (.text (dumpsIndented env.floatText 0
        (.obj [(.text "session", info.toJson),
          (.text "events", .arr (events.map ExportedEvent.toJson))])))
  | .markdown => .ok (joinLines (transcriptLines env sessionId info events))
  | .unsupported _ => .error .valueError

def exportSession (env : Exporter) (db : TranscriptDb) (sessionId : String)
    (format : ExportFormat) (includePrivateNotes : Bool) : Except ExportExc PyStr :=
  match Rows.lookup SessionColumns.sessionId db.sessions sessionId with
  | none => .error .valueError
  | some row =>
      match sessionMeta env row with
      | .error e => .error e
      | .ok info =>
          match exportedEvents env db sessionId includePrivateNotes with
          | .error e => .error e
          | .ok events => renderTranscript env sessionId info events format

/-! ### What is left out -/

def isPrivate (env : Exporter) (row : EventColumns) : Bool :=
  row.visibility == "local_only" ||
    match decryptColumn env row.payloadJson with
    | .ok decrypted => marksPrivate (parsedPayload env decrypted)
    | .error _ => false

def listedEvent (env : Exporter) (row : EventColumns) : Except ExportExc ExportedEvent :=
  match decryptColumn env row.payloadJson with
  | .error e => .error e
  | .ok decrypted => exportedEvent env row (parsedPayload env decrypted)

variable {env : Exporter} {row : EventColumns} {rows : List EventColumns}
  {event : ExportedEvent} {events : List ExportedEvent}

theorem exportRow_of_private (h : isPrivate env row = true) :
    exportRow env false row = .ok none := by
  unfold exportRow
  by_cases hvisibility : row.visibility = "local_only"
  · rw [if_pos ⟨hvisibility, rfl⟩]
  · rw [if_neg fun hand => hvisibility hand.1]
    simp only [isPrivate, beq_eq_false_iff_ne.mpr hvisibility, Bool.false_or] at h
    cases hdecrypted : decryptColumn env row.payloadJson with
    | error e =>
        rw [hdecrypted] at h
        cases h
    | ok decrypted =>
        rw [hdecrypted] at h
        dsimp only
        rw [if_pos ⟨h, rfl⟩]

theorem exportRow_of_not_private (h : isPrivate env row = false) :
    exportRow env false row = (listedEvent env row).map some := by
  simp only [isPrivate, Bool.or_eq_false_iff, beq_eq_false_iff_ne] at h
  unfold exportRow listedEvent
  rw [if_neg fun hand => h.1 hand.1]
  cases hdecrypted : decryptColumn env row.payloadJson with
  | error e => rfl
  | ok decrypted =>
      have hpayload := h.2
      rw [hdecrypted] at hpayload
      dsimp only
      rw [if_neg fun hand => Bool.eq_false_iff.mp hpayload hand.1]

/-- The listed rows decide the whole list. -/
theorem exportRows_filter (env : Exporter) (rows : List EventColumns) :
    exportRows env false (rows.filter fun row => !isPrivate env row) =
      exportRows env false rows := by
  induction rows with
  | nil => rfl
  | cons row rows ih =>
      cases hprivate : isPrivate env row with
      | true =>
          rw [List.filter_cons_of_neg (by simp [hprivate]), ih, exportRows,
            exportRow_of_private hprivate]
      | false =>
          rw [List.filter_cons_of_pos (by simp [hprivate]), exportRows, exportRows, ih]

/-- Each row that is not private gets its entry, in the order of the rows. -/
theorem forall₂_exportRows (h : exportRows env false rows = .ok events) :
    List.Forall₂ (fun row event => listedEvent env row = .ok event)
      (rows.filter fun row => !isPrivate env row) events := by
  induction rows generalizing events with
  | nil =>
      cases h
      exact .nil
  | cons row rows ih =>
      rw [exportRows] at h
      cases hprivate : isPrivate env row with
      | true =>
          rw [exportRow_of_private hprivate] at h
          rw [List.filter_cons_of_neg (by simp [hprivate])]
          exact ih h
      | false =>
          rw [exportRow_of_not_private hprivate] at h
          rw [List.filter_cons_of_pos (by simp [hprivate])]
          cases hevent : listedEvent env row with
          | error e =>
              rw [hevent] at h
              cases h
          | ok event =>
              rw [hevent] at h
              cases hrest : exportRows env false rows with
              | error e =>
                  simp only [Except.map, hrest] at h
                  cases h
              | ok rest =>
                  simp only [Except.map, hrest] at h
                  cases h
                  exact .cons hevent (ih hrest)

theorem listedEvent_eventOrder (h : listedEvent env row = .ok event) :
    event.eventOrder = row.eventOrder := by
  unfold listedEvent at h
  split at h
  · cases h
  · unfold exportedEvent at h
    cases hhash : payloadHash env (parsedPayload env _) with
    | error e =>
        rw [hhash] at h
        cases h
    | ok hash =>
        rw [hhash] at h
        cases h
        rfl

theorem map_eventOrder_eq
    (h : List.Forall₂ (fun row event => listedEvent env row = .ok event) rows events) :
    events.map ExportedEvent.eventOrder = rows.map EventColumns.eventOrder := by
  induction h with
  | nil => rfl
  | cons hevent _ ih => rw [List.map_cons, List.map_cons, ih, listedEvent_eventOrder hevent]

/-! ### Two databases -/

def SameButPrivate (env : Exporter) (row row' : EventColumns) : Prop :=
  row' = row ∨ isPrivate env row = true ∧ isPrivate env row' = true ∧
    row' = { row with payloadJson := row'.payloadJson }

structure AgreeExceptPrivate (env : Exporter) (db db' : TranscriptDb) : Prop where
  sessions : db'.sessions = db.sessions
  events : ∀ row ∈ db.sessionEvents, ∃ row' ∈ db'.sessionEvents, SameButPrivate env row row'
  events' : ∀ row' ∈ db'.sessionEvents, ∃ row ∈ db.sessionEvents, SameButPrivate env row row'

theorem eventOrder_nodup (db : TranscriptDb) (sid : String) :
    ((db.sessionEvents.filter fun row => decide (row.sessionId = sid)).map
      EventColumns.eventOrder).Nodup := by
  have hunique := (List.pairwise_map.mp db.uniqueOrder).filter
    fun row => decide (row.sessionId = sid)
  refine List.pairwise_map.mpr (hunique.imp_of_mem ?_)
  intro row row' hrow hrow' hne horder
  have hsid := of_decide_eq_true (List.mem_filter.mp hrow).2
  have hsid' := of_decide_eq_true (List.mem_filter.mp hrow').2
  exact hne (by rw [hsid, hsid', horder])

theorem mem_listed {db : TranscriptDb} {sid : String} :
    row ∈ (eventRowsOf db sid).filter (fun row => !isPrivate env row) ↔
      row ∈ db.sessionEvents ∧ row.sessionId = sid ∧ isPrivate env row = false := by
  simp [eventRowsOf, and_assoc]

theorem AgreeExceptPrivate.listed {db db' : TranscriptDb} (h : AgreeExceptPrivate env db db')
    (sid : String) :
    (eventRowsOf db sid).filter (fun row => !isPrivate env row) =
      (eventRowsOf db' sid).filter fun row => !isPrivate env row := by
  apply filter_orderBy_congr (eventOrder_nodup db sid) (eventOrder_nodup db' sid)
  intro row
  constructor
  · rintro ⟨hrow, hlisted⟩
    obtain ⟨hmem, hsid⟩ := List.mem_filter.mp hrow
    obtain ⟨row', hrow', rfl | ⟨hprivate, -⟩⟩ := h.events row hmem
    · exact ⟨List.mem_filter.mpr ⟨hrow', hsid⟩, hlisted⟩
    · rw [hprivate] at hlisted
      cases hlisted
  · rintro ⟨hrow, hlisted⟩
    obtain ⟨hmem, hsid⟩ := List.mem_filter.mp hrow
    obtain ⟨row', hrow', rfl | ⟨-, hprivate, -⟩⟩ := h.events' row hmem
    · exact ⟨List.mem_filter.mpr ⟨hrow', hsid⟩, hlisted⟩
    · rw [hprivate] at hlisted
      cases hlisted

theorem AgreeExceptPrivate.exportedEvents {db db' : TranscriptDb}
    (h : AgreeExceptPrivate env db db') (sid : String) :
    exportedEvents env db sid false = exportedEvents env db' sid false := by
  unfold Audit.exportedEvents
  rw [← exportRows_filter env (eventRowsOf db sid), h.listed sid, exportRows_filter]

theorem exportSession_ok {db : TranscriptDb} {sid : String} {format : ExportFormat}
    {includePrivateNotes : Bool} {text : PyStr}
    (h : exportSession env db sid format includePrivateNotes = .ok text) :
    ∃ info events, exportedEvents env db sid includePrivateNotes = .ok events ∧
      renderTranscript env sid info events format = .ok text := by
  unfold exportSession at h
  split at h
  · cases h
  · split at h
    · cases h
    · rename_i info _
      split at h
      · cases h
      · rename_i events hevents
        exact ⟨info, events, hevents, h⟩

/-- Databases that agree except for the payloads of private events are exported alike, and
the exported list has an entry for each event that is not private and no other, in
strictly increasing order. -/
theorem export_hides_private_events (env : Exporter) (db db' : TranscriptDb)
    (h : AgreeExceptPrivate env db db') (sid : String) (format : ExportFormat) :
    exportSession env db sid format false = exportSession env db' sid format false ∧
    ∀ text, exportSession env db sid format false = .ok text →
      ∃ (info : SessionMeta) (events : List ExportedEvent) (rows : List EventColumns),
        renderTranscript env sid info events format = .ok text ∧
        List.Forall₂ (fun row event => listedEvent env row = .ok event) rows events ∧
        (∀ row, row ∈ rows ↔
          row ∈ db.sessionEvents ∧ row.sessionId = sid ∧ isPrivate env row = false) ∧
        (events.map ExportedEvent.eventOrder).Pairwise (· < ·) := by
  have hsame : exportSession env db sid format false = exportSession env db' sid format false := by
    unfold exportSession
    rw [h.sessions, h.exportedEvents sid]
  refine ⟨hsame, ?_⟩
  intro text htext
  obtain ⟨info, events, hevents, hrender⟩ := exportSession_ok htext
  have hlisted := forall₂_exportRows hevents
  refine ⟨info, events, _, hrender, hlisted, fun row => mem_listed, ?_⟩
  rw [map_eventOrder_eq hlisted, List.pairwise_map]
  exact (pairwise_orderBy (eventOrder_nodup db sid)).filter _

namespace Sample

def markedText : String := "\x7b\"visibility\": \"local_only\"\x7d"

/-- The vault of the samples: a token is the plaintext itself. -/
def exporter : Exporter where
  ext :=
    { Transport.Sample.externals with
      b64decode := fun token =>
        match token with
        | .str (.text s) => some (versionPrefix ++ List.replicate 12 0 ++ s.toUTF8.toList)
        | _ => none
      loads := fun s =>
        if s = markedText then some (.obj [(.text "visibility", .text "local_only")]) else none }
  b64decodeStrict _ := none
  aesgcmDecrypt _ ciphertext := .ok ciphertext
  floatText _ := "0.0"

def session : SessionColumns where
  sessionId := "s1"
  sessionType := "ask"
  initiatorUsername := "alice"
  receiverUsername := "bob"
  status := "active"
  objective := none
  senderAgentId := none
  receiverAgentId := none
  participantSnapshotJson := none
  turnLimit := 12
  createdAt := "2026-07-22T00:00:00Z"
  updatedAt := "2026-07-22T00:00:00Z"
  terminalResultJson := none

def eventRow (order : Int) (visibility payload : String) : EventColumns where
  eventId := "e" ++ toString order
  sessionId := "s1"
  eventOrder := order
  sequence := none
  actorUsername := "alice"
  actorAgentId := none
  kind := "finding"
  visibility := visibility
  payloadJson := some payload
  signature := none
  createdAt := "2026-07-22T00:00:00Z"

def notedDb (note : String) : TranscriptDb where
  sessions := [session]
  sessionEvents := [eventRow 1 "local_only" note, eventRow 0 "peer_visible" "hello"]
  uniqueOrder := by simp [eventRow]

/-- A session whose only event is shared by its column and private by its payload. -/
def markedDb : TranscriptDb where
  sessions := [session]
  sessionEvents := [eventRow 0 "peer_visible" markedText]
  uniqueOrder := by simp

end Sample

/-- Two databases whose private notes differ are exported alike. -/
theorem export_hides_private_events_noted :
    Sample.notedDb "my plan" ≠ Sample.notedDb "another plan" ∧
    exportSession Sample.exporter (Sample.notedDb "my plan") "s1" .markdown false =
      exportSession Sample.exporter (Sample.notedDb "another plan") "s1" .markdown false := by
  have hagree : AgreeExceptPrivate Sample.exporter (Sample.notedDb "my plan")
      (Sample.notedDb "another plan") := by
    refine ⟨rfl, ?_, ?_⟩ <;>
      simp [Sample.notedDb, Sample.eventRow, SameButPrivate, isPrivate]
  refine ⟨?_, (export_hides_private_events Sample.exporter _ _ hagree "s1" .markdown).1⟩
  simp [Sample.notedDb, Sample.eventRow]

/-- An event that is not `local_only` by its visibility is left out for its payload. -/
theorem marked_event_left_out :
    (∃ row ∈ Sample.markedDb.sessionEvents,
      row.sessionId = "s1" ∧ row.visibility = "peer_visible") ∧
    (exportedEvents Sample.exporter Sample.markedDb "s1" false).map List.length = .ok 0 ∧
    (exportSession Sample.exporter Sample.markedDb "s1" .json false).isOk = true := by
  have hlisted : exportedEvents Sample.exporter Sample.markedDb "s1" false = .ok [] := by
    have hrows : eventRowsOf Sample.markedDb "s1" =
        [Sample.eventRow 0 "peer_visible" Sample.markedText] := by
      simp [eventRowsOf, orderBy, Sample.markedDb, Sample.eventRow]
    have hprivate : isPrivate Sample.exporter
        (Sample.eventRow 0 "peer_visible" Sample.markedText) = true := by
      decide +kernel
    rw [exportedEvents, hrows, exportRows, exportRow_of_private hprivate]
    rfl
  refine ⟨⟨_, List.mem_singleton.mpr rfl, rfl, rfl⟩, by rw [hlisted]; rfl, ?_⟩
  unfold exportSession
  rw [hlisted]
  rfl

end Kin.Audit
