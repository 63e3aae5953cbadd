import Kin.Transport.Outbound

/-!
The `AdapterRequest` a turn hands to its adapter: session, participants,
objective, the stored artifacts as inputs, the event log as history, and the
boundaries of the card.
-/

namespace Kin.Session

open Kin.Py Kin.Lib Kin.Schemas Kin.Storage Kin.Artifacts Kin.Transport

/-! ### The card -/

/-- What a request takes from a validated `AgentCard`: its dump and its
boundaries, `none` where the card has none. -/
structure CardView where
  snapshot : Json := .null
  filesystem : String := "none"
  networkAccess : String := "none"
  shell : String := "none"

/-! ### Inputs -/

/-- `str.lower`, as far as the result can be ASCII: besides the ASCII letters, the
Kelvin sign becomes `k`. -/
def lower (s : String) : String :=
  String.ofList (s.toList.map fun c => if c.toNat = 0x212a then 'k' else c.toLower)

/-- `mime_type.strip().lower()`. -/
def mimeName (mimeType : String) : String :=
  match strip (.text mimeType) with
  | .text s => lower s
  | .lone _ => ""

def archiveMimeTypes : List String :=
  ["application/zip", "application/x-zip-compressed", "application/x-tar", "application/tar",
   "application/gzip", "application/x-gzip", "application/x-7z-compressed",
   "application/x-rar-compressed", "application/rar", "application/x-bzip2",
   "application/x-compress"]

def safeDecodeArtifactText (bytes : Bytes) (mimeType : String) : Option String :=
  if archiveMimeTypes.contains (mimeName mimeType) then none
  else
    match String.fromUTF8? ⟨bytes.toArray⟩ with
    | some text => if text.toList.contains '\x00' then none else some text
    | none => none

/-- `load_artifact_bytes`; `none` when it raises. -/
def loadArtifactBytes (ext : Externals) (db : Db) (artifactId : String) : Option Bytes :=
  match Rows.lookup ArtifactRow.artifactId db.artifacts artifactId with
  | none => none
  | some art => if ext.sha256Hex art.bytes = art.sha256 then some art.bytes else none

/-- An `InputItem` of kind `artifact`. -/
structure InputItem where
  ref : String
  content : Option String
  deriving DecidableEq

/-- The artifacts of the session, `ORDER BY created_at`. -/
def inputItems (ext : Externals) (db : Db) (sessionId : String) : List InputItem :=
  ((db.artifacts.filter fun art => art.sessionId == sessionId).mergeSort fun a b =>
    decide (isoNow a.createdAt ≤ isoNow b.createdAt)).map fun art =>
    { ref := art.artifactId
      content := (loadArtifactBytes ext db art.artifactId).bind
        (safeDecodeArtifactText · art.mimeType) }

/-! ### History -/

structure HistoryItem where
  kind : String
  actor : String
  content : PyStr
  deriving DecidableEq

/-- The item of one event: kind, actor and `str(payload)`. -/
def historyItem (ext : Externals) (event : EventEntry) : HistoryItem :=
  ⟨event.kind.value, event.actorUsername, format ext event.payload⟩

def historyItems (ext : Externals) (events : List EventEntry) : List HistoryItem :=
  events.map (historyItem ext)

/-! ### The request -/

structure AdapterRequest where
  sessionId : String
  sessionType : String
  turn : Int
  agentId : String
  cardSnapshot : Json
  peer : String
  peerAgentId : String
  objective : String
  inputs : List InputItem
  history : List HistoryItem
  filesystem : String
  network : String
  shell : String

def adapterRequest (sender : Sender) (db : Db) (row : SessionRow) (state : SessionState)
    (agentId : String) (card : CardView) : AdapterRequest where
  sessionId := row.sessionId
  sessionType := row.sessionType.value
  turn := state.currentTurn
  agentId := agentId
  cardSnapshot := card.snapshot
  peer := peerOf sender row
  peerAgentId := ((state.participants.get? (peerOf sender row)).map (·.agentId)).getD ""
  objective := row.objective.getD ""
  inputs := inputItems sender.ext db row.sessionId
  history := historyItems sender.ext state.events
  filesystem := card.filesystem
  network := card.networkAccess
  shell := card.shell

end Kin.Session
