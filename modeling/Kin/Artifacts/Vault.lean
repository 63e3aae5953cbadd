import Kin.Storage.Db

/-!
Artifact storage of `kin/artifacts/vault.py`. The blob is kept decrypted; the
metadata JSON is spread over the row's fields, with the size read off the bytes.
-/

namespace Kin.Artifacts

open Kin.Py Kin.Lib Kin.Schemas Kin.Session Kin.Storage

inductive ArtifactError
  | tooLarge
  | idConflict
  deriving DecidableEq

/-- What `store_artifact` is called with. `generatedId` is the uuid-based id it
makes up when no id is given. -/
structure NewArtifact where
  sessionId : String
  rawBytes : Bytes
  mimeType : String
  offeredBy : String
  previewPolicy : String
  maxBytes : Int
  source : String := "adapter_output"
  now : Instant
  artifactId : Option String := none
  generatedId : String := ""

def artifactRow (ext : Externals) (art : NewArtifact) : ArtifactRow where
  artifactId := art.artifactId.getD art.generatedId
  sessionId := art.sessionId
  sha256 := ext.sha256Hex art.rawBytes
  mimeType := art.mimeType
  bytes := art.rawBytes
  previewPolicy := art.previewPolicy
  source := art.source
  offeredBy := art.offeredBy
  createdAt := art.now

/-- `store_artifact`: the database afterwards and the row that is returned as
metadata. A given id that is already stored is left alone when the hash agrees. -/
def storeArtifact (ext : Externals) (db : Db) (art : NewArtifact) :
    Except ArtifactError (Db × ArtifactRow) :=
  let row := artifactRow ext art
  if art.maxBytes < art.rawBytes.length then .error .tooLarge
  else
    match art.artifactId.bind (Rows.lookup ArtifactRow.artifactId db.artifacts) with
    | some stored => if stored.sha256 = row.sha256 then .ok (db, stored) else .error .idConflict
    | none => .ok (db.withArtifacts (db.artifacts ++ [row]), row)

/-- Storing touches no other table. -/
theorem storeArtifact_ok {ext : Externals} {db db' : Db} {art : NewArtifact} {row : ArtifactRow}
    (h : storeArtifact ext db art = .ok (db', row)) :
    ∃ artifacts, db' = db.withArtifacts artifacts := by
  unfold storeArtifact at h
  simp only at h
  split at h
  · cases h
  · split at h
    · split at h
      · cases h
        exact ⟨db.artifacts, rfl⟩
      · cases h
    · cases h
      exact ⟨_, rfl⟩

def incrementSessionArtifactBytes (db : Db) (sessionId : String) (byteCount : Nat) : Db :=
  if byteCount = 0 then db
  else db.updateSession sessionId fun row =>
    { row with cumulativeArtifactBytes := row.cumulativeArtifactBytes + byteCount }

end Kin.Artifacts
