import Kin.Artifacts.Vault
import Kin.Lib.PrefixCode

/-!
The metadata of `kin/artifacts/vault.py`. `store_artifact` returns a record that it builds from its
arguments, and `get_artifact_metadata` builds one from the columns and from the JSON of
`metadata_json`, with defaults for what is missing there.
-/

namespace Kin.Artifacts

open Kin.Py Kin.Lib Kin.Schemas Kin.Session Kin.Storage

/-! ### Encryption at rest -/

/-- AES-256-GCM under the vault key, and SHA-256. -/
structure Crypto where
  /-- `AESGCM(key).encrypt(nonce, data, None)`. -/
  encrypt : Bytes → Bytes → Bytes
  /-- `AESGCM(key).decrypt(nonce, ciphertext, None)`; `none` when it raises. -/
  decrypt : Bytes → Bytes → Option Bytes
  sha256Hex : Bytes → String

/-- `VERSION_PREFIX`, the bytes `v1:`. -/
def versionPrefix : Bytes := [0x76, 0x31, 0x3a]

def encryptBytes (crypto : Crypto) (nonce data : Bytes) : Bytes :=
  versionPrefix ++ nonce ++ crypto.encrypt nonce data

/-- `decrypt_bytes`; `none` when it raises. -/
def decryptBytes (crypto : Crypto) (token : Bytes) : Option Bytes :=
  if versionPrefix.isPrefixOf token then
    let payload := token.drop versionPrefix.length
    crypto.decrypt (payload.take 12) (payload.drop 12)
  else none

def Crypto.Undoes (crypto : Crypto) : Prop :=
  ∀ nonce data, crypto.decrypt nonce (crypto.encrypt nonce data) = some data

theorem decryptBytes_encryptBytes {crypto : Crypto} (h : crypto.Undoes) {nonce : Bytes}
    (hnonce : nonce.length = 12) (data : Bytes) :
    decryptBytes crypto (encryptBytes crypto nonce data) = some data := by
  have hprefix : versionPrefix.isPrefixOf (encryptBytes crypto nonce data) = true := by
    rw [List.isPrefixOf_iff_prefix, encryptBytes, List.append_assoc]
    exact List.prefix_append _ _
  have hpayload : (encryptBytes crypto nonce data).drop versionPrefix.length =
      nonce ++ crypto.encrypt nonce data := by
    rw [encryptBytes, List.append_assoc, List.drop_left]
  rw [decryptBytes, if_pos hprefix]
  dsimp only
  rw [hpayload, ← hnonce, List.take_left, List.drop_left]
  exact h nonce data

/-! ### Rows -/

/-- The column `metadata_json`: `json.loads` of its text. -/
inductive MetadataColumn
  /-- `NULL` or the empty text. -/
  | absent
  /-- `json.loads` raises `JSONDecodeError`. -/
  | undecodable
  /-- `json.loads` raises anything else. -/
  | refused (exc : PyExc)
  | document (value : Json)

structure VaultRow where
  artifactId : String
  sessionId : String
  sha256 : String
  mimeType : String
  bytesEncrypted : Option Bytes
  metadata : MetadataColumn
  offeredBy : String
  createdAt : String

/-- The table of artifacts, with the sessions that its rows may refer to. -/
structure VaultDb where
  sessions : List String
  artifacts : List VaultRow

def VaultDb.artifact? (db : VaultDb) (artifactId : String) : Option VaultRow :=
  Rows.lookup VaultRow.artifactId db.artifacts artifactId

/-- `ArtifactMetadata`. The fields that are read from JSON hold whatever is there. -/
structure ArtifactMetadata where
  artifactId : String
  sessionId : String
  sha256 : String
  mimeType : String
  sizeBytes : Json
  offeredBy : String
  previewPolicy : Json
  createdAt : String
  source : Json := .text "adapter_output"
  relativeTargetPath : Json := .null

inductive VaultError
  | notFound
  | tooLarge
  | corrupted
  | idConflict
  | raised (exc : PyExc)
  deriving DecidableEq

/-- What `get_artifact_metadata` reads in the JSON: the size, the preview policy, the source and
the target path. -/
def readMetadata : MetadataColumn → Except VaultError (Json × Json × Json × Json)
  | .absent | .undecodable => .ok (.int 0, .text "none", .text "adapter_output", .null)
  | .refused exc => .error (.raised exc)
  | .document (.obj fields) =>
      .ok (Fields.getD fields "size_bytes" (Fields.getD fields "size" (.int 0)),
        Fields.getD fields "preview_policy" (.text "none"),
        Fields.getD fields "source" (.text "adapter_output"),
        Fields.getD fields "relative_target_path" .null)
  -- Only a dictionary has `get`.
  | .document _ => .error (.raised .attributeError)

def getArtifactMetadata (db : VaultDb) (artifactId : String) :
    Except VaultError ArtifactMetadata :=
  match db.artifact? artifactId with
  | none => .error .notFound
  | some row => do
      let (sizeBytes, previewPolicy, source, relativeTargetPath) ← readMetadata row.metadata
      .ok
        { artifactId := row.artifactId, sessionId := row.sessionId, sha256 := row.sha256
          mimeType := row.mimeType, sizeBytes, offeredBy := row.offeredBy, previewPolicy
          createdAt := row.createdAt, source, relativeTargetPath }

/-- What `load_artifact_bytes` makes of a row. -/
def VaultRow.load (crypto : Crypto) (row : VaultRow) : Except VaultError Bytes :=
  match row.bytesEncrypted.bind (decryptBytes crypto) with
  | none => .error .corrupted
  | some bytes =>
      if crypto.sha256Hex bytes = row.sha256 then .ok bytes else .error .corrupted

/-- `load_artifact_bytes`. -/
def loadVaultBytes (crypto : Crypto) (db : VaultDb) (artifactId : String) :
    Except VaultError Bytes :=
  match db.artifact? artifactId with
  | none => .error .notFound
  | some row => row.load crypto

/-! ### Storing -/

/-- The arguments of `store_artifact`. `createdAt` is what `_iso_now(now)` returns, `nonce` what
`os.urandom(12)` does, and `generatedId` the id that is made up when none is given. -/
structure StoreCall where
  sessionId : String
  rawBytes : Bytes
  mimeType : String
  offeredBy : String
  previewPolicy : PyStr
  maxBytes : Int
  source : PyStr
  createdAt : String
  artifactId : Option String
  generatedId : String
  relativeTargetPath : Option PyStr
  nonce : Bytes
  nonce_length : nonce.length = 12

def StoreCall.newId (call : StoreCall) : String := call.artifactId.getD call.generatedId

def StoreCall.metaPayload (call : StoreCall) : Fields :=
  [(.text "size_bytes", .int call.rawBytes.length),
   (.text "preview_policy", .str call.previewPolicy),
   (.text "source", .str call.source),
   (.text "relative_target_path", call.relativeTargetPath.elim .null .str)]

def StoreCall.row (crypto : Crypto) (call : StoreCall) : VaultRow where
  artifactId := call.newId
  sessionId := call.sessionId
  sha256 := crypto.sha256Hex call.rawBytes
  mimeType := call.mimeType
  bytesEncrypted := some (encryptBytes crypto call.nonce call.rawBytes)
  metadata := .document (.obj call.metaPayload)
  offeredBy := call.offeredBy
  createdAt := call.createdAt

/-- The record that is returned for a new row. It does not name the target path. -/
def StoreCall.returned (crypto : Crypto) (call : StoreCall) : ArtifactMetadata where
  artifactId := call.newId
  sessionId := call.sessionId
  sha256 := crypto.sha256Hex call.rawBytes
  mimeType := call.mimeType
  sizeBytes := .int call.rawBytes.length
  offeredBy := call.offeredBy
  previewPolicy := .str call.previewPolicy
  createdAt := call.createdAt
  source := .str call.source

/-- The `INSERT` of `store_artifact`: the id is a primary key, and the session a foreign key. -/
def StoreCall.insert (crypto : Crypto) (db : VaultDb) (call : StoreCall) :
    VaultDb × Except VaultError ArtifactMetadata :=
  if (db.artifact? call.newId).isSome || !db.sessions.contains call.sessionId then
    (db, .error (.raised .integrityError))
  else ({ db with artifacts := db.artifacts ++ [call.row crypto] }, .ok (call.returned crypto))

/-- `store_artifact`. -/
def storeVaultArtifact (crypto : Crypto) (db : VaultDb) (call : StoreCall) :
    VaultDb × Except VaultError ArtifactMetadata :=
  if call.maxBytes < call.rawBytes.length then (db, .error .tooLarge)
  else
    match call.artifactId.bind db.artifact? with
    | some row =>
        if row.sha256 = crypto.sha256Hex call.rawBytes then
          (db, getArtifactMetadata db call.newId)
        else (db, .error .idConflict)
    | none => call.insert crypto db

/-! ### The round trip -/

variable {crypto : Crypto} {db : VaultDb} {call : StoreCall}

/-- The row that `store_artifact` finds is read back by `get_artifact_metadata` as it is. -/
structure StoreCall.Finds (crypto : Crypto) (db : VaultDb) (call : StoreCall) (row : VaultRow) :
    Prop where
  fits : (call.rawBytes.length : Int) ≤ call.maxBytes
  given : ∃ artifactId, call.artifactId = some artifactId ∧ db.artifact? artifactId = some row
  sha256 : row.sha256 = crypto.sha256Hex call.rawBytes

structure StoreCall.Inserts (db : VaultDb) (call : StoreCall) : Prop where
  fits : (call.rawBytes.length : Int) ≤ call.maxBytes
  fresh : db.artifact? call.newId = none
  session : call.sessionId ∈ db.sessions

theorem readMetadata_metaPayload (call : StoreCall) :
    readMetadata (.document (.obj call.metaPayload)) =
      .ok (.int call.rawBytes.length, .str call.previewPolicy, .str call.source,
        call.relativeTargetPath.elim .null .str) := rfl

theorem store_of_finds {row : VaultRow} (h : call.Finds crypto db row) :
    storeVaultArtifact crypto db call = (db, getArtifactMetadata db row.artifactId) := by
  obtain ⟨artifactId, hgiven, hrow⟩ := h.given
  have hid : call.newId = row.artifactId := by
    rw [StoreCall.newId, hgiven, Option.getD_some]
    exact (Rows.key_of_lookup hrow).symm
  rw [storeVaultArtifact, if_neg (not_lt.mpr h.fits), hgiven, Option.bind_some, hrow]
  simp only [h.sha256, if_true, hid]

theorem store_of_inserts (h : call.Inserts db) :
    storeVaultArtifact crypto db call =
      ({ db with artifacts := db.artifacts ++ [call.row crypto] }, .ok (call.returned crypto)) := by
  have hfresh : call.artifactId.bind db.artifact? = none := by
    have hnew := h.fresh
    rw [StoreCall.newId] at hnew
    cases hgiven : call.artifactId with
    | none => rfl
    | some artifactId =>
        rw [hgiven] at hnew
        exact hnew
  rw [storeVaultArtifact, if_neg (not_lt.mpr h.fits), hfresh]
  simp [StoreCall.insert, h.fresh, h.session]

/-- A call finds its row, or inserts one, or raises and changes nothing. -/
theorem store_cases (crypto : Crypto) (db : VaultDb) (call : StoreCall) :
    (∃ row, call.Finds crypto db row) ∨ call.Inserts db ∨
      ∃ e, storeVaultArtifact crypto db call = (db, .error e) := by
  rw [storeVaultArtifact]
  by_cases hlarge : call.maxBytes < call.rawBytes.length
  · exact .inr (.inr ⟨_, if_pos hlarge⟩)
  rw [if_neg hlarge]
  cases hrow : call.artifactId.bind db.artifact? with
  | some row =>
      dsimp only
      by_cases hsha : row.sha256 = crypto.sha256Hex call.rawBytes
      · obtain ⟨artifactId, hgiven, hlookup⟩ := Option.bind_eq_some_iff.mp hrow
        exact .inl ⟨row, not_lt.mp hlarge, ⟨artifactId, hgiven, hlookup⟩, hsha⟩
      · exact .inr (.inr ⟨_, if_neg hsha⟩)
  | none =>
      dsimp only
      rw [StoreCall.insert]
      by_cases hrefused : ((db.artifact? call.newId).isSome ||
          !db.sessions.contains call.sessionId) = true
      · exact .inr (.inr ⟨_, if_pos hrefused⟩)
      · obtain ⟨hfresh, hsession⟩ : db.artifact? call.newId = none ∧
            call.sessionId ∈ db.sessions := by simpa using hrefused
        exact .inr (.inl ⟨not_lt.mp hlarge, hfresh, hsession⟩)

structure RoundTrips (crypto : Crypto) (db db' : VaultDb) (call : StoreCall)
    (stored : ArtifactMetadata) : Prop where
  metadata : getArtifactMetadata db' stored.artifactId = .ok stored
  bytes : loadVaultBytes crypto db' stored.artifactId = .ok call.rawBytes
  others : ∀ other, other ≠ stored.artifactId → db'.artifact? other = db.artifact? other

/-- A call that returns a record stores what can be read back, and one that raises for the size or
the id changes nothing. -/
def StoresFaithfully (crypto : Crypto) (db : VaultDb) (call : StoreCall) : Prop :=
  match storeVaultArtifact crypto db call with
  | (db', .ok stored) => RoundTrips crypto db db' call stored
  | (db', .error e) => e = .tooLarge ∨ e = .idConflict → db' = db

theorem artifactId_of_getArtifactMetadata {row : VaultRow} {stored : ArtifactMetadata}
    (hrow : db.artifact? row.artifactId = some row)
    (h : getArtifactMetadata db row.artifactId = .ok stored) :
    stored.artifactId = row.artifactId := by
  rw [getArtifactMetadata, hrow] at h
  dsimp only at h
  cases hread : readMetadata row.metadata with
  | error e =>
      rw [hread] at h
      cases h
  | ok fields =>
      rw [hread] at h
      cases h
      rfl

theorem getArtifactMetadata_ok_iff {row : VaultRow}
    (hrow : db.artifact? row.artifactId = some row) :
    (∃ stored, getArtifactMetadata db row.artifactId = .ok stored) ↔
      ∃ fields, readMetadata row.metadata = .ok fields := by
  rw [getArtifactMetadata, hrow]
  dsimp only
  cases readMetadata row.metadata with
  | error e => exact iff_of_false (by rintro ⟨stored, h⟩; cases h) (by rintro ⟨fields, h⟩; cases h)
  | ok fields => exact iff_of_true ⟨_, rfl⟩ ⟨_, rfl⟩

/-- The blob of a row with the hash of the bytes is those bytes, or cannot be read. -/
theorem load_eq_rawBytes_iff (hsha : Function.Injective crypto.sha256Hex) {row : VaultRow}
    {bytes : Bytes} (hrow : row.sha256 = crypto.sha256Hex bytes) :
    row.load crypto = .ok bytes ↔ ∃ loaded, row.load crypto = .ok loaded := by
  constructor
  · exact fun h => ⟨bytes, h⟩
  · rintro ⟨loaded, h⟩
    have heq : crypto.sha256Hex loaded = row.sha256 := by
      rw [VaultRow.load] at h
      split at h
      · cases h
      · split at h
        · cases h
          assumption
        · cases h
    rw [h, hsha (heq.trans hrow)]

/-- A found row: the record is read from it both times. -/
theorem storesFaithfully_of_finds (hsha : Function.Injective crypto.sha256Hex) {row : VaultRow}
    (h : call.Finds crypto db row) :
    StoresFaithfully crypto db call ↔
      ((∃ fields, readMetadata row.metadata = .ok fields) →
        ∃ bytes, row.load crypto = .ok bytes) := by
  obtain ⟨artifactId, -, hlookup⟩ := h.given
  have hrow : db.artifact? row.artifactId = some row := by
    have hid : row.artifactId = artifactId := Rows.key_of_lookup hlookup
    rw [hid]
    exact hlookup
  rw [StoresFaithfully, store_of_finds h, ← getArtifactMetadata_ok_iff hrow,
    ← load_eq_rawBytes_iff hsha h.sha256]
  cases hget : getArtifactMetadata db row.artifactId with
  | error e => simp
  | ok stored =>
      have hid := artifactId_of_getArtifactMetadata hrow hget
      have hload : loadVaultBytes crypto db stored.artifactId = row.load crypto := by
        rw [loadVaultBytes, hid, hrow]
      dsimp only
      constructor
      · intro htrip _
        rw [← hload]
        exact htrip.bytes
      · intro hbytes
        refine ⟨?_, hload.trans (hbytes ⟨stored, rfl⟩), fun _ _ => rfl⟩
        rw [hid]
        exact hget

/-- A new row: the blob can be read back, and the record if no target path was given. -/
theorem storesFaithfully_of_inserts (hundo : crypto.Undoes) (h : call.Inserts db) :
    StoresFaithfully crypto db call ↔ call.relativeTargetPath = none := by
  have hnew : ({ db with artifacts := db.artifacts ++ [call.row crypto] } : VaultDb).artifact?
      call.newId = some (call.row crypto) :=
    Rows.lookup_append_fresh (r := call.row crypto) h.fresh
  have hothers : ∀ other, other ≠ call.newId →
      ({ db with artifacts := db.artifacts ++ [call.row crypto] } : VaultDb).artifact? other =
        db.artifact? other :=
    fun _ hother => Rows.lookup_append_of_ne (r := call.row crypto) hother
  have hget : getArtifactMetadata { db with artifacts := db.artifacts ++ [call.row crypto] }
      call.newId = .ok { call.returned crypto with
        relativeTargetPath := call.relativeTargetPath.elim .null .str } := by
    rw [getArtifactMetadata, hnew]
    rfl
  have hload : loadVaultBytes crypto { db with artifacts := db.artifacts ++ [call.row crypto] }
      call.newId = .ok call.rawBytes := by
    rw [loadVaultBytes, hnew]
    simp only [VaultRow.load, StoreCall.row, Option.bind_some,
      decryptBytes_encryptBytes hundo call.nonce_length, if_true]
  rw [StoresFaithfully, store_of_inserts h]
  constructor
  · intro htrip
    have hsame := hget.symm.trans htrip.metadata
    have hpath := congrArg ArtifactMetadata.relativeTargetPath (Except.ok.inj hsame)
    cases hgiven : call.relativeTargetPath with
    | none => rfl
    | some path =>
        rw [hgiven] at hpath
        cases hpath
  · intro hpath
    rw [hpath] at hget
    exact ⟨hget, hload, hothers⟩

structure Storable (crypto : Crypto) (db : VaultDb) (call : StoreCall) : Prop where
  /-- A new artifact has no target path. -/
  inserted : call.Inserts db → call.relativeTargetPath = none
  /-- An artifact that is already stored can be read. -/
  found : ∀ row, call.Finds crypto db row → (∃ fields, readMetadata row.metadata = .ok fields) →
    ∃ bytes, row.load crypto = .ok bytes

theorem not_inserts_of_finds {row : VaultRow} (h : call.Finds crypto db row) :
    ¬call.Inserts db := by
  intro hinserts
  obtain ⟨artifactId, hgiven, hlookup⟩ := h.given
  have hfresh := hinserts.fresh
  rw [StoreCall.newId, hgiven, Option.getD_some, hlookup] at hfresh
  cases hfresh

theorem finds_unique {row row' : VaultRow} (h : call.Finds crypto db row)
    (h' : call.Finds crypto db row') : row' = row := by
  obtain ⟨artifactId, hgiven, hlookup⟩ := h.given
  obtain ⟨artifactId', hgiven', hlookup'⟩ := h'.given
  rw [hgiven] at hgiven'
  cases hgiven'
  rw [hlookup] at hlookup'
  exact (Option.some.inj hlookup').symm

/-- A call stores faithfully exactly if it is storable. -/
theorem storesFaithfully_iff (crypto : Crypto) (hundo : crypto.Undoes)
    (hsha : Function.Injective crypto.sha256Hex) (db : VaultDb) (call : StoreCall) :
    StoresFaithfully crypto db call ↔ Storable crypto db call := by
  rcases store_cases crypto db call with ⟨row, hfinds⟩ | hinserts | ⟨e, herror⟩
  · rw [storesFaithfully_of_finds hsha hfinds]
    constructor
    · intro h
      refine ⟨fun hinserts => absurd hinserts (not_inserts_of_finds hfinds), ?_⟩
      intro row' hfinds'
      rw [finds_unique hfinds hfinds']
      exact h
    · intro h
      exact h.found row hfinds
  · rw [storesFaithfully_of_inserts hundo hinserts]
    constructor
    · intro h
      exact ⟨fun _ => h, fun row hfinds => absurd hinserts (not_inserts_of_finds hfinds)⟩
    · intro h
      exact h.inserted hinserts
  · refine iff_of_true ?_ ⟨?_, ?_⟩
    · rw [StoresFaithfully, herror]
      exact fun _ => rfl
    · intro hinserts
      rw [store_of_inserts hinserts] at herror
      cases congrArg Prod.snd herror
    · intro row hfinds hread
      obtain ⟨artifactId, -, hlookup⟩ := hfinds.given
      have hid : row.artifactId = artifactId := Rows.key_of_lookup hlookup
      rw [← hid] at hlookup
      obtain ⟨stored, hstored⟩ := (getArtifactMetadata_ok_iff hlookup).mpr hread
      rw [store_of_finds hfinds, hstored] at herror
      cases congrArg Prod.snd herror

/-! ### The decrypted table -/

/-- The row of the table that keeps the blob decrypted and the metadata in columns. -/
structure Represents (crypto : Crypto) (row : VaultRow) (art : ArtifactRow) : Prop where
  artifactId : row.artifactId = art.artifactId
  sessionId : row.sessionId = art.sessionId
  sha256 : row.sha256 = art.sha256
  mimeType : row.mimeType = art.mimeType
  bytes : row.bytesEncrypted.bind (decryptBytes crypto) = some art.bytes
  metadata : ∃ path, readMetadata row.metadata =
    .ok (.int art.bytes.length, .text art.previewPolicy, .text art.source, path)
  offeredBy : row.offeredBy = art.offeredBy
  createdAt : row.createdAt = isoNow art.createdAt

structure StoreCall.Models (call : StoreCall) (art : NewArtifact) : Prop where
  sessionId : call.sessionId = art.sessionId
  rawBytes : call.rawBytes = art.rawBytes
  mimeType : call.mimeType = art.mimeType
  offeredBy : call.offeredBy = art.offeredBy
  previewPolicy : call.previewPolicy = .text art.previewPolicy
  maxBytes : call.maxBytes = art.maxBytes
  source : call.source = .text art.source
  createdAt : call.createdAt = isoNow art.now
  artifactId : call.artifactId = art.artifactId
  generatedId : call.generatedId = art.generatedId

theorem lookup_represents {rows : List VaultRow} {arts : List ArtifactRow}
    (h : List.Forall₂ (Represents crypto) rows arts) (artifactId : String) :
    Option.Rel (Represents crypto) (Rows.lookup VaultRow.artifactId rows artifactId)
      (Rows.lookup ArtifactRow.artifactId arts artifactId) := by
  induction h with
  | nil => exact .none
  | cons hfirst _ ih =>
      rw [Rows.lookup_cons, Rows.lookup_cons, hfirst.artifactId]
      split
      · exact .some hfirst
      · exact ih

/-- A decrypted row that is found stands for an encrypted one that is found. -/
theorem lookup_of_represented {rows : List VaultRow} {arts : List ArtifactRow}
    (h : List.Forall₂ (Represents crypto) rows arts) {artifactId : String} {stored : ArtifactRow}
    (hart : Rows.lookup ArtifactRow.artifactId arts artifactId = some stored) :
    ∃ own, Rows.lookup VaultRow.artifactId rows artifactId = some own ∧
      Represents crypto own stored := by
  have hfound := lookup_represents h artifactId
  rw [hart] at hfound
  cases hown : Rows.lookup VaultRow.artifactId rows artifactId with
  | none =>
      rw [hown] at hfound
      cases hfound
  | some own =>
      rw [hown] at hfound
      cases hfound with
      | some hrep => exact ⟨own, rfl, hrep⟩

theorem lookup_of_not_represented {rows : List VaultRow} {arts : List ArtifactRow}
    (h : List.Forall₂ (Represents crypto) rows arts) {artifactId : String}
    (hart : Rows.lookup ArtifactRow.artifactId arts artifactId = none) :
    Rows.lookup VaultRow.artifactId rows artifactId = none := by
  have hfound := lookup_represents h artifactId
  rw [hart] at hfound
  cases hown : Rows.lookup VaultRow.artifactId rows artifactId with
  | none => rfl
  | some own =>
      rw [hown] at hfound
      cases hfound

theorem represents_row (hundo : crypto.Undoes) {ext : Externals}
    (hsha : crypto.sha256Hex = ext.sha256Hex) {art : NewArtifact} (h : call.Models art) :
    Represents crypto (call.row crypto) (artifactRow ext art) where
  artifactId := by rw [StoreCall.row, StoreCall.newId, h.artifactId, h.generatedId]; rfl
  sessionId := h.sessionId
  sha256 := by rw [StoreCall.row, hsha, h.rawBytes]; rfl
  mimeType := h.mimeType
  bytes := by
    rw [StoreCall.row, Option.bind_some, decryptBytes_encryptBytes hundo call.nonce_length,
      h.rawBytes]
    rfl
  metadata := by
    refine ⟨call.relativeTargetPath.elim .null .str, ?_⟩
    rw [StoreCall.row, readMetadata_metaPayload, h.rawBytes, h.previewPolicy, h.source]
    rfl
  offeredBy := h.offeredBy
  createdAt := h.createdAt

/-- Where the session is known and the id that is made up is new, the encrypted table stays the
table of the decrypted rows. -/
theorem storeArtifact_represents (hundo : crypto.Undoes) {ext : Externals}
    (hsha : crypto.sha256Hex = ext.sha256Hex) {art : NewArtifact} (hcall : call.Models art)
    {tables : Db} (h : List.Forall₂ (Represents crypto) db.artifacts tables.artifacts)
    (hsession : call.sessionId ∈ db.sessions)
    (hnew : call.artifactId = none → db.artifact? call.newId = none)
    {tables' : Db} {row : ArtifactRow}
    (hstore : storeArtifact ext tables art = .ok (tables', row)) :
    List.Forall₂ (Represents crypto) (storeVaultArtifact crypto db call).1.artifacts
      tables'.artifacts := by
  have hrow := represents_row hundo hsha hcall
  unfold storeArtifact at hstore
  dsimp only at hstore
  split at hstore
  · cases hstore
  rename_i hlarge
  have hfits : (call.rawBytes.length : Int) ≤ call.maxBytes := by
    rw [hcall.rawBytes, hcall.maxBytes]
    exact not_lt.mp hlarge
  split at hstore
  · rename_i stored hstored
    obtain ⟨artifactId, hgiven, hart⟩ := Option.bind_eq_some_iff.mp hstored
    obtain ⟨own, hown, hrep⟩ := lookup_of_represented h hart
    split at hstore
    · rename_i hsame
      cases hstore
      have hfinds : call.Finds crypto db own :=
        ⟨hfits, ⟨artifactId, hcall.artifactId.trans hgiven, hown⟩, by
          rw [hrep.sha256, hsame, hcall.rawBytes, hsha]
          rfl⟩
      rw [store_of_finds hfinds]
      exact h
    · cases hstore
  · rename_i hnone
    cases hstore
    have hinserts : call.Inserts db := by
      refine ⟨hfits, ?_, hsession⟩
      cases hgiven : call.artifactId with
      | none => exact hnew hgiven
      | some artifactId =>
          rw [← hcall.artifactId, hgiven, Option.bind_some] at hnone
          rw [StoreCall.newId, hgiven, Option.getD_some]
          exact lookup_of_not_represented h hnone
    rw [store_of_inserts hinserts]
    exact List.rel_append h (.cons hrow .nil)

/-! ### A target path -/

namespace Sample

/-- Bytes are kept as they are, and their hash is a letter for each of them. -/
def plainCrypto : Crypto where
  encrypt := fun _ data => data
  decrypt := fun _ data => some data
  sha256Hex := fun bytes => String.ofList (bytes.map byteLetter)

theorem plainCrypto_injective : Function.Injective plainCrypto.sha256Hex := by
  intro a b h
  exact List.map_injective_iff.mpr byteLetter_injective (String.ofList_inj.mp h)

def emptyVault : VaultDb := { sessions := ["s1"], artifacts := [] }

/-- A patch for a file of the workspace. -/
def patchCall : StoreCall where
  sessionId := "s1"
  rawBytes := [104, 105]
  mimeType := "text/x-diff"
  offeredBy := "alice"
  previewPolicy := .text "inline_text"
  maxBytes := 1000
  source := .text "adapter_output"
  createdAt := "2026-07-29T12:00:00Z"
  artifactId := some "art_1"
  generatedId := "art_0"
  relativeTargetPath := some (.text "notes.txt")
  nonce := List.replicate 12 0
  nonce_length := rfl

end Sample

/-- The record that is returned does not name the target path, and the one read back does. -/
theorem target_path_not_returned :
    ¬StoresFaithfully Sample.plainCrypto Sample.emptyVault Sample.patchCall := by
  have hinserts : Sample.patchCall.Inserts Sample.emptyVault :=
    ⟨by decide, rfl, by decide⟩
  rw [storesFaithfully_of_inserts (fun _ _ => rfl) hinserts]
  intro hpath
  cases hpath

theorem patchCall_storesFaithfully_iff :
    StoresFaithfully Sample.plainCrypto Sample.emptyVault Sample.patchCall ↔
      Storable Sample.plainCrypto Sample.emptyVault Sample.patchCall :=
  storesFaithfully_iff Sample.plainCrypto (fun _ _ => rfl) Sample.plainCrypto_injective
    Sample.emptyVault Sample.patchCall

end Kin.Artifacts
