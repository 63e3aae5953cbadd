import Kin.Artifacts.Patch
import Kin.Policy.Authority

/-!
`import_artifact_to_workspace` and `apply_patch_to_workspace` of
`kin/artifacts/workspace.py`. Both pass the same gates, in different orders, and end in
the same atomic write, which opens a temporary file beside its target. Neither compares
the session of the artifact with the session that is asked for.
-/

namespace Kin.Artifacts

open Kin.Py Kin.Lib Kin.Schemas Kin.Session Kin.Storage Kin.Policy

/-! ### Paths -/

/-- `PurePath.parts`: the anchor, when the path is absolute, and the names. -/
abbrev Path := List PyStr

def ofCodePoints (codes : List Nat) : PyStr :=
  if codes.all fun n => decide n.isValidChar then .text (String.ofList (codes.map Char.ofNat))
  else .lone codes

/-- The names of a path text: repeated slashes and `.` are dropped. -/
def pathNames (codes : List Nat) : List PyStr :=
  ((codes.splitOn 47).filter fun name => name != [] && name != [46]).map ofCodePoints

/-- The parts of `Path(text)`. -/
def pathOfText (text : PyStr) : Path :=
  match text.codePoints with
  | 47 :: 47 :: 47 :: codes => .text "/" :: pathNames codes
  | 47 :: 47 :: codes => .text "//" :: pathNames codes
  | 47 :: codes => .text "/" :: pathNames codes
  | codes => pathNames codes

def joinNames : List PyStr → PyStr
  | [] => .text ""
  | [name] => name
  | name :: names => name ++ .text "/" ++ joinNames names

/-- `str` of an absolute path. -/
def pathText : Path → PyStr
  | [] => .text ""
  | anchor :: names => anchor ++ joinNames names

/-- `Path.parent` of an absolute path. -/
def parent (path : Path) : Path := if path.tail.isEmpty then path else path.dropLast

def isRelativeTo (path root : Path) : Bool := root.isPrefixOf path

/-! ### The disk -/

/-- How `write_bytes` ends; the names are those of an `OSError`. -/
inductive WriteOutcome
  | notOpened (name : String)
  | interrupted (name : String)
  | completed
  deriving DecidableEq

structure Disk where
  /-- `Path.resolve`: absolute, without links and `..`. -/
  resolve : Path → Except WorkspaceError Path
  resolve_resolve : ∀ path resolved, resolve path = .ok resolved → resolve resolved = .ok resolved
  /-- The file that opening a path comes to. -/
  follow : Path → Path
  /-- `path.exists() and path.is_file()`. -/
  isFile : Path → Bool
  read : Path → Except WorkspaceError Bytes
  /-- `mkdir(parents=True, exist_ok=True)`: the `OSError` it raises, if any. -/
  mkdir : Path → Option String
  writeBytes : Path → Bytes → WriteOutcome
  /-- `replace`: the `OSError` it raises, if any. -/
  replace : Path → Path → Option String
  /-- `os.getpid()`. -/
  pid : Nat

/-- `read_text(encoding="utf-8")`, with universal newlines. -/
def universalNewlines : List Char → List Char
  | '\r' :: '\n' :: text => '\n' :: universalNewlines text
  | '\r' :: text => '\n' :: universalNewlines text
  | c :: text => c :: universalNewlines text
  | [] => []

def decodeUtf8Bytes (bytes : Bytes) : Option String := String.fromUTF8? ⟨bytes.toArray⟩

def encodeUtf8 (text : String) : Bytes := text.toUTF8.data.toList

def Disk.readText (disk : Disk) (path : Path) : Except WorkspaceError String := do
  let bytes ← disk.read path
  match decodeUtf8Bytes bytes with
  | some text => .ok (String.ofList (universalNewlines text.toList))
  | none => .error .unicodeDecodeError

/-- The content a patch is applied to: a target that is no file counts as empty. -/
def Disk.originalContent (disk : Disk) (target : Path) : Except WorkspaceError String :=
  if disk.isFile target then disk.readText target else .ok ""

/-! ### Gates -/

def isLetterCode (n : Nat) : Bool := (65 ≤ n && n ≤ 90) || (97 ≤ n && n ≤ 122)

/-- `re.match(r"^[A-Za-z]:[\\/]", raw)`. -/
def hasDriveLetter : List Nat → Bool
  | letter :: 58 :: n :: _ => isLetterCode letter && (n == 92 || n == 47)
  | _ => false

/-- The tests for an absolute path. `Path.is_absolute()` is the leading slash again, and
the two backslashes of a share are the leading backslash. -/
def isAbsoluteText (codes : List Nat) : Bool :=
  codes.head? == some 47 || codes.head? == some 92 || hasDriveLetter codes

def resolveSafeWorkspacePath (disk : Disk) (workspaceRoot : Path) (relativePath : PyStr) :
    Except WorkspaceError Path :=
  let raw := (strip relativePath).codePoints
  if raw.isEmpty then
    .error (.unsafeWorkspacePath (.text "Relative target path cannot be empty."))
  else if relativePath.codePoints.contains 0 then
    .error (.unsafeWorkspacePath (.text "Null bytes are forbidden in workspace paths."))
  else if isAbsoluteText raw then
    .error (.unsafeWorkspacePath
      (.text "Absolute paths are forbidden: '" ++ relativePath ++ .text "'."))
  else do
    let root ← disk.resolve workspaceRoot
    let normalized := raw.map fun n => if n = 92 then 47 else n
    let candidate ← disk.resolve (root ++ pathNames normalized)
    if isRelativeTo candidate root then .ok candidate
    else .error (.unsafeWorkspacePath
      (.text "Path traversal detected: '" ++ relativePath ++
        .text "' resolves outside workspace root '" ++ pathText root ++ .text "'."))

inductive Adapter
  | localCommand (workingDirectory : String)
  | other (type : String)

structure WorkspaceCard where
  policy : AgentCard
  adapter : Adapter

/-- `validate_card_workspace`. An empty text stands for no root. -/
def validateCardWorkspace (disk : Disk) (card : WorkspaceCard) (workspaceRoot : Option PyStr) :
    Except WorkspaceError Path :=
  match card.adapter with
  | .other type =>
      .error (.workspaceNotConfigured (.text ("Agent '" ++ card.policy.id ++
        "' has adapter type '" ++ type ++
        "'. Workspace operations require a local_command adapter.")))
  | .localCommand workingDirectory =>
      let root := (workspaceRoot.filter fun root => !root.codePoints.isEmpty).getD
        (.text workingDirectory)
      if root.codePoints.isEmpty then
        .error (.workspaceNotConfigured (.text ("Agent '" ++ card.policy.id ++
          "' local_command adapter has no working_directory configured.")))
      else disk.resolve (pathOfText root)

/-- `load_artifact_bytes`, with its exceptions. -/
def loadArtifact (ext : Externals) (artifacts : List ArtifactRow) (artifactId : String) :
    Except WorkspaceError Bytes :=
  match Rows.lookup ArtifactRow.artifactId artifacts artifactId with
  | none => .error (.artifactNotFound (.text ("Artifact '" ++ artifactId ++ "' not found.")))
  | some art =>
      if ext.sha256Hex art.bytes = art.sha256 then .ok art.bytes
      else .error (.artifactCorrupted (.text ("Artifact '" ++ artifactId ++
        "' SHA-256 hash mismatch: expected " ++ art.sha256 ++ ", computed " ++
        ext.sha256Hex art.bytes ++ ".")))

theorem loadArtifactBytes_eq (ext : Externals) (db : Db) (artifactId : String) :
    loadArtifactBytes ext db artifactId = (loadArtifact ext db.artifacts artifactId).toOption := by
  unfold loadArtifactBytes loadArtifact
  cases hart : Rows.lookup ArtifactRow.artifactId db.artifacts artifactId with
  | none => rfl
  | some art =>
      dsimp only
      split <;> rfl

/-! ### Previews -/

def isDiffContent (text : String) : Bool :=
  let lines := (splitLines (String.ofList
    (text.toList.dropWhile fun c => isSpaceCode c.toNat))).take 10
  let has := fun start : String => lines.any fun line => start.toList.isPrefixOf line
  (has "--- " && has "+++ ") || has "@@ "

structure WorkspacePatchPreview where
  artifactId : String
  relativeTargetPath : PyStr
  targetExists : Bool
  originalContent : String
  patchedContent : String
  hunksCount : Nat

def patchText (artifact : ArtifactRow) (bytes : Bytes) : Except WorkspaceError String :=
  match decodeUtf8Bytes bytes with
  | none => .error (.invalidPatchArtifact (.text ("Patch artifact '" ++ artifact.artifactId ++
      "' contains invalid non-UTF-8 bytes.")))
  | some text =>
      if ["text/x-diff", "text/x-patch"].contains (mimeName artifact.mimeType) ||
          isDiffContent text then .ok text
      else .error (.invalidPatchArtifact (.text ("Artifact '" ++ artifact.artifactId ++
        "' (mime '" ++ artifact.mimeType ++ "') is not a patch artifact.")))

def previewPatchApply (ext : Externals) (disk : Disk) (artifacts : List ArtifactRow)
    (artifactId : String) (workspaceRoot : Path) (relativeTargetPath : PyStr) :
    Except WorkspaceError WorkspacePatchPreview := do
  let target ← resolveSafeWorkspacePath disk workspaceRoot relativeTargetPath
  match Rows.lookup ArtifactRow.artifactId artifacts artifactId with
  | none => .error (.artifactNotFound (.text ("Artifact '" ++ artifactId ++ "' not found.")))
  | some artifact =>
      let bytes ← loadArtifact ext artifacts artifactId
      let patch ← patchText artifact bytes
      let original ← disk.originalContent target
      let (patched, count) ← applyUnifiedPatch original patch
      .ok
        { artifactId, relativeTargetPath
          targetExists := disk.isFile target
          originalContent := original
          patchedContent := patched
          hunksCount := count }

/-! ### The atomic write -/

/-- What a call does, in order, as far as its law speaks of it. -/
inductive Effect
  | evaluated (sessionId : String) (actionClass : ActionClass) (decision : PolicyDecision)
  | wrote (path : Path) (content : Bytes)
  deriving DecidableEq

/-- `target.with_name(f".tmp_{target.name}_{os.getpid()}")`; a path without a name
raises. -/
def tempPath (disk : Disk) (target : Path) : Option Path :=
  target.tail.getLast?.map fun name =>
    target.dropLast ++ [.text ".tmp_" ++ name ++ .text ("_" ++ toString disk.pid)]

/-- `_atomic_write_file`. The content is written to whatever file the temporary name
stands for, and the temporary file then takes the place of the target. -/
def atomicWriteFile (disk : Disk) (target : Path) (content : Bytes) :
    List Effect × Except WorkspaceError Unit :=
  match disk.mkdir (parent target) with
  | some name => ([], .error (.osError name))
  | none =>
      match tempPath disk target with
      | none => ([], .error (.raised .valueError))
      | some temp =>
          let written := Effect.wrote (disk.follow temp) content
          match disk.writeBytes temp content with
          | .notOpened name => ([], .error (.osError name))
          | .interrupted name => ([written], .error (.osError name))
          | .completed =>
              match disk.replace temp target with
              | some name => ([written], .error (.osError name))
              | none => ([written, .wrote target content], .ok ())

/-! ### The calls -/

inductive Operation
  | importArtifactToWorkspace
  | applyPatchToWorkspace

/-- The arguments of a call, with the order in which the query for approvals comes
across the rows. -/
structure Call where
  operation : Operation
  card : WorkspaceCard
  sessionId : String
  artifactId : String
  workspaceRoot : Option PyStr
  relativeTargetPath : PyStr
  now : String
  order : List ApprovalRow → List ApprovalRow := id
  order_perm : ∀ rows, (order rows).Perm rows := by exact fun rows => List.Perm.refl rows

/-- The arguments of `evaluate_action_for_session`. -/
def Call.evaluation (call : Call) : Evaluation where
  card := call.card.policy
  actionClass := .workspaceWrite
  sessionContext :=
    [(.text "session_id", .text call.sessionId),
     (.text "relative_target_path", .str call.relativeTargetPath)]
  sessionId := call.sessionId
  now := call.now
  order := call.order
  order_perm := call.order_perm

def PolicyDecision.value : PolicyDecision → String
  | .allow => "allow"
  | .deny => "deny"
  | .requiresApproval => "requires_approval"

def Call.denied (call : Call) (what : String) (result : PolicyResult) : WorkspaceError :=
  .workspaceWritePermissionDenied (.text ("Workspace " ++ what ++ " for artifact '" ++
    call.artifactId ++ "' denied by policy: decision '" ++ PolicyDecision.value result.decision ++
    "', reason: '" ++ result.reason ++ "'"))

/-- A call: the tables afterwards, what was done, and the path it returns. -/
structure Outcome where
  db : Db
  effects : List Effect := []
  result : Except WorkspaceError Path

/-- The check of the policy that both calls make, and what follows it. -/
def Call.gated (call : Call) (db : Db) (what : String)
    (rest : Db → List Effect × Except WorkspaceError Path) : Outcome :=
  match evaluateActionForSession call.evaluation db.approvals with
  | (approvals, .error e) =>
      { db := { db with approvals }, result := .error (.raised e) }
  | (approvals, .ok result) =>
      let evaluated :=
        Effect.evaluated call.evaluation.sessionId call.evaluation.actionClass result.decision
      let db := { db with approvals }
      if result.decision = .allow then
        { db, effects := evaluated :: (rest db).1, result := (rest db).2 }
      else { db, effects := [evaluated], result := .error (call.denied what result) }

/-- `_atomic_write_file` and the `return` after it. -/
def writeTo (disk : Disk) (target : Path) (content : Bytes) :
    List Effect × Except WorkspaceError Path :=
  ((atomicWriteFile disk target content).1,
    (atomicWriteFile disk target content).2.map fun _ => target)

def importArtifactToWorkspace (ext : Externals) (disk : Disk) (db : Db) (call : Call) : Outcome :=
  match validateCardWorkspace disk call.card call.workspaceRoot with
  | .error e => { db, result := .error e }
  | .ok root =>
      match resolveSafeWorkspacePath disk root call.relativeTargetPath with
      | .error e => { db, result := .error e }
      | .ok target =>
          call.gated db "import" fun db =>
            match loadArtifact ext db.artifacts call.artifactId with
            | .error e => ([], .error e)
            | .ok bytes => writeTo disk target bytes

def applyPatchToWorkspace (ext : Externals) (disk : Disk) (db : Db) (call : Call) : Outcome :=
  match validateCardWorkspace disk call.card call.workspaceRoot with
  | .error e => { db, result := .error e }
  | .ok root =>
      match previewPatchApply ext disk db.artifacts call.artifactId root
          call.relativeTargetPath with
      | .error e => { db, result := .error e }
      | .ok preview =>
          call.gated db "patch apply" fun _ =>
            match resolveSafeWorkspacePath disk root call.relativeTargetPath with
            | .error e => ([], .error e)
            | .ok target => writeTo disk target (encodeUtf8 preview.patchedContent)

def perform (ext : Externals) (disk : Disk) (db : Db) (call : Call) : Outcome :=
  match call.operation with
  | .importArtifactToWorkspace => importArtifactToWorkspace ext disk db call
  | .applyPatchToWorkspace => applyPatchToWorkspace ext disk db call

end Kin.Artifacts
