import Kin.Artifacts.Workspace
import Kin.Lib.Run
import Kin.Transport.Outbound

/-!
The authority behind a write into a workspace. Both calls come to one shape: past their
gates they write the content of the named artifact, else they write nothing. What the
gates leave open is which session the artifact is from, and where the temporary file
beside the target ends up.
-/

namespace Kin.Artifacts

open Kin.Py Kin.Lib Kin.Schemas Kin.Session Kin.Storage Kin.Policy Kin.Transport

variable {ext : Externals} {disk : Disk} {db : Db} {call : Call}

/-! ### What a call writes -/

def Operation.Yields (operation : Operation) (artifact : ArtifactRow) (content : Bytes) : Prop :=
  match operation with
  | .importArtifactToWorkspace => content = artifact.bytes
  | .applyPatchToWorkspace => ∃ patch original text count,
      decodeUtf8Bytes artifact.bytes = some patch ∧
        applyUnifiedPatch original patch = .ok (text, count) ∧ content = encodeUtf8 text

def Call.content (ext : Externals) (disk : Disk) (db : Db) (call : Call) (root : Path) :
    Except WorkspaceError Bytes :=
  match call.operation with
  | .importArtifactToWorkspace => loadArtifact ext db.artifacts call.artifactId
  | .applyPatchToWorkspace =>
      (previewPatchApply ext disk db.artifacts call.artifactId root call.relativeTargetPath).map
        fun preview => encodeUtf8 preview.patchedContent

/-- `evaluate_action_for_session` returns `ALLOW`. -/
def Call.Allowed (db : Db) (call : Call) : Prop :=
  ∃ approvals result,
    evaluateActionForSession call.evaluation db.approvals = (approvals, .ok result) ∧
      result.decision = .allow

structure Call.Passes (ext : Externals) (disk : Disk) (db : Db) (call : Call)
    (root target : Path) (content : Bytes) : Prop where
  card : validateCardWorkspace disk call.card call.workspaceRoot = .ok root
  path : resolveSafeWorkspacePath disk root call.relativeTargetPath = .ok target
  allowed : call.Allowed db
  content : call.content ext disk db root = .ok content

theorem resolve_of_validateCardWorkspace {card : WorkspaceCard} {workspaceRoot : Option PyStr}
    {root : Path} (h : validateCardWorkspace disk card workspaceRoot = .ok root) :
    disk.resolve root = .ok root := by
  unfold validateCardWorkspace at h
  split at h
  · cases h
  dsimp only at h
  split at h
  · cases h
  · exact disk.resolve_resolve _ _ h

/-- A path that the safety check returns is inside the root. -/
theorem inside_of_resolveSafeWorkspacePath {root target : Path} {relativePath : PyStr}
    (hroot : disk.resolve root = .ok root)
    (h : resolveSafeWorkspacePath disk root relativePath = .ok target) : root <+: target := by
  unfold resolveSafeWorkspacePath at h
  dsimp only at h
  split at h
  · cases h
  split at h
  · cases h
  split at h
  · cases h
  rw [hroot] at h
  cases hcandidate : disk.resolve (root ++ pathNames
      ((strip relativePath).codePoints.map fun n => if n = 92 then 47 else n)) with
  | error e => simp [bind, Except.bind, hcandidate] at h
  | ok candidate =>
      simp only [bind, Except.bind, hcandidate] at h
      split at h
      · rename_i hinside
        cases h
        exact List.isPrefixOf_iff_prefix.mp hinside
      · cases h

theorem artifact_of_loadArtifact {artifacts : List ArtifactRow} {artifactId : String}
    {bytes : Bytes} (h : loadArtifact ext artifacts artifactId = .ok bytes) :
    ∃ artifact, Rows.lookup ArtifactRow.artifactId artifacts artifactId = some artifact ∧
      bytes = artifact.bytes := by
  unfold loadArtifact at h
  split at h
  · cases h
  · rename_i artifact hart
    split at h
    · cases h
      exact ⟨artifact, hart, rfl⟩
    · cases h

/-- A step of an `Except` block that went through. -/
theorem bind_ok {α β : Type} {x : Except WorkspaceError α} {f : α → Except WorkspaceError β}
    {b : β} (h : (x >>= f) = .ok b) : ∃ a, x = .ok a ∧ f a = .ok b := by
  cases x with
  | error e => cases h
  | ok a => exact ⟨a, rfl, h⟩

theorem text_of_patchText {artifact : ArtifactRow} {bytes : Bytes} {text : String}
    (h : patchText artifact bytes = .ok text) : decodeUtf8Bytes bytes = some text := by
  unfold patchText at h
  split at h
  · cases h
  · rename_i hdecode
    split at h
    · cases h
      exact hdecode
    · cases h

/-- A preview is of the safe path, and shows what the named artifact makes of a text. -/
theorem previewPatchApply_ok {artifacts : List ArtifactRow} {artifactId : String} {root : Path}
    {relativePath : PyStr} {preview : WorkspacePatchPreview}
    (h : previewPatchApply ext disk artifacts artifactId root relativePath = .ok preview) :
    (∃ target, resolveSafeWorkspacePath disk root relativePath = .ok target) ∧
    ∃ artifact, Rows.lookup ArtifactRow.artifactId artifacts artifactId = some artifact ∧
      Operation.applyPatchToWorkspace.Yields artifact (encodeUtf8 preview.patchedContent) := by
  obtain ⟨target, htarget, h⟩ := bind_ok h
  refine ⟨⟨target, htarget⟩, ?_⟩
  split at h
  · cases h
  rename_i artifact hart
  obtain ⟨bytes, hbytes, h⟩ := bind_ok h
  obtain ⟨patch, hpatch, h⟩ := bind_ok h
  obtain ⟨original, -, h⟩ := bind_ok h
  obtain ⟨⟨patched, count⟩, happly, h⟩ := bind_ok h
  cases h
  refine ⟨artifact, hart, patch, original, patched, count, ?_, happly, rfl⟩
  obtain ⟨artifact', hart', rfl⟩ := artifact_of_loadArtifact hbytes
  rw [hart] at hart'
  cases hart'
  exact text_of_patchText hpatch

/-- The content of a call comes from the artifact it names. -/
theorem artifact_of_content {root : Path} {content : Bytes}
    (h : call.content ext disk db root = .ok content) :
    ∃ artifact, Rows.lookup ArtifactRow.artifactId db.artifacts call.artifactId = some artifact ∧
      call.operation.Yields artifact content := by
  unfold Call.content at h
  cases hoperation : call.operation with
  | importArtifactToWorkspace =>
      rw [hoperation] at h
      exact artifact_of_loadArtifact h
  | applyPatchToWorkspace =>
      rw [hoperation] at h
      cases hpreview : previewPatchApply ext disk db.artifacts call.artifactId root
          call.relativeTargetPath with
      | error e =>
          rw [hpreview] at h
          cases h
      | ok preview =>
          rw [hpreview] at h
          cases h
          exact (previewPatchApply_ok hpreview).2

/-! ### The check of the policy -/

theorem gated_of_allowed {what : String} {rest : Db → List Effect × Except WorkspaceError Path}
    (h : call.Allowed db) : ∃ approvals, (call.gated db what rest).effects =
      .evaluated call.sessionId .workspaceWrite .allow :: (rest { db with approvals }).1 := by
  obtain ⟨approvals, result, hevaluate, hallow⟩ := h
  refine ⟨approvals, ?_⟩
  unfold Call.gated
  rw [hevaluate]
  simp only [hallow, if_true]
  rfl

theorem allowed_of_gated {what : String} {rest : Db → List Effect × Except WorkspaceError Path}
    {path : Path} {content : Bytes}
    (h : .wrote path content ∈ (call.gated db what rest).effects) :
    call.Allowed db ∧ ∃ approvals, .wrote path content ∈ (rest { db with approvals }).1 := by
  unfold Call.gated at h
  split at h
  · cases h
  · rename_i approvals result hevaluate
    dsimp only at h
    split at h
    · rename_i hallow
      refine ⟨⟨approvals, result, hevaluate, hallow⟩, approvals, ?_⟩
      rcases List.mem_cons.mp h with heq | hmem
      · cases heq
      · exact hmem
    · rcases List.mem_cons.mp h with heq | hmem
      · cases heq
      · cases hmem

/-! ### The two calls -/

/-- Past its gates a call writes the content to the target. -/
theorem effects_of_passes {root target : Path} {content : Bytes}
    (h : call.Passes ext disk db root target content) :
    (perform ext disk db call).effects = .evaluated call.sessionId .workspaceWrite .allow ::
      (atomicWriteFile disk target content).1 := by
  have hcontent := h.content
  unfold Call.content at hcontent
  unfold perform
  cases hoperation : call.operation with
  | importArtifactToWorkspace =>
      rw [hoperation] at hcontent
      simp only [importArtifactToWorkspace, h.card, h.path]
      obtain ⟨approvals, heffects⟩ := gated_of_allowed h.allowed
      rw [heffects]
      simp only [hcontent]
      rfl
  | applyPatchToWorkspace =>
      rw [hoperation] at hcontent
      cases hpreview : previewPatchApply ext disk db.artifacts call.artifactId root
          call.relativeTargetPath with
      | error e =>
          rw [hpreview] at hcontent
          cases hcontent
      | ok preview =>
          rw [hpreview] at hcontent
          cases hcontent
          simp only [applyPatchToWorkspace, h.card, hpreview]
          obtain ⟨approvals, heffects⟩ := gated_of_allowed h.allowed
          rw [heffects]
          simp only [h.path]
          rfl

/-- A call that writes has passed its gates. -/
theorem passes_of_wrote {path : Path} {bytes : Bytes}
    (h : .wrote path bytes ∈ (perform ext disk db call).effects) :
    ∃ root target content, call.Passes ext disk db root target content := by
  unfold perform at h
  cases hoperation : call.operation with
  | importArtifactToWorkspace =>
      simp only [hoperation, importArtifactToWorkspace] at h
      cases hcard : validateCardWorkspace disk call.card call.workspaceRoot with
      | error e => simp [hcard] at h
      | ok root =>
          simp only [hcard] at h
          cases hpath : resolveSafeWorkspacePath disk root call.relativeTargetPath with
          | error e => simp [hpath] at h
          | ok target =>
              simp only [hpath] at h
              obtain ⟨hallowed, approvals, hwrote⟩ := allowed_of_gated h
              cases hload : loadArtifact ext db.artifacts call.artifactId with
              | error e => simp [hload] at hwrote
              | ok content =>
                  refine ⟨root, target, content, hcard, hpath, hallowed, ?_⟩
                  simp only [Call.content, hoperation, hload]
  | applyPatchToWorkspace =>
      simp only [hoperation, applyPatchToWorkspace] at h
      cases hcard : validateCardWorkspace disk call.card call.workspaceRoot with
      | error e => simp [hcard] at h
      | ok root =>
          simp only [hcard] at h
          cases hpreview : previewPatchApply ext disk db.artifacts call.artifactId root
              call.relativeTargetPath with
          | error e => simp [hpreview] at h
          | ok preview =>
              simp only [hpreview] at h
              obtain ⟨hallowed, -⟩ := allowed_of_gated h
              obtain ⟨⟨target, hpath⟩, -⟩ := previewPatchApply_ok hpreview
              refine ⟨root, target, encodeUtf8 preview.patchedContent, hcard, hpath, hallowed, ?_⟩
              simp only [Call.content, hoperation, hpreview]
              rfl

/-! ### The atomic write -/

structure Disk.Receives (disk : Disk) (target : Path) (content : Bytes) (temp : Path) : Prop where
  directory : disk.mkdir (parent target) = none
  name : tempPath disk target = some temp
  opened : ∀ error, disk.writeBytes temp content ≠ .notOpened error

theorem wrote_temp {target temp : Path} {content : Bytes}
    (h : disk.Receives target content temp) :
    .wrote (disk.follow temp) content ∈ (atomicWriteFile disk target content).1 := by
  unfold atomicWriteFile
  simp only [h.directory, h.name]
  cases hwrite : disk.writeBytes temp content with
  | notOpened error => exact absurd hwrite (h.opened error)
  | interrupted error => exact List.mem_singleton_self _
  | completed =>
      dsimp only
      split <;> exact List.mem_cons_self

theorem receives_of_wrote {target path : Path} {content bytes : Bytes}
    (h : .wrote path bytes ∈ (atomicWriteFile disk target content).1) :
    ∃ temp, disk.Receives target content temp ∧ bytes = content ∧
      (path = disk.follow temp ∨ path = target) := by
  unfold atomicWriteFile at h
  split at h
  · cases h
  rename_i hdirectory
  split at h
  · cases h
  rename_i temp hname
  dsimp only at h
  split at h
  · cases h
  · rename_i hwrite
    cases List.mem_singleton.mp h
    refine ⟨temp, ⟨hdirectory, hname, fun error herror => ?_⟩, rfl, .inl rfl⟩
    rw [hwrite] at herror
    cases herror
  · rename_i hwrite
    have hreceives : disk.Receives target content temp := by
      refine ⟨hdirectory, hname, fun error herror => ?_⟩
      rw [hwrite] at herror
      cases herror
    split at h
    · cases List.mem_singleton.mp h
      exact ⟨temp, hreceives, rfl, .inl rfl⟩
    · rcases List.mem_cons.mp h with heq | hmem
      · cases heq
        exact ⟨temp, hreceives, rfl, .inl rfl⟩
      · cases List.mem_singleton.mp hmem
        exact ⟨temp, hreceives, rfl, .inr rfl⟩

/-! ### The law of a call -/

/-- Every write of the call is inside the root, after an `ALLOW` for the session, and
makes something of an artifact of the session. -/
def WritesAuthorised (ext : Externals) (disk : Disk) (db : Db) (call : Call) : Prop :=
  ∀ before path content after,
    (perform ext disk db call).effects = before ++ .wrote path content :: after →
      .evaluated call.sessionId .workspaceWrite .allow ∈ before ∧
      (∃ root, validateCardWorkspace disk call.card call.workspaceRoot = .ok root ∧
        root <+: path) ∧
      ∃ artifact, Rows.lookup ArtifactRow.artifactId db.artifacts call.artifactId = some artifact ∧
        artifact.sessionId = call.sessionId ∧ call.operation.Yields artifact content

/-- Where a call gets to its write, the artifact it names is of its session, and the
temporary name beside the target stands for a file inside the root. -/
def Confined (ext : Externals) (disk : Disk) (db : Db) (call : Call) : Prop :=
  ∀ root target content temp artifact, call.Passes ext disk db root target content →
    disk.Receives target content temp →
    Rows.lookup ArtifactRow.artifactId db.artifacts call.artifactId = some artifact →
      artifact.sessionId = call.sessionId ∧ root <+: disk.follow temp

theorem authorised_of_confined (h : Confined ext disk db call) :
    WritesAuthorised ext disk db call := by
  intro before path bytes after htrace
  have hwrote : .wrote path bytes ∈ (perform ext disk db call).effects := by
    rw [htrace]
    exact List.mem_append_right _ List.mem_cons_self
  obtain ⟨root, target, content, hpasses⟩ := passes_of_wrote hwrote
  obtain ⟨artifact, hart, hyields⟩ := artifact_of_content hpasses.content
  rw [effects_of_passes hpasses] at htrace hwrote
  have hmem : .wrote path bytes ∈ (atomicWriteFile disk target content).1 := by
    rcases List.mem_cons.mp hwrote with heq | hmem
    · cases heq
    · exact hmem
  obtain ⟨temp, hreceives, rfl, hpath⟩ := receives_of_wrote hmem
  obtain ⟨hsession, htemp⟩ := h root target bytes temp artifact hpasses hreceives hart
  refine ⟨?_, ⟨root, hpasses.card, ?_⟩, artifact, hart, hsession, hyields⟩
  · -- The first effect is the evaluation, so it stands before every write.
    cases before with
    | nil => cases htrace
    | cons first before =>
        cases (List.cons.inj htrace).1
        exact List.mem_cons_self
  · rcases hpath with rfl | rfl
    · exact htemp
    · exact inside_of_resolveSafeWorkspacePath
        (resolve_of_validateCardWorkspace hpasses.card) hpasses.path

theorem confined_of_authorised (h : WritesAuthorised ext disk db call) :
    Confined ext disk db call := by
  intro root target content temp artifact hpasses hreceives hart
  obtain ⟨before, after, hsplit⟩ := List.append_of_mem (wrote_temp hreceives)
  have htrace : (perform ext disk db call).effects =
      (.evaluated call.sessionId .workspaceWrite .allow :: before) ++
        .wrote (disk.follow temp) content :: after := by
    rw [effects_of_passes hpasses, hsplit]
    rfl
  obtain ⟨-, ⟨root', hcard, hinside⟩, artifact', hart', hsession, -⟩ := h _ _ _ _ htrace
  rw [hpasses.card] at hcard
  cases hcard
  rw [hart] at hart'
  cases hart'
  exact ⟨hsession, hinside⟩

/-! ### Runs -/

/-- A step of a run: a call, or whatever else happens to the tables. -/
inductive Step
  | call (disk : Disk) (call : Call)
  | other (db : Db)

def step (ext : Externals) (db : Db) : Step → Db
  | .call disk call => (perform ext disk db call).db
  | .other db => db

def OfCalls (law : Disk → Db → Call → Prop) (db : Db) : Step → Prop
  | .call disk call => law disk db call
  | .other _ => True

theorem OfCalls.mono {law law' : Disk → Db → Call → Prop}
    (h : ∀ disk db call, law disk db call → law' disk db call) (db : Db) (s : Step)
    (hs : OfCalls law db s) : OfCalls law' db s := by
  cases s with
  | call disk call => exact h disk db call hs
  | other db' => trivial

/-- In a run every write into a workspace is authorised for its session exactly if every
call that gets to its write names an artifact of its own session and finds its temporary
name inside the root. -/
theorem workspace_writes_authorised_iff (ext : Externals) (db : Db) (steps : List Step) :
    Along (step ext) (OfCalls (WritesAuthorised ext)) db steps ↔
      Along (step ext) (OfCalls (Confined ext)) db steps := by
  constructor
  · exact Along.mono (OfCalls.mono fun _ _ _ => confined_of_authorised)
  · exact Along.mono (OfCalls.mono fun _ _ _ => authorised_of_confined)

/-! ### An artifact of another session -/

open Sample (externals)

/-- A disk without links, seen at paths without `..`. -/
def plainDisk : Disk where
  resolve := .ok
  resolve_resolve := fun _ _ _ => rfl
  follow := id
  isFile := fun _ => false
  read := fun _ => .error (.osError "ENOENT")
  mkdir := fun _ => none
  writeBytes := fun _ _ => .completed
  replace := fun _ _ => none
  pid := 7

def foreignArtifact : ArtifactRow :=
  { artifactId := "art-1", sessionId := "s2", sha256 := externals.sha256Hex [104, 105]
    mimeType := "text/plain", bytes := [104, 105], previewPolicy := "none"
    source := "adapter_output", offeredBy := "bob", createdAt := 0 }

def importForeign : Call :=
  { operation := .importArtifactToWorkspace
    card := { policy := writerCard, adapter := .localCommand "/work" }
    sessionId := "s1", artifactId := "art-1", workspaceRoot := none
    relativeTargetPath := .text "notes.txt", now := "2026-07-29T12:10:00Z" }

def twoSessions : Db :=
  { Db.fresh (some "alice") [] [] with artifacts := [foreignArtifact], approvals := [writeOnce] }

theorem importForeign_passes :
    importForeign.Passes externals plainDisk twoSessions [.text "/", .text "work"]
      [.text "/", .text "work", .text "notes.txt"] [104, 105] where
  card := by decide
  path := by decide
  allowed := ⟨_, _, rfl, rfl⟩
  content := by rfl

/-- The approval of one session lets an artifact of another one into the workspace. -/
theorem foreign_artifact_written :
    ¬ Along (step externals) (OfCalls (WritesAuthorised externals)) twoSessions
      [.call plainDisk importForeign] := by
  intro h
  have hreceives : plainDisk.Receives [.text "/", .text "work", .text "notes.txt"] [104, 105]
      [.text "/", .text "work", .text ".tmp_notes.txt_7"] :=
    ⟨rfl, by decide, fun _ herror => by cases herror⟩
  have hsession := (confined_of_authorised h.1 _ _ _ _ foreignArtifact importForeign_passes
    hreceives rfl).1
  exact absurd hsession (by decide)

end Kin.Artifacts
