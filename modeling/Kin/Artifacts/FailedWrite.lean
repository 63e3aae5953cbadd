import Kin.Artifacts.WriteAuthority
import Kin.Policy.SingleUse

/-!
What a write into a workspace that fails costs. The check of the policy marks the single-use
approval on account of which it allows the write, and commits that. What can still fail
afterwards decides whether the approval is lost: the import loads its artifact only then.
-/

namespace Kin.Artifacts

open Kin.Py Kin.Lib Kin.Schemas Kin.Session Kin.Storage Kin.Policy Kin.Transport

variable {ext : Externals} {disk : Disk} {db : Db} {call : Call}

/-! ### The check of the policy -/

/-- The check finds a single-use approval and allows the write on account of it. -/
def Call.Spends (db : Db) (call : Call) : Prop :=
  ∃ row result, selectApproval call.evaluation db.approvals = some row ∧
    row.decision = some "approve_once" ∧
    verdict call.evaluation (some row) = .ok result ∧ result.decision = .allow

/-- A row that was not used is another one once it is marked. -/
theorem markConsumed_ne {approvals : List ApprovalRow} {row : ApprovalRow}
    (hmem : row ∈ approvals) (hunused : row.consumedAt = none) (now : String) :
    markConsumed approvals row.approvalId now ≠ approvals := by
  intro heq
  rw [markConsumed, Rows.modify] at heq
  have hrow := List.map_inj_left.mp (heq.trans (List.map_id approvals).symm) row hmem
  rw [if_pos rfl] at hrow
  have hmarked : some now = row.consumedAt := congrArg ApprovalRow.consumedAt hrow
  rw [hunused] at hmarked
  cases hmarked

/-- A single-use approval that the query selects has not been used. -/
theorem unused_of_selects {e : Evaluation} {row : ApprovalRow} (h : e.selects row = true)
    (honce : row.decision = some "approve_once") : row.consumedAt = none := by
  have hunused : unused row = true := (Bool.and_eq_true_iff.mp h).2
  rw [unused, honce] at hunused
  simpa using hunused

/-- A check that spends an approval changes the table and lets the write go on. -/
theorem evaluate_of_spends (h : call.Spends db) :
    ∃ approvals result, evaluateActionForSession call.evaluation db.approvals =
        (approvals, .ok result) ∧ result.decision = .allow ∧ approvals ≠ db.approvals := by
  obtain ⟨row, result, hselect, honce, hverdict, hallow⟩ := h
  obtain ⟨hmem, hselects, -⟩ := selectApproval_spec hselect
  have hspent : spent result (some row) = some row.approvalId := by
    rw [spent, if_pos hallow]
    simp [honce]
  refine ⟨_, result, ?_, hallow,
    markConsumed_ne hmem (unused_of_selects hselects honce) call.evaluation.now⟩
  simp only [evaluateActionForSession, hselect, hverdict, hspent]

/-- Any other check leaves the table as it is. -/
theorem evaluate_of_not_spends (h : ¬call.Spends db) :
    (evaluateActionForSession call.evaluation db.approvals).1 = db.approvals := by
  rw [evaluateActionForSession]
  cases hverdict : verdict call.evaluation (selectApproval call.evaluation db.approvals) with
  | error e => rfl
  | ok result =>
      dsimp only
      cases hspent : spent result (selectApproval call.evaluation db.approvals) with
      | none => rfl
      | some approvalId =>
          obtain ⟨hallow, row, hselect, -, honce⟩ := spent_eq_some hspent
          rw [hselect] at hverdict
          exact absurd ⟨row, result, hselect, honce, hverdict, hallow⟩ h

variable {what : String} {rest : Db → List Effect × Except WorkspaceError Path}

variable (what rest) in
theorem gated_of_spends (h : call.Spends db) :
    ∃ approvals, approvals ≠ db.approvals ∧ (call.gated db what rest).db.approvals = approvals ∧
      (call.gated db what rest).result = (rest { db with approvals }).2 := by
  obtain ⟨approvals, result, hevaluate, hallow, hne⟩ := evaluate_of_spends h
  refine ⟨approvals, hne, ?_⟩
  simp only [Call.gated, hevaluate, hallow, if_true, and_self]

theorem gated_of_not_spends (h : ¬call.Spends db) :
    (call.gated db what rest).db.approvals = db.approvals := by
  have happrovals := evaluate_of_not_spends h
  rw [Call.gated]
  split
  · rename_i approvals e hevaluate
    rw [hevaluate] at happrovals
    exact happrovals
  · rename_i approvals result hevaluate
    rw [hevaluate] at happrovals
    dsimp only
    split <;> exact happrovals

/-- A gated step costs no approval when it fails exactly if it does not spend one, or does not
fail afterwards whatever the approvals are. -/
theorem gated_spares_iff (hrest : ∀ approvals, (rest { db with approvals }).2 = (rest db).2) :
    (∀ e, (call.gated db what rest).result = .error e →
        (call.gated db what rest).db.approvals = db.approvals) ↔
      (call.Spends db → ∃ path, (rest db).2 = .ok path) := by
  by_cases hspends : call.Spends db
  · obtain ⟨approvals, hne, happrovals, hresult⟩ :=
      gated_of_spends what rest hspends
    rw [hresult, hrest, happrovals]
    constructor
    · intro h _
      cases hpath : (rest db).2 with
      | ok path => exact ⟨path, rfl⟩
      | error e => exact absurd (h e hpath) hne
    · intro h e herror
      obtain ⟨path, hpath⟩ := h hspends
      rw [hpath] at herror
      cases herror
  · exact iff_of_true (fun _ _ => gated_of_not_spends hspends) fun h => absurd h hspends

/-! ### The write -/

/-- The disk takes the content: every step of the atomic write goes through. -/
structure Disk.Takes (disk : Disk) (target : Path) (content : Bytes) (temp : Path) : Prop where
  directory : disk.mkdir (parent target) = none
  name : tempPath disk target = some temp
  written : disk.writeBytes temp content = .completed
  replaced : disk.replace temp target = none

theorem writeTo_ok_iff {target : Path} {content : Bytes} :
    (∃ path, (writeTo disk target content).2 = .ok path) ↔
      ∃ temp, disk.Takes target content temp := by
  rw [writeTo]
  dsimp only
  constructor
  · rintro ⟨path, hpath⟩
    unfold atomicWriteFile at hpath
    split at hpath
    · cases hpath
    rename_i hdirectory
    split at hpath
    · cases hpath
    rename_i temp hname
    dsimp only at hpath
    split at hpath
    · cases hpath
    · cases hpath
    rename_i hwritten
    split at hpath
    · cases hpath
    rename_i hreplaced
    exact ⟨temp, hdirectory, hname, hwritten, hreplaced⟩
  · rintro ⟨temp, hdirectory, hname, hwritten, hreplaced⟩
    refine ⟨target, ?_⟩
    simp only [atomicWriteFile, hdirectory, hname, hwritten, hreplaced, Except.map]

/-! ### The two calls -/

/-- A call that raises leaves the approvals as they are. -/
def SparesAuthority (ext : Externals) (disk : Disk) (db : Db) (call : Call) : Prop :=
  ∀ e, (perform ext disk db call).result = .error e →
    (perform ext disk db call).db.approvals = db.approvals

/-- What is left to do after the check of the policy goes through. A patch is worked out before
that check. -/
def Completes (ext : Externals) (disk : Disk) (db : Db) (call : Call) (root target : Path) : Prop :=
  match call.operation with
  | .importArtifactToWorkspace =>
      ∃ content temp, loadArtifact ext db.artifacts call.artifactId = .ok content ∧
        disk.Takes target content temp
  | .applyPatchToWorkspace => ∀ preview,
      previewPatchApply ext disk db.artifacts call.artifactId root call.relativeTargetPath =
        .ok preview → ∃ temp, disk.Takes target (encodeUtf8 preview.patchedContent) temp

/-- A call that passes the gates before the check of the policy, and spends an approval in it,
goes through. -/
def SpendsLast (ext : Externals) (disk : Disk) (db : Db) (call : Call) : Prop :=
  ∀ root target, validateCardWorkspace disk call.card call.workspaceRoot = .ok root →
    resolveSafeWorkspacePath disk root call.relativeTargetPath = .ok target →
      call.Spends db → Completes ext disk db call root target

theorem spendsLast_of_refused
    (h : ∀ root target, validateCardWorkspace disk call.card call.workspaceRoot = .ok root →
      resolveSafeWorkspacePath disk root call.relativeTargetPath ≠ .ok target) :
    SpendsLast ext disk db call :=
  fun root target hcard hpath => absurd hpath (h root target hcard)

theorem spendsLast_iff {root target : Path}
    (hcard : validateCardWorkspace disk call.card call.workspaceRoot = .ok root)
    (hpath : resolveSafeWorkspacePath disk root call.relativeTargetPath = .ok target) :
    SpendsLast ext disk db call ↔ (call.Spends db → Completes ext disk db call root target) := by
  constructor
  · intro h
    exact h root target hcard hpath
  · intro h root' target' hcard' hpath'
    rw [hcard] at hcard'
    cases hcard'
    rw [hpath] at hpath'
    cases hpath'
    exact h

theorem import_spares_iff (hoperation : call.operation = .importArtifactToWorkspace) :
    SparesAuthority ext disk db call ↔ SpendsLast ext disk db call := by
  simp only [SparesAuthority, perform, hoperation, importArtifactToWorkspace]
  cases hcard : validateCardWorkspace disk call.card call.workspaceRoot with
  | error e =>
      refine iff_of_true (fun _ _ => rfl) (spendsLast_of_refused ?_)
      intro root target hroot
      rw [hcard] at hroot
      cases hroot
  | ok root =>
      dsimp only
      cases hpath : resolveSafeWorkspacePath disk root call.relativeTargetPath with
      | error e =>
          refine iff_of_true (fun _ _ => rfl) (spendsLast_of_refused ?_)
          intro root' target hroot htarget
          rw [hcard] at hroot
          cases hroot
          rw [hpath] at htarget
          cases htarget
      | ok target =>
          rw [spendsLast_iff hcard hpath, gated_spares_iff (fun _ => rfl)]
          apply imp_congr_right
          intro _
          simp only [Completes, hoperation]
          cases hload : loadArtifact ext db.artifacts call.artifactId with
          | error e => simp
          | ok content =>
              rw [writeTo_ok_iff]
              simp

theorem patch_spares_iff (hoperation : call.operation = .applyPatchToWorkspace) :
    SparesAuthority ext disk db call ↔ SpendsLast ext disk db call := by
  simp only [SparesAuthority, perform, hoperation, applyPatchToWorkspace]
  cases hcard : validateCardWorkspace disk call.card call.workspaceRoot with
  | error e =>
      refine iff_of_true (fun _ _ => rfl) (spendsLast_of_refused ?_)
      intro root target hroot
      rw [hcard] at hroot
      cases hroot
  | ok root =>
      dsimp only
      cases hpreview : previewPatchApply ext disk db.artifacts call.artifactId root
          call.relativeTargetPath with
      | error e =>
          refine iff_of_true (fun _ _ => rfl) ?_
          intro root' target hroot _ _
          rw [hcard] at hroot
          cases hroot
          simp only [Completes, hoperation, hpreview]
          intro preview hok
          cases hok
      | ok preview =>
          obtain ⟨⟨target, hpath⟩, -⟩ := previewPatchApply_ok hpreview
          rw [spendsLast_iff hcard hpath, gated_spares_iff (fun _ => rfl)]
          apply imp_congr_right
          intro _
          simp only [Completes, hoperation, hpreview, hpath]
          rw [writeTo_ok_iff]
          simp

/-- A call that raises leaves the approvals as they are exactly if no call that spends one fails
after the check of the policy. -/
theorem sparesAuthority_iff (ext : Externals) (disk : Disk) (db : Db) (call : Call) :
    SparesAuthority ext disk db call ↔ SpendsLast ext disk db call := by
  cases hoperation : call.operation with
  | importArtifactToWorkspace => exact import_spares_iff hoperation
  | applyPatchToWorkspace => exact patch_spares_iff hoperation

/-! ### An artifact that is not there -/

open Sample (externals)

/-- The session has its approval, and no artifact is stored. -/
def noArtifacts : Db := { Db.fresh (some "alice") [] [] with approvals := [writeOnce] }

/-- The import of an unknown artifact uses the approval up. -/
theorem missing_artifact_spends :
    ¬SparesAuthority externals plainDisk noArtifacts importForeign := by
  intro h
  have herror : (perform externals plainDisk noArtifacts importForeign).result =
      .error (.artifactNotFound (.text "Artifact 'art-1' not found.")) := by
    decide +kernel
  have happrovals := congrArg (List.map ApprovalRow.consumedAt) (h _ herror)
  revert happrovals
  decide +kernel

end Kin.Artifacts
