import Kin.Policy.PendingApprovals
import Kin.Py.Stamp

/-!
Expiry of approvals. The query of `evaluate_action_for_session`, the second test in
`evaluate_action` and the check of `decide_approval` all compare the text of now with
the text of the expiry. The format of both lets the fraction of a second be left out,
and the `Z` that then stands in its place comes after every digit and the point.
-/

namespace Kin.Policy

open Kin.Py Kin.Lib Kin.Schemas Kin.Session Kin.Storage

def Evaluation.AllowsOn (e : Evaluation) (approvals : List ApprovalRow) (row : ApprovalRow) :
    Prop :=
  selectApproval e approvals = some row ∧ hardBoundary e.card e.actionClass = none ∧
    ∃ prior result, priorApproval e row = .ok prior ∧ priorVerdict e.now prior = some result ∧
      result.decision = .allow

theorem result_of_allowsOn {e : Evaluation} {approvals : List ApprovalRow} {row : ApprovalRow}
    (h : e.AllowsOn approvals row) :
    ∃ result, (evaluateActionForSession e approvals).2 = .ok result ∧ result.decision = .allow := by
  obtain ⟨hrow, hboundary, prior, result, hprior, hverdict, hallow⟩ := h
  refine ⟨result, ?_, hallow⟩
  have hresult : verdict e (some row) = .ok result := by
    simp only [verdict, hprior, evaluateAction, hboundary, Option.bind_some, hverdict,
      Option.some_or]
  unfold evaluateActionForSession
  simp only [hrow, hresult]
  split <;> rfl

/-- What the two functions make of an approval that expires at the instant, at the time
`t`: they take no account of it from the instant on, and never hold it for expired
before. -/
structure ExpiryChronological (t : Datetime) (expiresAt : String) (instant : ℚ) : Prop where
  not_allowed : instant ≤ t.instant → ∀ (e : Evaluation) approvals row,
    e.now = isoNow t.instant → row.expiresAt = expiresAt → ¬e.AllowsOn approvals row
  not_accepted : instant ≤ t.instant → ∀ ext db (args : ApprovalArgs) row,
    args.now = isoNow t.instant →
    Rows.lookup ApprovalRow.approvalId db.approvals args.approvalId = some row →
    row.expiresAt = expiresAt → (decideApproval ext db args).2 ≠ .ok ()
  selected : t.instant < instant → ∀ (e : Evaluation) (row : ApprovalRow),
    e.now = isoNow t.instant → row.expiresAt = expiresAt → e.concerns row = true →
    unused row = true → e.selects row = true
  granted : t.instant < instant → ∀ prior : PriorApproval, prior.expiresAt = some expiresAt →
    (prior.decision = .approveOnce ∨ prior.decision = .alwaysAllowBounded) →
    (priorVerdict (isoNow t.instant) prior).any (·.decision = .allow) = true
  decidable : t.instant < instant → ∀ ext db (args : ApprovalArgs) row,
    args.now = isoNow t.instant →
    Rows.lookup ApprovalRow.approvalId db.approvals args.approvalId = some row →
    row.expiresAt = expiresAt → (decideApproval ext db args).2 ≠ .error .approvalExpired

theorem now_lt_of_allowsOn {e : Evaluation} {approvals : List ApprovalRow} {row : ApprovalRow}
    (h : e.AllowsOn approvals row) : e.now < row.expiresAt := by
  have hselects := (selectApproval_spec h.1).2.1
  simp only [Evaluation.selects, Bool.and_eq_true, decide_eq_true_eq] at hselects
  exact hselects.1.2

theorem now_lt_of_accepted {ext : Externals} {db : Db} {args : ApprovalArgs} {row : ApprovalRow}
    (hrow : Rows.lookup ApprovalRow.approvalId db.approvals args.approvalId = some row)
    (h : (decideApproval ext db args).2 = .ok ()) : args.now < row.expiresAt := by
  rcases decideApproval_outcome ext db args with
    ⟨_, heq, -⟩ | ⟨_, stored, _, _, hdecides, -, -⟩
  · rw [heq] at h
    cases h
  · rw [hdecides.stored] at hrow
    cases hrow
    exact hdecides.unexpired

/-- `ApprovalExpiredError` is raised by its own check alone. -/
theorem expired_of_raised {ext : Externals} {db : Db} {args : ApprovalArgs} {row : ApprovalRow}
    (hrow : Rows.lookup ApprovalRow.approvalId db.approvals args.approvalId = some row)
    (h : (decideApproval ext db args).2 = .error .approvalExpired) :
    row.expiresAt ≤ args.now := by
  unfold decideApproval at h
  split at h
  · cases h
  rw [hrow] at h
  dsimp only at h
  split at h
  · cases h
  split at h
  · cases h
  split at h
  · assumption
  split at h
  · cases h
  split at h
  · cases h
  split at h
  · cases h
  split at h
  · cases h
  split at h
  · cases h
  · split at h <;> cases h

def granted : PolicyResult :=
  { decision := .allow
    reason := "Action permitted by valid non-expired bounded prior approval." }

theorem priorVerdict_of_live {now expiresAt : String} {prior : PriorApproval}
    (hexpiry : prior.expiresAt = some expiresAt) (hlive : now < expiresAt)
    (hkind : prior.decision = .approveOnce ∨ prior.decision = .alwaysAllowBounded) :
    priorVerdict now prior = some granted := by
  have hall : prior.expiresAt.all (fun expiry => decide (now < expiry)) = true := by
    rw [hexpiry]
    exact decide_eq_true hlive
  rcases hkind with hkind | hkind
  · simp only [priorVerdict, hkind, hall, if_true]
    rfl
  · simp only [priorVerdict, hkind, hall, if_true]
    rfl

def permitted (t : Datetime) : Evaluation :=
  { card := writerCard, actionClass := .workspaceWrite, sessionContext := [], sessionId := "s1"
    now := isoNow t.instant }

def granting (expiresAt : String) : ApprovalRow :=
  { approvalId := "req-1", sessionId := "s1", agentId := some "agent-a"
    actionClass := "workspace_write", decision := some "always_allow_bounded"
    decidedAt := some "2026-07-29T12:00:00Z", expiresAt, consumedAt := none }

theorem concerns_granting (t : Datetime) (expiresAt : String) :
    (permitted t).concerns (granting expiresAt) = true := by
  rfl

theorem unused_granting (expiresAt : String) : unused (granting expiresAt) = true := by
  rfl

theorem allowsOn_granting {t : Datetime} {expiresAt : String} (h : isoNow t.instant < expiresAt) :
    (permitted t).AllowsOn [granting expiresAt] (granting expiresAt) := by
  have hselects : (permitted t).selects (granting expiresAt) = true := by
    have hlive : decide ((permitted t).now < (granting expiresAt).expiresAt) = true :=
      decide_eq_true h
    rw [Evaluation.selects, concerns_granting, hlive, unused_granting]
    rfl
  refine ⟨?_, rfl, ⟨.alwaysAllowBounded, some expiresAt⟩, granted,
    priorApproval_of_recorded rfl rfl (by decide), priorVerdict_of_live rfl h (.inr rfl), rfl⟩
  rw [selectApproval]
  change latest ([granting expiresAt].filter (permitted t).selects) = _
  rw [List.filter_cons_of_pos hselects]
  rfl

/-- The functions keep to the time exactly if the texts compare as the instants do. -/
theorem expiryChronological_iff {t : Datetime} {expiresAt : String} {instant : ℚ} :
    ExpiryChronological t expiresAt instant ↔
      (isoNow t.instant < expiresAt ↔ (t.instant : ℚ) < instant) := by
  constructor
  · intro h
    constructor
    · intro hlt
      by_contra hlate
      exact h.not_allowed (not_lt.mp hlate) (permitted t) [granting expiresAt]
        (granting expiresAt) rfl rfl (allowsOn_granting hlt)
    · intro hlt
      have hselects := h.selected hlt (permitted t) (granting expiresAt) rfl rfl
        (concerns_granting t expiresAt) (unused_granting expiresAt)
      simp only [Evaluation.selects, Bool.and_eq_true, decide_eq_true_eq] at hselects
      exact hselects.1.2
  · intro h
    constructor
    · intro hlate e approvals row hnow hexpiry hallows
      have hlt := now_lt_of_allowsOn hallows
      rw [hnow, hexpiry] at hlt
      exact not_lt_of_ge hlate (h.mp hlt)
    · intro hlate ext db args row hnow hrow hexpiry haccepted
      have hlt := now_lt_of_accepted hrow haccepted
      rw [hnow, hexpiry] at hlt
      exact not_lt_of_ge hlate (h.mp hlt)
    · intro hearly e row hnow hexpiry hconcerns hunused
      have hlive : decide (e.now < row.expiresAt) = true := by
        rw [hnow, hexpiry]
        exact decide_eq_true (h.mpr hearly)
      rw [Evaluation.selects, hconcerns, hlive, hunused]
      rfl
    · intro hearly prior hexpiry hkind
      rw [priorVerdict_of_live hexpiry (h.mpr hearly) hkind]
      rfl
    · intro hearly ext db args row hnow hrow hexpiry hraised
      have hle := expired_of_raised hrow hraised
      rw [hnow, hexpiry] at hle
      exact absurd (h.mpr hearly) (not_lt_of_ge hle)

/-- At every time and for every text of an expiry the two functions keep to the instants
the text stands for, exactly if it parts from the text of now in a way that shows which of
the two is later. -/
theorem expiry_chronological_iff_parts (t : Datetime) (expiresAt : String) :
    (∀ instant, Denotes expiresAt instant → ExpiryChronological t expiresAt instant) ↔
      ∀ instant, Denotes expiresAt instant →
        Parts (t.instant < instant) (afterZ expiresAt) (isoBody t.instant).toList
          (upToZ expiresAt) := by
  refine forall₂_congr fun instant h => ?_
  rw [expiryChronological_iff, isoNow_lt_iff_parts h]

/-- Half a second after noon. -/
def afterNoon : Datetime where
  instant := 1785326400500000
  min_le := by decide
  le_max := by decide

def noon : Datetime where
  instant := 1785326400000000
  min_le := by decide
  le_max := by decide

/-- An approval that expired at noon is good for the rest of that second. -/
theorem allowed_after_noon :
    ¬∀ instant, Denotes "2026-07-29T12:00:00Z" instant →
      ExpiryChronological afterNoon "2026-07-29T12:00:00Z" instant := by
  intro h
  have hnoon : Denotes "2026-07-29T12:00:00Z" noon.instant := by
    have htext : isoNow noon.instant = "2026-07-29T12:00:00Z" := by decide
    exact htext ▸ denotes_isoNow noon
  have hlt : isoNow afterNoon.instant < "2026-07-29T12:00:00Z" := by
    have htext : isoNow afterNoon.instant = "2026-07-29T12:00:00.500000Z" := by decide
    rw [htext, String.lt_iff]
    decide
  have hearly := (expiryChronological_iff.mp (h _ hnoon)).mp hlt
  have hinstants : @LT.lt Int _ afterNoon.instant noon.instant := by exact_mod_cast hearly
  exact absurd hinstants (by decide)

end Kin.Policy
