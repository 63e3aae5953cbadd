import Kin.Policy.PendingApprovals
import Kin.Session.OwnerRecords

/-!
The authority of a rerun. `create_fresh_authority_rerun` copies the shape of a session and none of
its approvals; that the rerun begins without authority also rests on the foreign key of
`approvals.session_id`, since a row for the id of a session to come would speak for it.
-/

namespace Kin.Policy

open Kin.Py Kin.Lib Kin.Schemas Kin.Session Kin.Storage Kin.Audit Kin.Transport

/-! ### Steps -/

/-- What happens to a profile: its approvals, and reruns of its sessions. -/
inductive AuthorityStep
  | approval (step : ApprovalStep)
  | rerun (sourceSessionId createdBy rerunSessionId : String) (now clock : Instant)

def authorityStep (ext : Externals) (db : Db) : AuthorityStep → Db
  | .approval step => approvalStep ext db step
  | .rerun source createdBy rerun now clock =>
      (createFreshAuthorityRerun ext db source createdBy rerun now clock).1

def AuthorityStep.Decides (approvalId : String) : AuthorityStep → Prop
  | .approval (.record d _ _ _) => d.approvalId = approvalId
  | .approval (.decide args) => args.approvalId = approvalId
  | _ => False

/-- Other work deletes no session. -/
def KeepsKnown (db : Db) : AuthorityStep → Prop
  | .approval (.other db') => KeepsSessions db db'
  | _ => True

/-! ### What a step does to the approvals -/

/-- A row keeps its id and its session, and gets a decision only from a step that decides on it; a
row that is added has an id and a session of its own. -/
structure Amends (known : String → Prop) (decides : String → Prop)
    (old new : List ApprovalRow) : Prop where
  kept : ∀ row ∈ old, ∃ row' ∈ new, row'.approvalId = row.approvalId
  rows : ∀ row' ∈ new,
    (∃ row ∈ old, row'.approvalId = row.approvalId ∧ row'.sessionId = row.sessionId ∧
      (row'.decision = row.decision ∨ decides row.approvalId)) ∨
    ((∀ row ∈ old, row.approvalId ≠ row'.approvalId) ∧ known row'.sessionId ∧
      (row'.decision = none ∨ decides row'.approvalId))

section Amends

variable {known decides : String → Prop} {approvals : List ApprovalRow}

theorem Amends.refl (known decides : String → Prop) (approvals : List ApprovalRow) :
    Amends known decides approvals approvals where
  kept row hrow := ⟨row, hrow, rfl⟩
  rows row hrow := .inl ⟨row, hrow, rfl, rfl, .inl rfl⟩

theorem Amends.append {row : ApprovalRow}
    (hnew : (Rows.lookup ApprovalRow.approvalId approvals row.approvalId).isSome = false)
    (hknown : known row.sessionId) (hdecision : row.decision = none ∨ decides row.approvalId) :
    Amends known decides approvals (approvals ++ [row]) where
  kept old hold := ⟨old, List.mem_append_left _ hold, rfl⟩
  rows row' hrow' := by
    rcases List.mem_append.mp hrow' with hold | hlast
    · exact .inl ⟨row', hold, rfl, rfl, .inl rfl⟩
    · rw [List.mem_singleton.mp hlast]
      refine .inr ⟨fun old hold heq => ?_, hknown, hdecision⟩
      rw [Option.isSome_eq_false_iff, Option.isNone_iff_eq_none, Rows.lookup,
        List.find?_eq_none] at hnew
      exact hnew old hold (decide_eq_true heq)

theorem Amends.modify {f : ApprovalRow → ApprovalRow} (approvalId : String)
    (hid : ∀ row, (f row).approvalId = row.approvalId)
    (hsession : ∀ row, (f row).sessionId = row.sessionId)
    (hdecision : (∀ row, (f row).decision = row.decision) ∨ decides approvalId) :
    Amends known decides approvals
      (Rows.modify ApprovalRow.approvalId approvals approvalId f) where
  kept row hrow := by
    refine ⟨_, List.mem_map_of_mem hrow, ?_⟩
    split
    · exact hid row
    · rfl
  rows row' hrow' := by
    obtain ⟨row, hrow, rfl⟩ := List.mem_map.mp hrow'
    refine .inl ⟨row, hrow, ?_⟩
    split
    · rename_i heq
      refine ⟨hid row, hsession row, ?_⟩
      rcases hdecision with hsame | hdecides
      · exact .inl (hsame row)
      · exact .inr (heq ▸ hdecides)
    · exact ⟨rfl, rfl, .inl rfl⟩

end Amends

def Known (db : Db) (sid : String) : Prop := (db.session? sid).isSome = true

theorem amends_createPendingApproval (decides : String → Prop) (db : Db)
    (approvalId sessionId agentId actionClass expiresAt : String) :
    Amends (Known db) decides db.approvals
      ((createPendingApproval db approvalId sessionId agentId actionClass
        expiresAt).toOption.getD db).approvals := by
  unfold createPendingApproval
  split
  · exact .refl ..
  · rename_i hfree
    simp only [Bool.or_eq_true, not_or, Bool.not_eq_true, Option.isNone_eq_false_iff] at hfree
    exact .append hfree.1 hfree.2 (.inl rfl)

theorem amends_upsertApprovalDecision {decides : String → Prop} (db : Db) (d : ApprovalDecision)
    (agentId : String) (actionClass : ActionClass) (expiresAt : String)
    (hdecides : decides d.approvalId) :
    Amends (Known db) decides db.approvals
      ((upsertApprovalDecision db d agentId actionClass expiresAt).toOption.getD db).approvals := by
  unfold upsertApprovalDecision
  dsimp only
  split
  · exact .modify _ (fun _ => rfl) (fun _ => rfl) (.inr hdecides)
  · rename_i hfree
    split
    · exact .refl ..
    · rename_i hknown
      rw [Bool.not_eq_true] at hfree
      rw [Bool.not_eq_true, Option.isNone_eq_false_iff] at hknown
      exact .append hfree hknown (.inr hdecides)

theorem amends_decideApproval {decides : String → Prop} (ext : Externals) (db : Db)
    (args : ApprovalArgs) (hdecides : decides args.approvalId) :
    Amends (Known db) decides db.approvals (decideApproval ext db args).1.approvals := by
  rcases decideApproval_outcome ext db args with
    ⟨e, heq, -⟩ | ⟨kind, row, session, written, -, hwritten, heq⟩
  · rw [heq]
    exact .refl ..
  · rw [heq, ← approvals_of_statusWritten hwritten]
    split
    · exact .modify _ (fun _ => rfl) (fun _ => rfl) (.inr hdecides)
    · exact .refl ..

theorem amends_evaluateActionForSession (known decides : String → Prop) (e : Evaluation)
    (approvals : List ApprovalRow) :
    Amends known decides approvals (evaluateActionForSession e approvals).1 := by
  unfold evaluateActionForSession
  dsimp only
  split
  · exact .refl ..
  · split
    · exact .modify _ (fun _ => rfl) (fun _ => rfl) (.inl fun _ => rfl)
    · exact .refl ..

theorem approvals_createFreshAuthorityRerun (ext : Externals) (db : Db)
    (source createdBy rerun : String) (now clock : Instant) :
    (createFreshAuthorityRerun ext db source createdBy rerun now clock).1.approvals =
      db.approvals := by
  rcases createFreshAuthorityRerun_cases ext db source createdBy rerun now clock with
    ⟨row, -, -, happended, -⟩ | ⟨e, herror⟩
  · rw [SameTables.approvals happended]
    rfl
  · rw [herror]

theorem amends_authorityStep {decides : String → Prop} (ext : Externals) (db : Db)
    (step : AuthorityStep) (hdecides : ∀ approvalId, step.Decides approvalId → decides approvalId) :
    Amends (Known db) decides db.approvals (authorityStep ext db step).approvals := by
  cases step with
  | approval step =>
      cases step with
      | create approvalId sessionId agentId actionClass expiresAt =>
          exact amends_createPendingApproval ..
      | record d agentId actionClass expiresAt =>
          exact amends_upsertApprovalDecision db d agentId actionClass expiresAt (hdecides _ rfl)
      | decide args => exact amends_decideApproval ext db args (hdecides _ rfl)
      | evaluate e => exact amends_evaluateActionForSession ..
      | other db' => exact .refl ..
  | rerun source createdBy rerun now clock =>
      rw [authorityStep, approvals_createFreshAuthorityRerun]
      exact .refl ..

/-! ### Before the rerun -/

theorem keepsSessions_decideApproval (ext : Externals) (db : Db) (args : ApprovalArgs) :
    KeepsSessions db (decideApproval ext db args).1 := by
  rcases decideApproval_outcome ext db args with
    ⟨e, heq, -⟩ | ⟨kind, row, session, written, -, hwritten, heq⟩
  · rw [heq]
    exact keepsSessions_of_session? fun _ => rfl
  · have hkeeps : KeepsSessions db written := by
      intro sid hsome
      rw [SameTables.session? hwritten, isSome_session?_updateSession (setStatus_sessionId _ _)]
      exact hsome
    rw [heq]
    split
    · exact hkeeps
    · exact hkeeps

theorem keepsSessions_createFreshAuthorityRerun (ext : Externals) (db : Db)
    (source createdBy rerun : String) (now clock : Instant) :
    KeepsSessions db (createFreshAuthorityRerun ext db source createdBy rerun now clock).1 := by
  rcases createFreshAuthorityRerun_cases ext db source createdBy rerun now clock with
    ⟨row, -, -, happended, -⟩ | ⟨e, herror⟩
  · intro sid hsome
    rw [SameTables.session? happended]
    exact keepsSessions_addSession db _ sid hsome
  · rw [herror]
    exact keepsSessions_of_session? fun _ => rfl

theorem keepsSessions_authorityStep (ext : Externals) (db : Db) (step : AuthorityStep)
    (hstep : KeepsKnown db step) : KeepsSessions db (authorityStep ext db step) := by
  have hsame : KeepsSessions db db := keepsSessions_of_session? fun _ => rfl
  cases step with
  | approval step =>
      cases step with
      | create approvalId sessionId agentId actionClass expiresAt =>
          show KeepsSessions db ((createPendingApproval _ _ _ _ _ _).toOption.getD db)
          unfold createPendingApproval
          split
          · exact hsame
          · exact hsame
      | record d agentId actionClass expiresAt =>
          show KeepsSessions db ((upsertApprovalDecision _ _ _ _ _).toOption.getD db)
          unfold upsertApprovalDecision
          dsimp only
          split
          · exact hsame
          · split
            · exact hsame
            · exact hsame
      | decide args => exact keepsSessions_decideApproval ext db args
      | evaluate e => exact hsame
      | other db' => exact hstep
  | rerun source createdBy rerun now clock =>
      exact keepsSessions_createFreshAuthorityRerun ext db source createdBy rerun now clock

def Referring (db : Db) : Prop := ∀ row ∈ db.approvals, Known db row.sessionId

theorem Referring.step {ext : Externals} {db : Db} (h : Referring db) {step : AuthorityStep}
    (hstep : KeepsKnown db step) : Referring (authorityStep ext db step) := by
  intro row' hrow'
  have hkeeps := keepsSessions_authorityStep ext db step hstep
  have hamends : Amends (Known db) (fun _ => True) db.approvals
      (authorityStep ext db step).approvals := amends_authorityStep ext db step fun _ _ => trivial
  rcases hamends.rows row' hrow' with ⟨row, hrow, -, hsession, -⟩ | ⟨-, hknown, -⟩
  · rw [hsession]
    exact hkeeps _ (h row hrow)
  · exact hkeeps _ hknown

/-! ### After the rerun -/

/-- The approvals of the session have none of the old ids, and are decided by a step of the run. -/
structure Fresh (old : List ApprovalRow) (sid : String) (decides : String → Prop) (db : Db) :
    Prop where
  kept : ∀ row ∈ old, ∃ row' ∈ db.approvals, row'.approvalId = row.approvalId
  own : ∀ row ∈ db.approvals, row.sessionId = sid →
    (∀ before ∈ old, before.approvalId ≠ row.approvalId) ∧
      (row.decision = none ∨ decides row.approvalId)

theorem Fresh.step {old : List ApprovalRow} {sid : String} {decides : String → Prop} {db : Db}
    (h : Fresh old sid decides db) (ext : Externals) {step : AuthorityStep}
    (hstep : ∀ approvalId, step.Decides approvalId → decides approvalId) :
    Fresh old sid decides (authorityStep ext db step) := by
  have hamends := amends_authorityStep ext db step hstep
  refine ⟨fun row hrow => ?_, fun row' hrow' hsid => ?_⟩
  · obtain ⟨between, hbetween, hid⟩ := h.kept row hrow
    obtain ⟨row', hrow', hid'⟩ := hamends.kept between hbetween
    exact ⟨row', hrow', hid'.trans hid⟩
  · rcases hamends.rows row' hrow' with ⟨row, hrow, hid, hsession, hdecision⟩ | ⟨hnew, -, hdecision⟩
    · obtain ⟨hfree, hdecided⟩ := h.own row hrow (hsession.symm.trans hsid)
      rw [hid]
      refine ⟨hfree, ?_⟩
      rcases hdecision with hsame | hdecides
      · rw [hsame]
        exact hdecided
      · exact .inr hdecides
    · refine ⟨fun before hbefore heq => ?_, hdecision⟩
      obtain ⟨between, hbetween, hid⟩ := h.kept before hbefore
      exact hnew between hbetween (hid.trans heq)

/-- An approval that authorises an action of the session is none of the old ones, and decided. -/
theorem Fresh.of_authorises {old : List ApprovalRow} {sid : String} {decides : String → Prop}
    {db : Db} (h : Fresh old sid decides db) {e : Evaluation} (hsession : e.sessionId = sid)
    {row : ApprovalRow} (hrow : e.Authorises db.approvals row) :
    (∀ before ∈ old, before.approvalId ≠ row.approvalId) ∧ decides row.approvalId := by
  have hown : row.sessionId = sid := by
    have hconcerns := hrow.concerns
    simp only [Evaluation.concerns, Bool.and_eq_true, beq_iff_eq] at hconcerns
    exact hconcerns.1.1.trans hsession
  obtain ⟨hfree, hdecided⟩ := h.own row hrow.mem hown
  refine ⟨hfree, hdecided.resolve_left fun hnone => ?_⟩
  rcases hrow.grants with ⟨hdecision, -⟩ | hdecision
  · rw [hnone] at hdecision
    cases hdecision
  · rw [hnone] at hdecision
    cases hdecision

/-- A rerun begins as a draft with the shape of its source and nothing used up, and changes no other
session, no other log and no approval. Whatever is requested, decided, evaluated or done afterwards,
an action of the rerun that is not relayed is allowed only on an approval that was not there when
the rerun was made and that the owner has decided since. -/
theorem fresh_authority_of_run (ext : Externals) (identity : Option String)
    (contacts : List ContactRow) (agents : List AgentRow) (before after : List AuthorityStep)
    (hbefore : Along (authorityStep ext) KeepsKnown (Db.fresh identity contacts agents) before)
    (sourceId createdBy rerunId : String) (now clock : Instant) (rerun : FreshAuthorityRerun) :
    let db := run (authorityStep ext) (Db.fresh identity contacts agents) before
    let call := createFreshAuthorityRerun ext db sourceId createdBy rerunId now clock
    call.2 = .ok rerun →
      (∃ source, db.session? sourceId = some source ∧
        call.1.session? rerunId = some (rerunRow source rerunId now)) ∧
      (∀ sid, sid ≠ rerunId → call.1.session? sid = db.session? sid ∧
        call.1.eventsOf sid = db.eventsOf sid) ∧
      call.1.approvals = db.approvals ∧
      ∀ (e : Evaluation) (approvals : List ApprovalRow) (result : PolicyResult),
        e.sessionId = rerunId → e.actionClass ≠ .informationalRelay →
        evaluateActionForSession e (run (authorityStep ext) call.1 after).approvals =
          (approvals, .ok result) → result.decision = .allow →
        ∃ row, e.Authorises (run (authorityStep ext) call.1 after).approvals row ∧
          (∀ old ∈ db.approvals, old.approvalId ≠ row.approvalId) ∧
          ∃ step ∈ after, step.Decides row.approvalId := by
  intro db call hcall
  have hreferring : Referring db :=
    run_of_along (fun _ _ h hstep => h.step hstep) (fun row hrow => nomatch hrow) hbefore
  rcases createFreshAuthorityRerun_cases ext db sourceId createdBy rerunId now clock with
    ⟨source, hsource, hnone, happended, -⟩ | ⟨e, herror⟩
  · have hadded : (db.addSession (rerunRow source rerunId now)).session? rerunId =
        some (rerunRow source rerunId now) := session?_addSession_self hnone
    refine ⟨⟨source, hsource, ?_⟩, fun sid hsid => ⟨?_, ?_⟩, ?_, ?_⟩
    · rw [SameTables.session? happended]
      exact hadded
    · rw [SameTables.session? happended]
      exact session?_addSession_of_ne hsid
    · rw [SameTables.eventsOf happended, eventsOf_addEvent_of_ne _ _ hsid]
      rfl
    · exact approvals_createFreshAuthorityRerun ..
    · intro e approvals result hsession hclass hevaluate hallow
      have hstart : Fresh db.approvals rerunId
          (fun approvalId => ∃ step ∈ after, step.Decides approvalId) call.1 := by
        have happrovals : call.1.approvals = db.approvals :=
          approvals_createFreshAuthorityRerun ..
        refine ⟨fun row hrow => ⟨row, happrovals ▸ hrow, rfl⟩, fun row hrow hsid => ?_⟩
        have hknown := hreferring row (happrovals ▸ hrow)
        rw [Known, hsid, hnone] at hknown
        cases hknown
      have hafter : Along (authorityStep ext) (fun _ step => ∀ approvalId,
          step.Decides approvalId → ∃ step ∈ after, step.Decides approvalId) call.1 after :=
        along_of_mem _ fun step hmem approvalId hdecides => ⟨step, hmem, hdecides⟩
      have hend : Fresh db.approvals rerunId
          (fun approvalId => ∃ step ∈ after, step.Decides approvalId)
          (run (authorityStep ext) call.1 after) :=
        run_of_along (fun _ step h hstep => h.step ext hstep) hstart hafter
      obtain ⟨row, hrow⟩ :=
        (allowed_only_with_authority e _ approvals result hevaluate hallow).2 hclass
      obtain ⟨hfree, hdecided⟩ := hend.of_authorises hsession hrow
      exact ⟨row, hrow, hfree, hdecided⟩
  · rw [show call = _ from herror] at hcall
    cases hcall

namespace Sample

open Session.Sample (digesting startDb)

theorem timestampRegex_noon : timestampRegex "2026-07-29T12:05:00Z" = true := by
  decide

def decideOn (approvalId sessionId : String) : ApprovalDecision where
  approvalId := approvalId
  sessionId := sessionId
  decision := .approveOnce
  decidedBy := "alice"
  decidedAt := "2026-07-29T12:05:00Z"
  decidedAt_valid := timestampRegex_noon

/-- `alice` is asked, and approves. -/
def approving (approvalId sessionId : String) : List AuthorityStep :=
  [.approval (.create approvalId sessionId "agent-a" .workspaceWrite "2026-07-30T12:00:00Z"),
   .approval (.record (decideOn approvalId sessionId) "agent-a" .workspaceWrite
     "2026-07-30T12:00:00Z")]

def approvedFirst : List AuthorityStep := .approval (.other startDb) :: approving "req-1" "s1"

def approvedDb : Db := run (authorityStep digesting) (Db.fresh (some "alice") [] []) approvedFirst

def rerunDb : Db := (createFreshAuthorityRerun digesting approvedDb "s1" "alice" "s1-again" 1 2).1

def writeAgain : Evaluation := { write with sessionId := "s1-again" }

/-- The approval of the source says nothing about the rerun. -/
example : (evaluateActionForSession writeAgain rerunDb.approvals).2.toOption.map
    (fun result => result.decision) = some .requiresApproval := by
  decide +kernel

end Sample

open Sample Session.Sample in
/-- The rerun writes on an approval of its own. -/
theorem fresh_authority_of_run_again :
    ∃ row, writeAgain.Authorises
        (run (authorityStep digesting) rerunDb (approving "req-2" "s1-again")).approvals row ∧
      ∃ step ∈ approving "req-2" "s1-again", step.Decides row.approvalId := by
  have hbefore : Along (authorityStep digesting) KeepsKnown (Db.fresh (some "alice") [] [])
      approvedFirst := by
    refine ⟨fun sid hsome => ?_, trivial, trivial, trivial⟩
    cases hsome
  obtain ⟨-, -, -, hallowed⟩ := fresh_authority_of_run digesting (some "alice") [] [] approvedFirst
    (approving "req-2" "s1-again") hbefore "s1" "alice" "s1-again" 1 2
    { sourceSessionId := "s1", rerunSessionId := "s1-again", createdBy := "alice", createdAt := 1 }
    (by rfl)
  obtain ⟨row, hrow, -, hstep⟩ := hallowed writeAgain _
    { decision := .allow
      reason := "Action permitted by valid non-expired bounded prior approval." } rfl (by decide)
    (by rfl) rfl
  exact ⟨row, hrow, hstep⟩

end Kin.Policy
