import Kin.Node.Activity

/-!
The lifecycle over whole runs: whatever writes the status of a session moves it
along edges of the transition matrix, so that a terminal session stays where it
is.
-/

namespace Kin.Node

open Kin.Py Kin.Lib Kin.Schemas Kin.Session Kin.Storage Kin.Audit Kin.Policy Kin.Transport

/-- One edge of `VALID_TRANSITIONS`. -/
def Edge (s t : Status) : Prop := isValidTransition s t = true

instance (s t : Status) : Decidable (Edge s t) := inferInstanceAs (Decidable (_ = true))

/-- No edge, or several of them one after the other. -/
abbrev Path : Status → Status → Prop := Relation.ReflTransGen Edge

theorem path_of_terminal {s t : Status} (h : Path s t) (hterm : isTerminalState s = true) :
    t = s := by
  rcases h.cases_head with rfl | ⟨next, hedge, -⟩
  · rfl
  · rw [Edge, isValidTransition_of_terminal hterm] at hedge
    cases hedge

theorem path_of_target {s t : Status} (h : t = s ∨ isValidTransition s t = true) : Path s t := by
  rcases h with rfl | hedge
  · exact .refl
  · exact .single hedge

/-! ### The path of an envelope -/

theorem path_reviewStatus (s : Status) (kind : MessageKind) : Path s (reviewStatus s kind) := by
  unfold reviewStatus
  split
  · rename_i h
    rcases h.1 with rfl | rfl
    · have hdelivered : Edge .queued .delivered := by decide
      exact .head hdelivered (.single (by decide))
    · exact .single (by decide)
  · exact .refl

theorem path_settledStatus (s : Status) (kind : MessageKind) (isPeer : Bool) :
    Path s (settledStatus s kind isPeer) := by
  unfold settledStatus
  split
  · split
    · have hdelivered : Edge .sent .delivered := by decide
      split
      · exact .head hdelivered (.single (by decide))
      · exact .single hdelivered
    · exact .single (by decide)
    · exact .refl
  · exact .refl

/-- The receiver's acceptance is exempt from the matrix, but the states it is
exempt in all lead to `accepted`. -/
theorem path_of_preAcceptance {s : Status} (h : preAcceptance s = true) : Path s .accepted := by
  have hsent : Edge .sent .accepted := by decide
  cases s with
  | draft => exact .head (show Edge .draft .sent by decide) (.single hsent)
  | sent => exact .single hsent
  | queued => exact .single (by decide)
  | delivered => exact .single (by decide)
  | peerReview => exact .single (by decide)
  | _ => cases h

theorem path_of_admitted {state : SessionState} {envelope : SessionEnvelope}
    {participants : Dict String ParticipantInfo} (h : Admitted state envelope participants) :
    Path state.status (targetStatus state envelope.kind) := by
  rcases checkTransition_eq_none.mp h.transition with hsame | hedge | hexempt
  · exact path_of_target (.inl hsame)
  · exact path_of_target (.inr hedge)
  · obtain ⟨-, hkind, -, hpre⟩ := isUnacceptedReceiverAccept_eq_some_true.mp hexempt
    rw [targetStatus, hkind]
    exact path_of_preAcceptance hpre

/-- The review before the reducer, the reducer and the delivery after it. -/
theorem path_finalState (db : Db) {state : SessionState} {envelope : SessionEnvelope}
    {participants : Dict String ParticipantInfo}
    (h : Admitted (advanceToReview state envelope.kind) envelope participants) :
    Path state.status (finalState db state envelope participants).status := by
  have hreview : Path state.status (advanceToReview state envelope.kind).status := by
    rw [advanceToReview_eq]
    exact path_reviewStatus ..
  rw [finalState_status]
  exact (hreview.trans (path_of_admitted h)).trans (path_settledStatus ..)

/-! ### One move -/

/-- Every stored session stays stored and its status follows a path; a session
that appears has followed one from `draft`. -/
structure Lawful (db db' : Db) : Prop where
  kept : ∀ sid s, db.status? sid = some s → ∃ t, db'.status? sid = some t ∧ Path s t
  opened : ∀ sid t, db.status? sid = none → db'.status? sid = some t → Path .draft t

theorem Lawful.of_status? {db db' : Db} (h : ∀ sid, db'.status? sid = db.status? sid) :
    Lawful db db' where
  kept sid s hs := ⟨s, (h sid).trans hs, .refl⟩
  opened sid t hnone ht := by
    rw [h, hnone] at ht
    cases ht

theorem Lawful.refl (db : Db) : Lawful db db := .of_status? fun _ => rfl

theorem Lawful.trans {a b c : Db} (hab : Lawful a b) (hbc : Lawful b c) : Lawful a c where
  kept sid s hs := by
    obtain ⟨t, ht, hpath⟩ := hab.kept sid s hs
    obtain ⟨u, hu, hpath'⟩ := hbc.kept sid t ht
    exact ⟨u, hu, hpath.trans hpath'⟩
  opened sid u hnone hu := by
    cases hb : b.status? sid with
    | none => exact hbc.opened sid u hb hu
    | some t =>
        obtain ⟨u', hu', hpath⟩ := hbc.kept sid t hb
        rw [hu] at hu'
        cases hu'
        exact (hab.opened sid t hnone hb).trans hpath

theorem Lawful.of_sameTables {db db' : Db} (h : SameTables db db') : Lawful db db' :=
  .of_status? fun sid => status?_congr (h.session? sid)

/-- One session is written, the others stay. -/
theorem Lawful.of_one {db db' : Db} (sid : String) {t : Status}
    (hother : ∀ sid' ≠ sid, db'.status? sid' = db.status? sid')
    (ht : db'.status? sid = some t) (hpath : Path ((db.status? sid).getD .draft) t) :
    Lawful db db' where
  kept sid' s hs := by
    by_cases hsid : sid' = sid
    · subst hsid
      rw [hs] at hpath
      exact ⟨t, ht, hpath⟩
    · exact ⟨s, (hother sid' hsid).trans hs, .refl⟩
  opened sid' u hnone hu := by
    by_cases hsid : sid' = sid
    · subst hsid
      rw [ht] at hu
      cases hu
      rw [hnone] at hpath
      exact hpath
    · rw [hother sid' hsid, hnone] at hu
      cases hu

theorem Lawful.of_statusWritten {db db' : Db} {sid : String} {row : SessionRow} {t : Status}
    {now : Instant} (hrow : db.session? sid = some row)
    (hedge : t = row.status ∨ isValidTransition row.status t = true)
    (hw : StatusWritten db sid t now db') : Lawful db db' := by
  have hstatus := status?_of_session? hrow
  refine .of_one (t := t) sid (fun sid' hne => ?_) ?_ ?_
  · rw [status?_of_statusWritten hw, if_neg hne]
  · rw [status?_of_statusWritten hw, if_pos rfl, hstatus]
    rfl
  · rw [hstatus]
    exact path_of_target hedge

theorem Lawful.of_commits {ctx : IngestContext} {db base db' : Db} {raw : Fields}
    {envelope : SessionEnvelope} {stored : SessionRow} {state : SessionState}
    {participants : Dict String ParticipantInfo} {now : Instant}
    (haccepts : Accepts ctx db raw envelope base stored state participants)
    (hcommits : Commits base envelope (finalState db state envelope participants).status now db') :
    Lawful db db' := by
  have hpath := path_finalState db haccepts.admitted
  refine .of_one envelope.sessionId (fun sid hne => ?_)
    (status?_of_session? (hcommits.session?_self haccepts.loaded.base_session?)) ?_
  · exact (status?_congr (hcommits.session?_of_ne hne)).trans
      (status?_congr (haccepts.loaded.base_session?_of_ne hne))
  · cases haccepts.loaded with
    | stored hrow =>
        rw [status?_of_session? hrow]
        exact hpath
    | created hnone _ _ _ =>
        rw [Db.status?, hnone]
        exact hpath

theorem Lawful.of_move {envelopes : IngestContext → Db → SessionEnvelope → Prop} {db db' : Db}
    (hmove : Move envelopes db db') : Lawful db db' := by
  cases hmove with
  | ingest hmove =>
      cases hmove with
      | expire hexp =>
          rcases hexp with hsame | ⟨sid, row, hrow, hdue, hw⟩
          · exact .of_sameTables hsame
          · exact .of_statusWritten hrow (.inr (Bool.and_eq_true_iff.mp hdue).2) hw
      | @create _ _ _ envelope row _ _ _ hnone hcreates =>
          have hnew := newRow_of_creates hcreates
          rw [← hnew.sessionId] at hnone
          refine .of_one row.sessionId
            (fun sid hne => status?_congr (session?_addSession_of_ne hne))
            (status?_of_session? (session?_addSession_self hnone)) ?_
          rw [Db.status?, hnone, hnew.status]
          exact .refl
      | commit hext hnow henv haccepts hcommits => exact .of_commits haccepts hcommits
      | store hstores => exact .of_status? fun _ => status?_of_stores hstores
  | status hrow hlive hedge hne hw => exact .of_statusWritten hrow hedge hw
  | append hseq hrow happ => exact .of_status? fun _ => status?_congr (SameTables.session? happ _)
  | quiet hsame =>
      obtain ⟨approvals, hsame⟩ := hsame
      exact .of_status? fun _ => status?_congr (hsame.session? _)

/-! ### Whole runs -/

/-- Queue, cost and agent columns do not touch a status. -/
theorem Lawful.of_change {commits : IngestContext → Db → SessionEnvelope → Prop} {spending : Prop}
    {handing : String → Prop} {db db' : Db} (h : Change commits spending handing db db') :
    Lawful db db' := by
  have hupdated : ∀ sid (f : SessionRow → SessionRow), (∀ r, (f r).sessionId = r.sessionId) →
      (∀ r, (f r).status = r.status) → Lawful db (db.updateSession sid f) := by
    intro sid f hid hstatus
    refine .of_status? fun sid' => ?_
    by_cases hsid : sid' = sid
    · rw [hsid, Db.status?, session?_updateSession_self hid, Option.map_map, Db.status?]
      exact Option.map_congr fun r _ => hstatus r
    · exact status?_congr (session?_updateSession_of_ne hid hsid)
  cases h with
  | move hmove => exact .of_move hmove
  | queue queue => exact .of_status? fun _ => rfl
  | spend sid _ => exact hupdated sid addCost addCost_sessionId fun _ => rfl
  | handOff sid agentId username hrow hhanded =>
      generalize decide (username = _) = senderSide
      refine hupdated sid _ (setAgent_sessionId senderSide agentId) fun r => ?_
      cases senderSide <;> rfl

theorem lawful_activities (db : Db) (activities : List Activity) :
    Lawful db (run Activity.step db activities) :=
  activities_keep (fun _ _ ha hchange => ha.trans (.of_change hchange)) (.refl db) activities

/-- In every run, from whatever is stored, a session stays stored; a change of
its status between two points of the run is one or more edges of the matrix, and
a terminal status does not change. A session opened by the run has come along
edges from `draft`. -/
theorem status_changes_along_matrix (db : Db) (earlier later : List Activity) :
    let before := run Activity.step db earlier
    let after := run Activity.step before later
    (∀ sid s, before.status? sid = some s → ∃ t, after.status? sid = some t ∧
      (t ≠ s → Relation.TransGen Edge s t) ∧ (isTerminalState s = true → t = s)) ∧
    ∀ sid t, before.status? sid = none → after.status? sid = some t →
      Relation.ReflTransGen Edge .draft t := by
  intro before after
  have hlawful : Lawful before after := lawful_activities before later
  refine ⟨fun sid s hs => ?_, hlawful.opened⟩
  obtain ⟨t, ht, hpath⟩ := hlawful.kept sid s hs
  refine ⟨t, ht, fun hne => ?_, path_of_terminal hpath⟩
  rcases Relation.reflTransGen_iff_eq_or_transGen.mp hpath with heq | htrans
  · exact absurd heq hne
  · exact htrans

end Kin.Node
