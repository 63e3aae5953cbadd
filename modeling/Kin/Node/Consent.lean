import Kin.Node.EventLog

/-!
Receiver consent over whole runs: a session gets past acceptance only with an
acceptance of its receiver in the log, and only the receiver changes the agent
that answers for it, as long as no acceptance of another participant is admitted.
The reducer and the commit do not look at who signed an acceptance, so such an
envelope is all it takes.
-/

namespace Kin.Node

open Kin.Py Kin.Lib Kin.Schemas Kin.Session Kin.Storage Kin.Audit Kin.Policy Kin.Transport

/-- `accepted` and the states that are reached only after it. -/
def followsAcceptance : Status → Bool
  | .accepted | .active | .awaitingOwnerApproval | .awaitingPeer | .paused | .completed => true
  | _ => false

/-- The log of `sid` holds an acceptance of `receiver`. -/
def HasAcceptance (db : Db) (sid receiver : String) : Prop :=
  ∃ e ∈ db.eventsOf sid, e.kind = .message .acceptance ∧ e.actorUsername = receiver

def Consent (db : Db) : Prop :=
  ∀ sid row, db.session? sid = some row → followsAcceptance row.status = true →
    HasAcceptance db sid row.receiverUsername

/-! ### The matrix and acceptance -/

/-- Past acceptance, every edge but the ones into `accepted` starts past it too. -/
theorem followsAcceptance_of_edge {s t : Status} (h : isValidTransition s t = true)
    (ht : followsAcceptance t = true) (hne : t ≠ .accepted) : followsAcceptance s = true := by
  cases s <;> simp only [isValidTransition, validTransitions, decide_eq_true_eq, List.mem_cons,
    List.not_mem_nil, or_false] at h <;> first | rfl | skip
  all_goals rcases h with rfl | rfl | rfl | rfl | rfl
  all_goals contradiction

theorem followsAcceptance_reviewStatus (status : Status) (kind : MessageKind) :
    followsAcceptance (reviewStatus status kind) = followsAcceptance status := by
  unfold reviewStatus
  split
  · rename_i h
    rcases h.1 with rfl | rfl <;> rfl
  · rfl

theorem followsAcceptance_settledStatus (status : Status) (kind : MessageKind) (isPeer : Bool) :
    followsAcceptance (settledStatus status kind isPeer) = followsAcceptance status := by
  unfold settledStatus
  split
  · split
    · split <;> rfl
    · rfl
    · rfl
  · rfl

/-- The reducer gets past acceptance from before it by an acceptance only. -/
theorem kind_of_followsAcceptance {db : Db} {state : SessionState} {envelope : SessionEnvelope}
    {participants : Dict String ParticipantInfo}
    (hadmitted : Admitted (advanceToReview state envelope.kind) envelope participants)
    (h : followsAcceptance (finalState db state envelope participants).status = true)
    (hbefore : followsAcceptance state.status = false) : envelope.kind = .acceptance := by
  have htarget : followsAcceptance
      (targetStatus (advanceToReview state envelope.kind) envelope.kind) = true := by
    rw [finalState_status, followsAcceptance_settledStatus] at h
    exact h
  have hstart : followsAcceptance (advanceToReview state envelope.kind).status = false := by
    rw [advanceToReview_eq]
    exact (followsAcceptance_reviewStatus _ _).trans hbefore
  rcases checkTransition_eq_none.mp hadmitted.transition with ht | ht | ht
  · rw [ht, hstart] at htarget
    cases htarget
  · by_contra hkind
    have hne : targetStatus (advanceToReview state envelope.kind) envelope.kind ≠ .accepted := by
      intro hacc
      unfold targetStatus at hacc
      cases hk : envelope.kind <;> rw [hk] at hacc hkind <;>
        simp [peerKindTransition] at hacc hkind <;> rw [hk] at hstart <;> rw [hacc] at hstart <;>
        cases hstart
    rw [followsAcceptance_of_edge ht htarget hne] at hstart
    cases hstart
  · exact (isUnacceptedReceiverAccept_eq_some_true.mp ht).2.1

/-! ### One move -/

theorem HasAcceptance.mono {db db' : Db} (hpre : db.sessionEvents <+: db'.sessionEvents)
    {sid receiver : String} (h : HasAcceptance db sid receiver) :
    HasAcceptance db' sid receiver := by
  obtain ⟨e, he, hkind, hactor⟩ := h
  refine ⟨e, ?_, hkind, hactor⟩
  rw [Db.eventsOf, List.mem_filter] at he ⊢
  exact ⟨hpre.subset he.1, he.2⟩

variable {envelopes : IngestContext → Db → SessionEnvelope → Prop} {db db' : Db} {sid : String}

/-- An acceptance is committed into the session `sid`, stored as `row`. -/
def AcceptanceCommitted (envelopes : IngestContext → Db → SessionEnvelope → Prop) (db : Db)
    (sid : String) (row : SessionRow) (row' : SessionRow) (db' : Db) : Prop :=
  ∃ ctx raw envelope participants status,
    Accepts ctx db raw envelope db row (stateOf ctx.ext row (db.eventsOf sid)) participants ∧
      envelopes ctx db envelope ∧ envelope.sessionId = sid ∧ envelope.kind = .acceptance ∧
      row' = setStatus status ctx.now (acceptedRow envelope row) ∧
      eventRow db (envelopeEvent envelope ctx.now) ∈ db'.eventsOf sid

/-- What a move does to a stored session: another session's row stays, its own
row keeps the receiver, and the receiver's agent changes by an acceptance only.
It gets past acceptance from before it by an acceptance only. -/
theorem row_of_move (hmove : Move envelopes db db') {row : SessionRow}
    (hrow : db.session? sid = some row) :
    ∃ row', db'.session? sid = some row' ∧ row'.receiverUsername = row.receiverUsername ∧
      (AcceptanceCommitted envelopes db sid row row' db' ∨
        row'.receiverAgentId = row.receiverAgentId ∧
          (followsAcceptance row'.status = true → followsAcceptance row.status = true)) := by
  -- a status written to one row
  have hwritten : ∀ {sid' : String} {status : Status} {now : Instant},
      StatusWritten db sid' status now db' →
      (∀ r, db.session? sid' = some r → followsAcceptance status = true →
        followsAcceptance r.status = true) →
      ∃ row', db'.session? sid = some row' ∧ row'.receiverUsername = row.receiverUsername ∧
        (AcceptanceCommitted envelopes db sid row row' db' ∨
          row'.receiverAgentId = row.receiverAgentId ∧
            (followsAcceptance row'.status = true → followsAcceptance row.status = true)) := by
    intro sid' status now hw hfollows
    by_cases hsid : sid = sid'
    · subst hsid
      refine ⟨setStatus status now row, ?_, rfl, .inr ⟨rfl, hfollows row hrow⟩⟩
      rw [SameTables.session? hw, session?_updateSession_self (fun _ => setStatus_sessionId _ _ _),
        hrow]
      rfl
    · refine ⟨row, ?_, rfl, .inr ⟨rfl, id⟩⟩
      rw [SameTables.session? hw,
        session?_updateSession_of_ne (fun _ => setStatus_sessionId _ _ _) hsid, hrow]
  have hkept : db'.session? sid = some row → ∃ row', db'.session? sid = some row' ∧
      row'.receiverUsername = row.receiverUsername ∧
      (AcceptanceCommitted envelopes db sid row row' db' ∨
        row'.receiverAgentId = row.receiverAgentId ∧
          (followsAcceptance row'.status = true → followsAcceptance row.status = true)) :=
    fun h => ⟨row, h, rfl, .inr ⟨rfl, id⟩⟩
  cases hmove with
  | ingest hmove =>
      cases hmove with
      | expire hexp =>
          rcases hexp with hsame | ⟨sid', r, -, -, hw⟩
          · exact hkept (by rw [hsame.session?, hrow])
          · exact hwritten hw fun _ _ h => by cases h
      | @create _ _ _ envelope newRow _ _ _ hnone hcreates =>
          refine hkept ?_
          rw [session?_addSession_of_ne, hrow]
          rintro rfl
          rw [(newRow_of_creates hcreates).sessionId, hnone] at hrow
          cases hrow
      | @commit ctx _ base _ raw envelope stored state participants hext hnow henv haccepts
          hcommits =>
          subst hext hnow
          by_cases hsid : sid = envelope.sessionId
          · subst hsid
            have hstored := haccepts.loaded
            cases hstored with
            | created hnone _ _ _ =>
                rw [hnone] at hrow
                cases hrow
            | stored hrow' =>
            rw [hrow] at hrow'
            cases hrow'
            refine ⟨_, hcommits.session?_self hrow, by simp [setStatus], ?_⟩
            by_cases hkind : envelope.kind = .acceptance
            · left
              refine ⟨ctx, raw, envelope, participants, _, haccepts, henv, rfl, hkind, rfl, ?_⟩
              rcases hcommits.eventsOf_self with h | ⟨-, ev, -, -, -, h⟩
              · simp [h]
              · simp [h]
            · right
              rw [acceptedRow_of_ne hkind]
              refine ⟨rfl, fun h => ?_⟩
              by_contra hbefore
              have hstate : followsAcceptance (stateOf ctx.ext row
                  (db.eventsOf envelope.sessionId)).status = false :=
                Bool.eq_false_iff.mpr hbefore
              exact hkind (kind_of_followsAcceptance haccepts.admitted h hstate)
          · refine hkept ?_
            rw [hcommits.session?_of_ne hsid, haccepts.loaded.base_session?_of_ne hsid, hrow]
      | store hstores =>
          obtain ⟨n, hn⟩ := hstores.session? sid
          rw [hrow, Option.map_some] at hn
          exact ⟨addBytes n row, hn, rfl, .inr ⟨rfl, id⟩⟩
  | status hrow' hlive hedge hne hw =>
      refine hwritten hw fun r hr h => ?_
      rw [hrow'] at hr
      cases hr
      rcases hedge with rfl | hedge
      · exact h
      · exact followsAcceptance_of_edge hedge h hne
  | append hseq hrow' happ => exact hkept (by rw [SameTables.session? happ]; exact hrow)
  | quiet hsame =>
      obtain ⟨approvals, hsame⟩ := hsame
      exact hkept (by rw [hsame.session?]; exact hrow)

/-! ### The condition -/

/-- The states from which the matrix lets an acceptance through. -/
def awaitsAcceptance : Status → Bool
  | .sent | .queued | .delivered | .peerReview | .accepted => true
  | _ => false

/-- A participant other than the receiver has an acceptance admitted: it comes in
time, under its next sequence and from its registered agent, while the matrix
still lets acceptances through; in `accepted` it counts if it changes the
receiver's agent. -/
def otherAccepts (db : Db) : Operation → Bool
  | .ingest ctx raw =>
      match verified? ctx db raw with
      | none => false
      | some envelope =>
          match db.session? envelope.sessionId with
          | none => false
          | some row =>
              let state := advanceToReview
                (stateOf ctx.ext row (db.eventsOf envelope.sessionId)) envelope.kind
              decide (envelope.kind = .acceptance) &&
                decide (envelope.actorUsername ≠ row.receiverUsername) &&
                awaitsAcceptance row.status && !isOverdue row ctx.now &&
                (storedEvent? db envelope.sessionId envelope.actorUsername
                  envelope.sequence).isNone &&
                decide (authorizeActor state envelope = none) &&
                decide (checkSequence state envelope = none) &&
                (asText (acceptingAgentId envelope)).isSome &&
                decide (row.status ≠ .accepted ∨
                  (acceptedRow envelope row).receiverAgentId ≠ row.receiverAgentId)
  | _ => false

/-- Outside the condition, an acceptance that is admitted is the receiver's, or
repeats what is stored. -/
theorem receiver_of_acceptance {ctx : IngestContext} {raw raw' : Fields}
    {envelope : SessionEnvelope} {row : SessionRow} {participants : Dict String ParticipantInfo}
    (hrow : db.session? envelope.sessionId = some row)
    (haccepts : Accepts ctx db raw' envelope db row
      (stateOf ctx.ext row (db.eventsOf envelope.sessionId)) participants)
    (hver : verified? ctx db raw = some envelope) (hkind : envelope.kind = .acceptance)
    (hcond : otherAccepts db (.ingest ctx raw) = false) :
    envelope.actorUsername = row.receiverUsername ∨
      row.status = .accepted ∧
        (acceptedRow envelope row).receiverAgentId = row.receiverAgentId := by
  by_contra hno
  rw [not_or, not_and_or] at hno
  obtain ⟨hactor, hchange⟩ := hno
  have hadmitted := haccepts.admitted
  have hwaits : awaitsAcceptance row.status = true := by
    rcases checkTransition_eq_none.mp hadmitted.transition with ht | ht | ht
    · rw [advanceToReview_eq, hkind] at ht
      change Status.accepted = reviewStatus row.status .acceptance at ht
      cases hs : row.status <;> rw [hs] at ht <;> first | rfl | cases ht
    · rw [advanceToReview_eq, hkind] at ht
      change isValidTransition (reviewStatus row.status .acceptance) .accepted = true at ht
      cases hs : row.status <;> rw [hs] at ht <;> first | rfl | cases ht
    · obtain ⟨-, -, hreceiver, -⟩ := isUnacceptedReceiverAccept_eq_some_true.mp ht
      rw [advanceToReview_eq] at hreceiver
      exact absurd hreceiver hactor
  have hdue : isOverdue row ctx.now = false := by
    have htimely := haccepts.timely row hrow
    have hvalid : isValidTransition row.status .expired = true := by
      cases hs : row.status <;> rw [hs] at hwaits <;> first | rfl | cases hwaits
    rw [expiresNow, hvalid, Bool.and_true] at htimely
    exact htimely
  have hagent : (asText (acceptingAgentId envelope)).isSome = true := by
    have hafter := hadmitted.after
    unfold participantsAfter at hafter
    rw [if_pos hkind] at hafter
    split at hafter
    · cases hafter
    · rename_i h
      rw [h]
      rfl
  rw [otherAccepts, hver] at hcond
  simp only [hrow] at hcond
  rw [hadmitted.actor, hadmitted.sequence, haccepts.fresh, hwaits, hdue, hagent] at hcond
  simp only [hkind, hactor, ne_eq, not_false_eq_true, decide_true, Bool.not_false, Bool.and_true,
    Bool.true_and, Option.isNone_none, decide_eq_false_iff_not, not_or, not_not] at hcond
  rcases hchange with h | h
  · exact h hcond.1
  · exact h hcond.2

/-! ### Whole runs -/

/-- A change of the receiver's agent by an ingested body is the receiver's own. -/
def AgentChangedByReceiver (db : Db) : Operation → Prop
  | .ingest ctx raw => ∀ sid row row', db.session? sid = some row →
      (ingestEnvelope ctx db raw).db.session? sid = some row' →
      row'.receiverAgentId ≠ row.receiverAgentId →
      ∃ envelope, verified? ctx db raw = some envelope ∧ envelope.sessionId = sid ∧
        envelope.actorUsername = row.receiverUsername
  | _ => True

/-- The acceptances an operation commits, outside the condition. -/
theorem acceptance_of_committable {op : Operation} (hcond : otherAccepts db op = false)
    {before : Db} {row row' : SessionRow} (hrow : before.session? sid = some row)
    (h : AcceptanceCommitted (Committable db op) before sid row row' db') :
    (∃ ctx raw envelope, op = .ingest ctx raw ∧ verified? ctx db raw = some envelope ∧
      envelope.sessionId = sid ∧ envelope.actorUsername = row.receiverUsername ∧ before = db ∧
      HasAcceptance db' sid row.receiverUsername) ∨
    row.status = .accepted ∧ row'.receiverAgentId = row.receiverAgentId := by
  obtain ⟨ctx, raw, envelope, participants, status, haccepts, hcommittable, rfl, hkind, rfl, hmem⟩ :=
    h
  cases op with
  | ingest ctx' raw' =>
      rcases hcommittable with ⟨rfl, rfl, hver⟩ | ⟨hother, -⟩
      · rcases receiver_of_acceptance hrow haccepts hver hkind hcond with hactor | hsame
        · refine .inl ⟨_, _, envelope, rfl, hver, rfl, hactor, rfl, _, hmem, ?_, hactor⟩
          simp [eventRow, envelopeEvent, hkind]
        · exact .inr hsame
      · rw [hkind] at hother
        cases hother
  | pause sender sid' reason =>
      rcases hcommittable with ⟨-, hother⟩ | hother <;> rw [hkind] at hother <;> cases hother
  | resume sender sid' reason =>
      rcases hcommittable with ⟨-, hother⟩ | hother <;> rw [hkind] at hother <;> cases hother
  | nodeCommand => exact hcommittable.elim
  | ownerCommand => exact hcommittable.elim
  | decide => exact hcommittable.elim
  | append => exact hcommittable.elim

theorem status_of_new_row (hmove : Move envelopes db db') (hnone : db.session? sid = none)
    {row' : SessionRow} (hrow' : db'.session? sid = some row') :
    followsAcceptance row'.status = false := by
  have habsent : (db'.session? sid).isSome = (db.session? sid).isSome → False := by
    intro h
    rw [hrow', hnone] at h
    cases h
  have hwritten : ∀ {sid' : String} {status : Status} {now : Instant},
      StatusWritten db sid' status now db' → False := by
    intro sid' status now hw
    refine habsent ?_
    rw [SameTables.session? hw, isSome_session?_updateSession fun _ => setStatus_sessionId _ _ _]
  cases hmove with
  | ingest hmove =>
      cases hmove with
      | expire hexp =>
          rcases hexp with hsame | ⟨sid', r, -, -, hw⟩
          · exact (habsent (by rw [hsame.session?])).elim
          · exact (hwritten hw).elim
      | @create _ _ _ envelope newRow _ _ _ hnone' hcreates =>
          have hnew := newRow_of_creates hcreates
          by_cases hsid : sid = newRow.sessionId
          · rw [hsid, session?_addSession_self (by rw [hnew.sessionId]; exact hnone')] at hrow'
            cases hrow'
            rw [hnew.status]
            rfl
          · exact (habsent (by rw [session?_addSession_of_ne hsid])).elim
      | @commit ctx _ base _ raw envelope stored state participants hext hnow henv haccepts
          hcommits =>
          by_cases hsid : sid = envelope.sessionId
          · subst hsid
            rw [hcommits.session?_self haccepts.loaded.base_session?] at hrow'
            cases hrow'
            -- a created session has received its request, which is no acceptance
            cases haccepts.loaded with
            | stored hstored =>
                rw [hnone] at hstored
                cases hstored
            | created _ hkind _ _ =>
                by_contra hfollows
                rw [Bool.not_eq_false] at hfollows
                have hacc := kind_of_followsAcceptance haccepts.admitted hfollows rfl
                rw [hkind] at hacc
                cases hacc
          · refine (habsent ?_).elim
            rw [hcommits.session?_of_ne hsid, haccepts.loaded.base_session?_of_ne hsid]
      | store hstores =>
          obtain ⟨n, hn⟩ := hstores.session? sid
          exact (habsent (by rw [hn, Option.isSome_map])).elim
  | status hrow hlive hedge hne hw => exact (hwritten hw).elim
  | append hseq hrow happ => exact (habsent (by rw [SameTables.session? happ]; rfl)).elim
  | quiet hsame =>
      obtain ⟨approvals, hsame⟩ := hsame
      exact (habsent (by rw [hsame.session?]; rfl)).elim

theorem consent_step (db : Db) (op : Operation) (h : Consent db)
    (hcond : otherAccepts db op = false) : Consent (step db op) := by
  refine step_keeps (P := Consent) (fun a b ha hmove => ?_) h
  intro sid row' hrow' hfollows
  cases hrow : a.session? sid with
  | none =>
      rw [status_of_new_row hmove hrow hrow'] at hfollows
      cases hfollows
  | some row =>
      obtain ⟨row'', hrow'', hreceiver, hcase⟩ := row_of_move hmove hrow
      rw [hrow'] at hrow''
      cases hrow''
      rw [hreceiver]
      rcases hcase with hacc | ⟨-, hbefore⟩
      · rcases acceptance_of_committable hcond hrow hacc with
          ⟨_, _, _, -, -, -, -, -, hhas⟩ | ⟨hstatus, -⟩
        · exact hhas
        · exact (ha sid row hrow (by rw [hstatus]; rfl)).mono (sessionEvents_prefix_of_move hmove)
      · exact (ha sid row hrow (hbefore hfollows)).mono (sessionEvents_prefix_of_move hmove)

theorem agentChanged_step (db : Db) (op : Operation) (hcond : otherAccepts db op = false) :
    AgentChangedByReceiver db op := by
  cases op with
  | ingest ctx raw =>
      intro sid row row' hrow hrow' hchange
      have hkeeps : ∃ row', (step db (.ingest ctx raw)).session? sid = some row' ∧
          row'.receiverUsername = row.receiverUsername ∧
          (row'.receiverAgentId = row.receiverAgentId ∨
            ∃ envelope, verified? ctx db raw = some envelope ∧ envelope.sessionId = sid ∧
              envelope.actorUsername = row.receiverUsername) := by
        refine step_keeps (P := fun d => ∃ row', d.session? sid = some row' ∧
          row'.receiverUsername = row.receiverUsername ∧
          (row'.receiverAgentId = row.receiverAgentId ∨
            ∃ envelope, verified? ctx db raw = some envelope ∧ envelope.sessionId = sid ∧
              envelope.actorUsername = row.receiverUsername)) ?_ ⟨row, hrow, rfl, .inl rfl⟩
        rintro a b ⟨mid, hmid, hreceiver, hagent⟩ hmove
        obtain ⟨last, hlast, hreceiver', hcase⟩ := row_of_move hmove hmid
        refine ⟨last, hlast, hreceiver'.trans hreceiver, ?_⟩
        rcases hagent with hagent | hdone
        · rcases hcase with hacc | ⟨hkept, -⟩
          · rcases acceptance_of_committable hcond hmid hacc with
              ⟨ctx', raw', envelope, hop, hver, hsid, hactor, -, -⟩ | ⟨-, hkept⟩
            · cases hop
              exact .inr ⟨envelope, hver, hsid, hactor.trans hreceiver⟩
            · exact .inl (hkept.trans hagent)
          · exact .inl (hkept.trans hagent)
        · exact .inr hdone
      obtain ⟨last, hlast, -, hagent | hdone⟩ := hkeeps
      · change (ingestEnvelope ctx db raw).db.session? sid = some last at hlast
        rw [hrow'] at hlast
        cases hlast
        exact absurd hagent hchange
      · exact hdone
  | _ => trivial

theorem consent_fresh (identity : Option String) (contacts : List ContactRow)
    (agents : List AgentRow) : Consent (Db.fresh identity contacts agents) := by
  intro sid row hrow
  cases hrow

/-- In every run from an empty sessions table in which no acceptance of another
participant than the receiver is admitted, every state reached has the
receiver's consent, and the receiver's agent is changed by the receiver only. -/
theorem receiver_consent (identity : Option String) (contacts : List ContactRow)
    (agents : List AgentRow) (ops : List Operation)
    (h : Along step (fun db op => otherAccepts db op = false)
      (Db.fresh identity contacts agents) ops) :
    Along step (fun db op => Consent (step db op) ∧ AgentChangedByReceiver db op)
      (Db.fresh identity contacts agents) ops :=
  along_of_invariant consent_step
    (fun db op hinv hcond => ⟨consent_step db op hinv hcond, agentChanged_step db op hcond⟩)
    (consent_fresh identity contacts agents) h

theorem receiver_consent_underWay :
    Along step (fun db op => Consent (step db op) ∧ AgentChangedByReceiver db op)
      Sample.bobDb Sample.underWay :=
  receiver_consent (some "bob") [] [] Sample.underWay
    (by decide +kernel)

/-- `alice` asks for a session and accepts it herself. -/
def selfAccepted : List Operation :=
  [Sample.ingest "s1" "alice" "scout" 1 .taskRequest Sample.request,
   Sample.ingest "s1" "alice" "scout" 2 .acceptance [(.text "accepting_agent_id", .text "scout")]]

/-- The session is active then, and `bob` accepted nothing. -/
theorem initiator_accepts :
    ¬Along step (fun db op => Consent (step db op) ∧ AgentChangedByReceiver db op) Sample.bobDb
      selfAccepted := by
  rintro ⟨-, ⟨hconsent, -⟩, -⟩
  change Consent (run step Sample.bobDb selfAccepted) at hconsent
  have hfacts : ((run step Sample.bobDb selfAccepted).session? "s1").map
        (fun row => (row.status, row.receiverUsername)) = some (.active, "bob") ∧
      ((run step Sample.bobDb selfAccepted).eventsOf "s1").all
        (fun e => !decide (e.kind = .message .acceptance ∧ e.actorUsername = "bob")) = true := by
    decide +kernel
  obtain ⟨hview, hnone⟩ := hfacts
  obtain ⟨row, hrow, hpair⟩ := Option.map_eq_some_iff.mp hview
  obtain ⟨hstatus, hreceiver⟩ := Prod.mk.inj hpair
  obtain ⟨e, he, hkind, hactor⟩ := hconsent "s1" row hrow (by rw [hstatus]; rfl)
  have hcontra := List.all_eq_true.mp hnone e he
  simp [hkind, hactor, hreceiver] at hcontra

end Kin.Node
