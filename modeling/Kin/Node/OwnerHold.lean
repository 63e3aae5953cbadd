import Kin.Node.Run

/-!
Who can lift a hold. A session that is `paused` or awaits the owner's approval
is held; an owner command on the node lifts the hold, and so does every envelope
of a kind that maps to `active`, because the transition matrix does not tell the
two apart.
-/

namespace Kin.Node

open Kin.Py Kin.Lib Kin.Schemas Kin.Session Kin.Storage Kin.Audit Kin.Policy Kin.Transport

def isHeld : Status → Bool
  | .paused | .awaitingOwnerApproval => true
  | _ => false

/-- The stored status of `sid` goes from held to `active`. -/
def Lifts (db db' : Db) (sid : String) : Prop :=
  (db.status? sid).any isHeld = true ∧ db'.status? sid = some .active

def isOwnerDecision : Operation → Bool
  | .ownerCommand _ _ _ .ownerResume _ => true
  | .ownerCommand _ _ _ (.ownerApprovalDecision _) _ => true
  | .resume _ _ _ => true
  | .decide _ _ => true
  | _ => false

/-- A held session that is not overdue receives the actor's next envelope, of a
kind that maps to `active`, from a registered agent and within the turn limit;
or the node itself is told `mark_active`. -/
def liftsHold (db : Db) : Operation → Bool
  | .ingest ctx raw =>
      match verified? ctx db raw with
      | none => false
      | some envelope =>
          match db.session? envelope.sessionId with
          | none => false
          | some row =>
              let state := stateOf ctx.ext row (db.eventsOf envelope.sessionId)
              isHeld row.status && !isOverdue row ctx.now &&
                decide (peerKindTransition envelope.kind = some .active) &&
                (storedEvent? db envelope.sessionId envelope.actorUsername
                  envelope.sequence).isNone &&
                decide (authorizeActor state envelope = none) &&
                decide (checkSequence state envelope = none) &&
                decide (checkTurn state envelope.kind = none)
  | .nodeCommand _ sid command _ => decide (command = .markActive) && (db.status? sid).any isHeld
  | _ => false

/-! ### Ingestion up to the commit -/

section Held

variable {ctx : IngestContext} {db base : Db} {raw : Fields} {envelope : SessionEnvelope}
  {stored : SessionRow} {state : SessionState} {participants : Dict String ParticipantInfo}

/-- A held session leaves for `expired` only in time, so expiry is the plain test. -/
theorem expiresNow_of_held {row : SessionRow} (h : isHeld row.status = true) (now : Instant) :
    expiresNow row now = isOverdue row now := by
  have hvalid : isValidTransition row.status .expired = true := by
    cases hs : row.status <;> simp [hs, isHeld] at h <;> decide
  rw [expiresNow, hvalid, Bool.and_true]

theorem advanceToReview_of_held {kind : MessageKind} (h : isHeld state.status = true) :
    advanceToReview state kind = state := by
  rw [advanceToReview_eq, reviewStatus, if_neg]
  rintro ⟨hs | hs, -⟩ <;> simp [hs, isHeld] at h

/-- The automatic transitions only leave `sent` and `accepted`. -/
theorem settledStatus_of_ne {status : Status} {kind : MessageKind} {isPeer : Bool}
    (hsent : status ≠ .sent) (hacc : status ≠ .accepted) :
    settledStatus status kind isPeer = status := by
  unfold settledStatus
  split
  · cases status <;> simp_all
  · rfl

/-- From a held state the reducer reaches `active` exactly by the kinds that map to it. -/
theorem finalState_active_iff (hheld : isHeld state.status = true)
    (hadmitted : Admitted (advanceToReview state envelope.kind) envelope participants) :
    (finalState db state envelope participants).status = .active ↔
      peerKindTransition envelope.kind = some .active := by
  rw [advanceToReview_of_held hheld] at hadmitted
  have htarget := checkTransition_eq_none.mp hadmitted.transition
  have hpre : isUnacceptedReceiverAccept state envelope ≠ some true := by
    rw [Ne, isUnacceptedReceiverAccept_eq_some_true]
    rintro ⟨-, -, -, hp⟩
    cases hs : state.status <;> simp [hs, isHeld, preAcceptance] at hheld hp
  have hne : targetStatus state envelope.kind ≠ .sent ∧
      targetStatus state envelope.kind ≠ .accepted := by
    rcases htarget with ht | ht | ht
    · rw [ht]
      constructor <;> rintro hs <;> simp [hs, isHeld] at hheld
    · constructor <;> intro hs <;> rw [hs] at ht <;>
        cases hst : state.status <;> simp [hst, isHeld] at hheld <;> rw [hst] at ht <;> cases ht
    · exact absurd ht hpre
  rw [finalState_status, advanceToReview_of_held hheld, settledStatus_of_ne hne.1 hne.2,
    targetStatus]
  cases hk : peerKindTransition envelope.kind with
  | none =>
      simp only [Option.getD_none, reduceCtorEq, iff_false]
      rintro hs
      simp [hs, isHeld] at hheld
  | some t => simp

/-- The condition on an ingested body says that it is accepted into a held
session under a kind that maps to `active`. -/
theorem liftsHold_ingest : liftsHold db (.ingest ctx raw) = true ↔
    ∃ envelope row participants, db.session? envelope.sessionId = some row ∧
      isHeld row.status = true ∧ peerKindTransition envelope.kind = some .active ∧
      Accepts ctx db raw envelope db row (stateOf ctx.ext row (db.eventsOf envelope.sessionId))
        participants := by
  constructor
  · intro h
    rw [liftsHold] at h
    split at h
    · cases h
    rename_i envelope hver
    split at h
    · cases h
    rename_i row hrow
    simp only [Bool.and_eq_true, decide_eq_true_eq, Bool.not_eq_true', Option.isNone_iff_eq_none]
      at h
    obtain ⟨⟨⟨⟨⟨⟨hheld, hdue⟩, hkind⟩, hfresh⟩, hactor⟩, hseq⟩, hturn⟩ := h
    have hstate : isHeld (stateOf ctx.ext row (db.eventsOf envelope.sessionId)).status = true :=
      hheld
    have htarget : targetStatus (stateOf ctx.ext row (db.eventsOf envelope.sessionId))
        envelope.kind = .active := by
      rw [targetStatus, hkind]
      rfl
    refine ⟨envelope, row, (stateOf ctx.ext row (db.eventsOf envelope.sessionId)).participants,
      hrow, hheld, hkind, hver, hfresh, ?_, .stored hrow, ?_⟩
    · intro r hr
      rw [hrow] at hr
      cases hr
      rw [expiresNow_of_held hheld, hdue]
    · rw [advanceToReview_of_held hstate]
      refine ⟨?_, (sessionId_of_session? hrow).symm, hactor, hseq, ?_, hturn, ?_⟩
      · cases hs : row.status <;> simp [hs, isHeld] at hheld <;> simp [stateOf, hs, isTerminalState]
      · rw [checkTransition_eq_none, htarget]
        right
        left
        change isValidTransition row.status .active = true
        cases hs : row.status <;> simp [hs, isHeld] at hheld <;> decide
      · unfold participantsAfter
        rw [if_neg]
        intro hacc
        rw [hacc] at hkind
        cases hkind
  · rintro ⟨envelope, row, participants, hrow, hheld, hkind, haccepts⟩
    have htimely := haccepts.timely row hrow
    rw [expiresNow_of_held hheld] at htimely
    have hadmitted := haccepts.admitted
    rw [advanceToReview_of_held (show isHeld (stateOf ctx.ext row
      (db.eventsOf envelope.sessionId)).status = true from hheld)] at hadmitted
    simp [liftsHold, haccepts.verified, hrow, hheld, htimely, hkind, haccepts.fresh,
      hadmitted.actor, hadmitted.sequence, hadmitted.turn]

/-- Writing a status other than `active` makes no session active. -/
theorem not_active_of_statusWritten {db db' : Db} {sid sid' : String} {status : Status}
    {now : Instant} (h : StatusWritten db sid status now db') (hne : status ≠ .active)
    (hbefore : db.status? sid' ≠ some .active) : db'.status? sid' ≠ some .active := by
  rw [status?_of_statusWritten h]
  split
  · cases hs : db.status? sid with
    | none => simp
    | some s => simpa using hne
  · exact hbefore

theorem ingestCommit_active {sid : String} (hbefore : db.status? sid ≠ some .active)
    (hafter : (ingestCommit ctx db raw).1.status? sid = some .active) :
    ∃ envelope base stored state participants,
      Accepts ctx db raw envelope base stored state participants ∧ envelope.sessionId = sid ∧
      (finalState db state envelope participants).status = .active := by
  rcases ingestCommit_cases ctx db raw with ⟨db', exit, heq, hexp⟩ |
    ⟨envelope, newRow, exit, hver, ⟨hnone, -, hcreates⟩, heq, -⟩ |
    ⟨envelope, base, stored, state, participants, db', haccepts, heq, hcommits⟩
  · rw [heq] at hafter
    rcases hexp with hsame | ⟨sid', row, -, -, hw⟩
    · rw [status?_congr (hsame.session? sid)] at hafter
      exact absurd hafter hbefore
    · exact absurd hafter (not_active_of_statusWritten hw (by decide) hbefore)
  · rw [heq] at hafter
    have hnew := newRow_of_creates hcreates
    by_cases hsid : sid = newRow.sessionId
    · rw [hsid, status?_of_session? (session?_addSession_self (by rw [hnew.sessionId]; exact hnone)),
        hnew.status] at hafter
      cases hafter
    · rw [status?_congr (session?_addSession_of_ne hsid)] at hafter
      exact absurd hafter hbefore
  · rw [heq] at hafter
    by_cases hsid : sid = envelope.sessionId
    · refine ⟨envelope, base, stored, state, participants, haccepts, hsid.symm, ?_⟩
      rw [hsid, status?_of_session? (hcommits.session?_self haccepts.loaded.base_session?)] at hafter
      exact Option.some.inj hafter
    · rw [status?_congr (hcommits.session?_of_ne hsid),
        status?_congr (haccepts.loaded.base_session?_of_ne hsid)] at hafter
      exact absurd hafter hbefore

/-! ### A whole call -/

/-- A committed envelope of a kind that maps to `active` leaves its session active. -/
theorem finalState_of_active_kind (hkind : peerKindTransition envelope.kind = some .active) :
    (finalState db state envelope participants).status = .active := by
  have htarget : targetStatus (advanceToReview state envelope.kind) envelope.kind = .active := by
    rw [targetStatus, hkind]
    rfl
  rw [finalState_status, htarget]
  exact settledStatus_of_ne (by decide) (by decide)

/-- A call makes a held session active only under the condition. -/
theorem liftsHold_of_ingest (sid : String) (hheld : (db.status? sid).any isHeld = true)
    (hafter : (ingestEnvelope ctx db raw).db.status? sid = some .active) :
    liftsHold db (.ingest ctx raw) = true := by
  have hbefore : db.status? sid ≠ some .active := by
    intro h
    rw [h] at hheld
    cases hheld
  suffices hcommit : (ingestCommit ctx db raw).1.status? sid = some .active by
    obtain ⟨envelope, base, stored, state, participants, haccepts, rfl, hactive⟩ :=
      ingestCommit_active hbefore hcommit
    rw [liftsHold_ingest]
    cases haccepts.loaded with
    | created hnone _ _ _ =>
        rw [Db.status?, hnone] at hheld
        cases hheld
    | stored hrow =>
        rw [status?_of_session? hrow] at hheld
        exact ⟨envelope, stored, participants, hrow, hheld,
          (finalState_active_iff (by exact hheld) haccepts.admitted).mp hactive, haccepts⟩
  -- the offer handling adds nothing: a committed offer has made its session active already
  unfold ingestEnvelope at hafter
  split at hafter
  · rename_i heq
    rw [heq]
    exact hafter
  rename_i db1 committed heq
  rw [heq]
  split at hafter
  · rename_i hoffer
    by_contra hnot
    obtain ⟨db2, hstores, hend | ⟨ctx', accept, hext, hnow, hend, hkind⟩⟩ :=
      handleOffer_cases ctx db1 raw committed
    · rw [hend, status?_of_stores hstores] at hafter
      exact hnot hafter
    · rw [hend] at hafter
      obtain ⟨envelope, base, stored, state, participants, haccepts, rfl, -⟩ :=
        ingestCommit_active (by rw [status?_of_stores hstores]; exact hnot) hafter
      obtain ⟨-, -, hsid⟩ := hkind envelope haccepts.verified
      rcases ingestCommit_cases ctx db raw with ⟨db', exit, heq', -⟩ | ⟨_, _, exit, _, _, heq', _⟩ |
        ⟨first, base1, stored1, state1, participants1, db', haccepts1, heq', hcommits1⟩
      · rw [heq] at heq'
        cases heq'
      · rw [heq] at heq'
        cases heq'
      · rw [heq] at heq'
        cases heq'
        refine hnot ?_
        simp only [isPeerOffer, Bool.and_eq_true, beq_iff_eq] at hoffer
        rw [hsid, status?_of_session? (hcommits1.session?_self haccepts1.loaded.base_session?)]
        exact congrArg some (finalState_of_active_kind (by rw [hoffer.1]; rfl))
  · exact hafter

/-- A call about an active session, with a kind that maps to `active`, leaves it active. -/
theorem ingestCommit_keeps_active {sid : String} {row : SessionRow}
    (hrow : db.session? sid = some row) (hactive : row.status = .active)
    (hdue : isOverdue row ctx.now = false)
    (hkind : ∀ envelope, verified? ctx db raw = some envelope →
      envelope.sessionId = sid ∧ peerKindTransition envelope.kind = some .active) :
    (ingestCommit ctx db raw).1.status? sid = some .active := by
  rcases ingestCommit_cases ctx db raw with ⟨db', exit, heq, hexp⟩ |
    ⟨envelope, newRow, exit, hver, ⟨hnone, -, hcreates⟩, heq, -⟩ |
    ⟨envelope, base, stored, state, participants, db', haccepts, heq, hcommits⟩
  · rw [heq]
    rcases hexp with hsame | ⟨sid', row', hrow', hdue', hw⟩
    · rw [status?_congr (hsame.session? sid), status?_of_session? hrow, hactive]
    · rw [status?_of_statusWritten hw, if_neg, status?_of_session? hrow, hactive]
      rintro rfl
      rw [hrow] at hrow'
      cases hrow'
      rw [expiresNow, hdue] at hdue'
      cases hdue'
  · rw [(hkind envelope hver).1, hrow] at hnone
    cases hnone
  · obtain ⟨rfl, hk⟩ := hkind envelope haccepts.verified
    rw [heq, status?_of_session? (hcommits.session?_self haccepts.loaded.base_session?)]
    exact congrArg some (finalState_of_active_kind hk)

@[simp] theorem acceptedRow_expiresAt (row : SessionRow) :
    (acceptedRow envelope row).expiresAt = row.expiresAt := by
  unfold acceptedRow
  split
  · split
    · split <;> rfl
    · rfl
  · rfl

/-- Under the condition the call does lift the hold. -/
theorem lifts_of_liftsHold (h : liftsHold db (.ingest ctx raw) = true) :
    ∃ sid, Lifts db (ingestEnvelope ctx db raw).db sid := by
  obtain ⟨envelope, row, participants, hrow, hheld, hkind, haccepts⟩ := liftsHold_ingest.mp h
  obtain ⟨db1, heq, hcommits⟩ := ingestCommit_of_accepts haccepts
  have hrow1 := hcommits.session?_self hrow
  rw [finalState_of_active_kind hkind] at hrow1
  refine ⟨envelope.sessionId, by rw [status?_of_session? hrow]; exact hheld, ?_⟩
  simp only [ingestEnvelope, heq]
  split
  · obtain ⟨db2, hstores, hend | ⟨ctx', accept, hext, hnow, hend, haccept⟩⟩ :=
      handleOffer_cases ctx db1 raw ⟨envelope, db.session? envelope.sessionId⟩
    · rw [hend, status?_of_stores hstores, status?_of_session? hrow1]
      rfl
    · obtain ⟨n, hrow2⟩ := hstores.session? envelope.sessionId
      rw [hrow1, Option.map_some] at hrow2
      have hdue : isOverdue row ctx.now = false := by
        rw [← expiresNow_of_held hheld]
        exact haccepts.timely row hrow
      rw [hend]
      refine ingestCommit_keeps_active hrow2 rfl ?_ fun e he => ?_
      · have hlive : isTerminalState row.status = false := by
          cases hs : row.status <;> simp [hs, isHeld] at hheld <;> rfl
        simp only [isOverdue, hlive, Bool.not_false, Bool.and_true] at hdue
        simp only [isOverdue, addBytes, setStatus, acceptedRow_expiresAt, hnow]
        simp [hdue, isTerminalState]
      · obtain ⟨hk, -, hs⟩ := haccept e he
        exact ⟨hs, by rw [hk]; rfl⟩
  · rw [status?_of_session? hrow1]
    rfl

end Held

/-! ### Whole runs -/

/-- A status event is of no kind that maps to `active`. -/
theorem not_liftsHold_statusEvent {sender : Sender} {peerKey : Option PublicKey} {db : Db}
    {sid agentId contentHash : String} {sequence : Nat} {payload : Fields} :
    liftsHold db (.ingest (selfContext sender peerKey)
      (signedEnvelope sender sid agentId contentHash sequence .statusEvent payload)) ≠ true := by
  intro h
  obtain ⟨envelope, row, participants, -, -, hkind, haccepts⟩ := liftsHold_ingest.mp h
  rw [(verified_signedEnvelope haccepts.verified).2.1] at hkind
  cases hkind

theorem pause_lifts_nothing {sender : Sender} {db : Db} {sid reason sid' : String} :
    ¬Lifts db (pauseSession sender db sid reason).db sid' := by
  rintro ⟨hheld, hafter⟩
  have hbefore : db.status? sid' ≠ some .active := by
    intro h
    rw [h] at hheld
    cases hheld
  unfold pauseSession at hafter
  rcases ownerStatusEvent_cases sender db sid "owner_paused" reason
    (show OwnerAction.ownerPause.target = .ok .paused from rfl) with
    h | ⟨row, db1, hrow, hlive, hedge, hw, h | ⟨peerKey, agentId, contentHash, sequence, payload, h⟩⟩
  · rw [h] at hafter
    exact hbefore hafter
  · rw [h] at hafter
    exact not_active_of_statusWritten hw (by decide) hbefore hafter
  · rw [h] at hafter
    refine not_liftsHold_statusEvent (liftsHold_of_ingest sid' ?_ hafter)
    -- the session is still held after the pause was written
    rw [status?_of_statusWritten hw]
    split
    · rw [status?_of_session? hrow]
      rfl
    · exact hheld

/-- One operation: outside the owner's decisions, holds are lifted exactly under
the condition. -/
theorem step_lifts {db : Db} {op : Operation} :
    (∃ sid, Lifts db (step db op) sid) ∧ isOwnerDecision op = false ↔ liftsHold db op = true := by
  have hactive : ∀ {sid : String}, (db.status? sid).any isHeld = true →
      db.status? sid ≠ some .active := by
    intro sid hheld h
    rw [h] at hheld
    cases hheld
  cases op with
  | ingest ctx raw =>
      constructor
      · rintro ⟨⟨sid, hheld, hafter⟩, -⟩
        exact liftsHold_of_ingest sid hheld hafter
      · intro h
        exact ⟨lifts_of_liftsHold h, rfl⟩
  | nodeCommand ext sid command now =>
      simp only [liftsHold, isOwnerDecision, and_true, Bool.and_eq_true, decide_eq_true_eq]
      rcases applyNodeCommandTransition_cases ext db sid command now with
        ⟨row, target, hrow, htarget, hvalid, hw, -⟩ | ⟨hsame, -, hno⟩
      · constructor
        · rintro ⟨sid', hheld, hafter⟩
          change (applyNodeCommandTransition ext db sid command now).1.status? sid' = _ at hafter
          by_cases ht : target = .active
          · rw [status?_of_statusWritten hw] at hafter
            split at hafter
            · rename_i hsid
              rw [hsid] at hheld
              refine ⟨?_, hheld⟩
              rw [ht] at htarget
              cases command <;> cases htarget
              rfl
            · exact absurd hafter (hactive hheld)
          · exact absurd hafter (not_active_of_statusWritten hw ht (hactive hheld))
        · rintro ⟨rfl, hheld⟩
          cases htarget
          refine ⟨sid, hheld, ?_⟩
          change (applyNodeCommandTransition ext db sid .markActive now).1.status? sid = _
          rw [status?_of_statusWritten hw, if_pos rfl, status?_of_session? hrow]
          rfl
      · constructor
        · rintro ⟨sid', hheld, hafter⟩
          change (applyNodeCommandTransition ext db sid command now).1.status? sid' = _ at hafter
          rw [status?_congr (hsame.session? sid')] at hafter
          exact absurd hafter (hactive hheld)
        · rintro ⟨rfl, hheld⟩
          cases hrow : db.session? sid with
          | none =>
              rw [Db.status?, hrow] at hheld
              cases hheld
          | some row =>
              rw [status?_of_session? hrow] at hheld
              have hvalid := hno row .active hrow rfl
              cases hs : row.status <;> simp [hs, isHeld] at hheld <;> rw [hs] at hvalid <;>
                cases hvalid
  | ownerCommand ext sid owner action now =>
      simp only [liftsHold, Bool.false_eq_true, iff_false, not_and, Bool.not_eq_false]
      rintro ⟨sid', hheld, hafter⟩
      change (applyOwnerCommandTransition ext db sid owner action now).1.status? sid' = _ at hafter
      rcases applyOwnerCommandTransition_cases ext db sid owner action now with
        ⟨row, target, hrow, htarget, -, -, hw, -⟩ | ⟨hsame, -⟩
      · by_contra hno
        refine not_active_of_statusWritten hw ?_ (hactive hheld) hafter
        cases action with
        | ownerPause => cases htarget; decide
        | ownerCancel => cases htarget; decide
        | unknown name => cases htarget
        | ownerResume => exact absurd rfl hno
        | ownerApprovalDecision decision => exact absurd rfl hno
      · rw [status?_congr (hsame.session? sid')] at hafter
        exact absurd hafter (hactive hheld)
  | pause sender sid reason =>
      simp only [liftsHold, Bool.false_eq_true, iff_false, not_and, Bool.not_eq_false]
      rintro ⟨sid', hlifts⟩
      exact absurd hlifts pause_lifts_nothing
  | resume sender sid reason => simp [isOwnerDecision, liftsHold]
  | decide ext args => simp [isOwnerDecision, liftsHold]
  | append ext event =>
      simp only [liftsHold, Bool.false_eq_true, iff_false, not_and, Bool.not_eq_false]
      rintro ⟨sid', hheld, hafter⟩
      change (appendSessionEvent ext db event.toNewEvent).1.status? sid' = _ at hafter
      rcases appendSessionEvent_cases ext db event.toNewEvent with ⟨h, -⟩ | ⟨h, -⟩
      · rw [status?_congr (SameTables.session? h sid')] at hafter
        exact absurd hafter (hactive hheld)
      · rw [status?_congr (h.session? sid')] at hafter
        exact absurd hafter (hactive hheld)

/-- Along a run, a hold is lifted only by the owner exactly when no step meets
the condition. -/
theorem holds_lifted_by_owner_iff (db : Db) (ops : List Operation) :
    Along step (fun db op => ∀ sid, Lifts db (step db op) sid → isOwnerDecision op = true) db ops ↔
      Along step (fun db op => liftsHold db op = false) db ops := by
  have hiff : ∀ (db : Db) (op : Operation),
      (∀ sid, Lifts db (step db op) sid → isOwnerDecision op = true) ↔ liftsHold db op = false := by
    intro db op
    rw [← Bool.not_eq_true, ← step_lifts]
    simp
  exact ⟨Along.mono fun db op h => (hiff db op).mp h, Along.mono fun db op h => (hiff db op).mpr h⟩

/-- `bob` pauses the session, and the next proposal of `alice` makes it active
again. -/
theorem proposal_lifts_pause :
    ¬Along step (fun db op => ∀ sid, Lifts db (step db op) sid → isOwnerDecision op = true)
      Sample.bobDb
      (Sample.underWay ++ [.pause (Sample.sender "bob") "s1" "break"] ++
        [Sample.ingest "s1" "alice" "scout" 3 .proposal [(.text "text", .text "second")]]) := by
  intro h
  rw [along_append] at h
  have hlifts : Lifts (run step Sample.bobDb
      (Sample.underWay ++ [.pause (Sample.sender "bob") "s1" "break"]))
      (step (run step Sample.bobDb
        (Sample.underWay ++ [.pause (Sample.sender "bob") "s1" "break"]))
        (Sample.ingest "s1" "alice" "scout" 3 .proposal [(.text "text", .text "second")])) "s1" :=
    by
      unfold Lifts
      decide +kernel
  exact Bool.noConfusion (h.2.1 "s1" hlifts)

end Kin.Node
