import Kin.Node.Redelivery
import Kin.Transport.AgentCheck

/-!
Approval decisions of the peer. The reducer reserves the kind for owners, but
reconstruction makes an owner of either participant, so the rule refuses nobody:
what is left are the checks that every other kind passes through as well.
-/

namespace Kin.Node

open Kin.Py Kin.Lib Kin.Schemas Kin.Session Kin.Storage Kin.Audit Kin.Policy Kin.Transport

variable {ctx : IngestContext} {db : Db} {raw : Fields} {envelope : SessionEnvelope}
  {row : SessionRow}

/-- The other participant of a session of this node's owner. -/
def SessionPeer (db : Db) (sid username : String) : Prop :=
  username ≠ db.myUsername ∧ ∃ row, db.session? sid = some row ∧
    (row.initiatorUsername = username ∧ row.receiverUsername = db.myUsername ∨
      row.initiatorUsername = db.myUsername ∧ row.receiverUsername = username)

/-- The call returns `rejected` and stores nothing. -/
def KeptOut (ctx : IngestContext) (db : Db) (raw : Fields) : Prop :=
  (∃ ack, (ingestEnvelope ctx db raw).exit = .ok ack ∧ ack.status = .rejected) ∧
    Unchanged ctx.now db (ingestEnvelope ctx db raw).db

/-- A check other than the role rule refuses the envelope: its number is stored
with another payload, or it is new and the session expires with the call or is
over, the actor has no name, the agent is not the registered one, or the number
is not the actor's next. -/
def refusedOtherwise (ctx : IngestContext) (db : Db) (envelope : SessionEnvelope) : Bool :=
  match storedEvent? db envelope.sessionId envelope.actorUsername envelope.sequence with
  | some event =>
      decide (canonicalPayloadHash ctx.ext (some (.obj envelope.payload)) ≠
        canonicalPayloadHash ctx.ext event.payload)
  | none =>
      match db.session? envelope.sessionId with
      | none => true
      | some row =>
          expiresNow row ctx.now || isTerminalState row.status ||
            decide (envelope.actorUsername = "") ||
            decide (envelope.actorAgentId ≠ registeredAgent row envelope.actorUsername) ||
            decide (envelope.sequence ≠
              nextSequence db envelope.sessionId envelope.actorUsername)

/-! ### The reducer -/

theorem advanceToReview_of_decision (state : SessionState) (hkind : envelope.kind = .approvalDecision) :
    advanceToReview state envelope.kind = state := by
  rw [hkind]
  unfold advanceToReview
  simp

/-- The decision keeps the status and takes no turn. -/
theorem admitted_decision_iff (ext : Externals) {events : List SessionEventRow}
    (hkind : envelope.kind = .approvalDecision) (hsid : row.sessionId = envelope.sessionId) :
    (∃ participants, Admitted (advanceToReview (stateOf ext row events) envelope.kind) envelope
      participants) ↔ isTerminalState row.status = false ∧
      authorizeActor (advanceToReview (stateOf ext row events) envelope.kind) envelope = none ∧
      envelope.sequence = (stateOf ext row events).lastSequence envelope.actorUsername + 1 := by
  rw [advanceToReview_of_decision _ hkind]
  constructor
  · rintro ⟨participants, h⟩
    exact ⟨h.live, h.actor, checkSequence_eq_none.mp h.sequence⟩
  · rintro ⟨hlive, hactor, hseq⟩
    refine ⟨rowParticipants row, ⟨hlive, hsid.symm, hactor, checkSequence_eq_none.mpr hseq, ?_, ?_, ?_⟩⟩
    · exact checkTransition_eq_none.mpr (.inl (by rw [hkind]; rfl))
    · rw [checkTurn_eq_none, hkind]
      intro h
      cases h
    · rw [participantsAfter, hkind, if_neg (by decide)]
      rfl

/-- The reducer answers a decision, whatever the state. -/
theorem isOk_processPeerEnvelope_decision {state : SessionState}
    (hkind : envelope.kind = .approvalDecision) (hsid : envelope.sessionId = state.sessionId) :
    (processPeerEnvelope state envelope).isOk = true := by
  have hpermitted : Transport.permitted state envelope = true := by
    simp [Transport.permitted, hkind, targetStatus, peerKindTransition]
  rcases processPeerEnvelope_cases hsid with ⟨⟨participants, h⟩, -⟩ | ⟨⟨r, h⟩, -⟩ |
    ⟨-, -, ⟨h, -⟩ | ⟨-, -, h⟩⟩
  · rw [processPeerEnvelope_of_admitted h]
    rfl
  · rw [h]
    rfl
  · rw [hpermitted] at h
    cases h
  · rw [lacksAgent, hkind] at h
    cases h

/-! ### The call -/

/-- A call that ends before the commit, for a stored session, with an answer that
declines. -/
theorem keptOut_of_ended (hver : verified? ctx db raw = some envelope)
    (hrow : db.session? envelope.sessionId = some row) {db' : Db} {exit : Exit}
    (heq : ingestCommit ctx db raw = (db', .error exit)) (hok : exit.isOk = true)
    (hdeclines : Declines exit) : KeptOut ctx db raw := by
  have hres : ingestEnvelope ctx db raw = { db := db', exit } := by simp only [ingestEnvelope, heq]
  rw [KeptOut, hres]
  refine ⟨?_, ?_⟩
  · cases exit with
    | error e => cases hok
    | ok ack => exact ⟨ack, rfl, hdeclines ack rfl⟩
  · rcases ingestCommit_cases ctx db raw with ⟨_, _, heq', hexp⟩ | ⟨e, _, _, hver', hopens, -⟩ |
      ⟨_, _, _, _, _, _, _, heq', -⟩
    · rw [heq] at heq'
      cases heq'
      exact unchanged_of_expires hexp
    · rw [hver] at hver'
      cases hver'
      have habsent := hopens.absent
      rw [hrow] at habsent
      cases habsent
    · rw [heq] at heq'
      cases heq'

theorem not_keptOut_of_delivered (h : Delivered ctx db raw) : ¬KeptOut ctx db raw := by
  rintro ⟨⟨ack, hack, hrejected⟩, -⟩
  obtain ⟨ack', hack', hdelivered⟩ := h
  rw [hack] at hack'
  cases hack'
  rw [hrejected] at hdelivered
  cases hdelivered

/-- Under a number that is stored the payload hash decides. -/
theorem keptOut_iff_of_repeated {event : SessionEventRow}
    (hver : verified? ctx db raw = some envelope)
    (hstored : storedEvent? db envelope.sessionId envelope.actorUsername envelope.sequence =
      some event) :
    KeptOut ctx db raw ↔ canonicalPayloadHash ctx.ext (some (.obj envelope.payload)) ≠
      canonicalPayloadHash ctx.ext event.payload := by
  have hread := readFrom_of_verified hver
  obtain ⟨hsame, hexit⟩ := ingestEnvelope_of_repeated hver hstored
  by_cases hhash : canonicalPayloadHash ctx.ext (some (.obj envelope.payload)) =
      canonicalPayloadHash ctx.ext event.payload
  · rw [if_pos hhash] at hexit
    refine iff_of_false (not_keptOut_of_delivered ?_) (not_not.mpr hhash)
    rw [Delivered, hexit]
    exact deliveredAck_ok hread ctx
  · rw [if_neg hhash] at hexit
    refine iff_of_true ⟨?_, ?_⟩ hhash
    · rw [hexit]
      exact rejectVerified_ok hread ctx (some .sequenceReuseMismatch) (some _)
    · exact unchanged_of_expires ((expires_afterExpiry ctx db _).trans_sameTables hsame)

/-- Under a new number the reducer decides. -/
theorem keptOut_iff_of_new (hver : verified? ctx db raw = some envelope)
    (hkind : envelope.kind = .approvalDecision)
    (hnew : storedEvent? db envelope.sessionId envelope.actorUsername envelope.sequence = none)
    (hrow : db.session? envelope.sessionId = some row) :
    KeptOut ctx db raw ↔ ¬(expiresNow row ctx.now = false ∧ ∃ participants,
      Admitted (advanceToReview (stateOf ctx.ext row (db.eventsOf envelope.sessionId))
        envelope.kind) envelope participants) := by
  have hsid : envelope.sessionId = (advanceToReview
      (stateOf ctx.ext row (db.eventsOf envelope.sessionId)) envelope.kind).sessionId := by
    rw [advanceToReview_of_decision _ hkind]
    exact (sessionId_of_session? hrow).symm
  rcases ended_or_accepts hver hrow with ⟨db', exit, heq⟩ | ⟨participants, haccepts⟩
  · have hok : exit.isOk = true := by
      have hanswers := commitAnswers_of_stored hver hnew hrow
      rw [heq, isOk_processPeerEnvelope_decision hkind hsid, Bool.or_true] at hanswers
      exact hanswers
    have hdeclines : Declines exit := by
      refine declines_ingestCommit (fun e he => ?_) heq
      rw [hver] at he
      cases he
      exact hnew
    refine iff_of_true (keptOut_of_ended hver hrow heq hok hdeclines) ?_
    rintro ⟨htimely, participants, hadmitted⟩
    obtain ⟨_, hcommitted, -⟩ := ingestCommit_of_accepts
      { verified := hver
        fresh := hnew
        timely := by
          intro r hr
          rw [hrow] at hr
          cases hr
          exact htimely
        loaded := .stored hrow
        admitted := hadmitted }
    rw [heq] at hcommitted
    cases hcommitted
  · refine iff_of_false ?_ (not_not.mpr ⟨haccepts.timely row hrow, participants, haccepts.admitted⟩)
    obtain ⟨db', heq, -⟩ := ingestCommit_of_accepts haccepts
    rintro ⟨⟨ack, hack, hrejected⟩, -⟩
    rw [not_rejected_of_committed heq hack] at hrejected
    cases hrejected

/-- Only a check that has nothing to do with the kind keeps the decision out. -/
theorem keptOut_iff (hlog : LogInvariant db) (hver : verified? ctx db raw = some envelope)
    (hkind : envelope.kind = .approvalDecision)
    (hpeer : SessionPeer db envelope.sessionId envelope.actorUsername) :
    KeptOut ctx db raw ↔ refusedOtherwise ctx db envelope = true := by
  obtain ⟨hother, row, hrow, hnames⟩ := hpeer
  unfold refusedOtherwise
  cases hstored : storedEvent? db envelope.sessionId envelope.actorUsername envelope.sequence with
  | some event => rw [keptOut_iff_of_repeated hver hstored, decide_eq_true_eq]
  | none =>
  rw [keptOut_iff_of_new hver hkind hstored hrow,
    admitted_decision_iff ctx.ext hkind (sessionId_of_session? hrow), hrow]
  simp only [Bool.or_eq_true, decide_eq_true_eq]
  by_cases hempty : envelope.actorUsername = ""
  · -- the owner of the node has a name then, so there is a participant
    have hmine : Member row db.myUsername :=
      ⟨fun h => hother (hempty.trans h.symm), hnames.elim (fun h => .inr h.2.symm) fun h => .inl h.1.symm⟩
    have hsome := Dict.isEmpty_of_get? (get?_rowParticipants_of_member hmine)
    refine iff_of_true ?_ (.inl (.inl (.inr hempty)))
    rintro ⟨-, -, hnone, -⟩
    rw [authorizeActor_of_unnamed ctx.ext (db.eventsOf envelope.sessionId) hempty, hsome] at hnone
    cases hnone
  · have hmember : Member row envelope.actorUsername :=
      ⟨hempty, hnames.elim (fun h => .inl h.1.symm) fun h => .inr h.2.symm⟩
    have hfirst : acceptsFirst row envelope.kind envelope.actorUsername = false := by
      rw [acceptsFirst, hkind]
      rfl
    have hauthorized : authorizeActor (advanceToReview (stateOf ctx.ext row
        (db.eventsOf envelope.sessionId)) envelope.kind) envelope = none ↔
        envelope.actorAgentId = registeredAgent row envelope.actorUsername := by
      rw [authorizeActor_of_member _ _ hmember, hfirst]
      simp
    have hnext : (stateOf ctx.ext row (db.eventsOf envelope.sessionId)).lastSequence
        envelope.actorUsername + 1 = nextSequence db envelope.sessionId envelope.actorUsername := by
      rw [lastSequence_stateOf (hlog.sequenced _) hempty, nextSequence_eq hlog]
      rfl
    rw [hauthorized, hnext, Int.ofNat_inj]
    simp only [hempty, or_false]
    rw [← Bool.not_eq_true, ← Bool.not_eq_true]
    tauto

/-- In every run of a node, a verified approval decision of the session's peer is
rejected and nothing is stored exactly when a check other than the role rule
refuses it. -/
theorem peer_decision_kept_out_iff (identity : Option String) (contacts : List ContactRow)
    (agents : List AgentRow) (activities : List Activity) (ctx : IngestContext) (raw : Fields)
    (envelope : SessionEnvelope) :
    let db := run Activity.step (Db.fresh identity contacts agents) activities
    verified? ctx db raw = some envelope → envelope.kind = .approvalDecision →
      SessionPeer db envelope.sessionId envelope.actorUsername →
      (KeptOut ctx db raw ↔ refusedOtherwise ctx db envelope = true) := by
  intro db hver hkind hpeer
  exact keptOut_iff (logInvariant_activities (logInvariant_fresh identity contacts agents) activities)
    hver hkind hpeer

namespace Sample

open Kin.Transport.Sample

/-- `bob`'s node, with the session of `alice` under way. -/
def bobUnderWay : Db := run Activity.step bobDb (underWay.map .operation)

/-- `alice` approves what `bob` would have to approve. -/
def decision (sequence : Nat) : Fields :=
  Transport.Sample.envelope "s1" "alice" "scout" sequence .approvalDecision
    [(.text "approval_id", .text "a1"), (.text "decision", .text "approve_once")]

/-- What the samples come to, decided together. -/
theorem underWay_facts :
    (bobUnderWay.myUsername = "bob" ∧
      (bobUnderWay.session? "s1").map
        (fun row => (row.initiatorUsername, row.receiverUsername)) = some ("alice", "bob")) ∧
    ((verified? context bobUnderWay (decision 4)).any fun e =>
      e.kind == .approvalDecision && e.sessionId == "s1" && e.actorUsername == "alice" &&
        refusedOtherwise context bobUnderWay e) = true ∧
    ((verified? context bobUnderWay (decision 3)).any fun e =>
      e.kind == .approvalDecision && e.sessionId == "s1" && e.actorUsername == "alice" &&
        true) = true ∧
    answer context bobUnderWay (decision 3) = some .delivered ∧
    (ingestEnvelope context bobUnderWay (decision 3)).db.sessionEvents.length =
      bobUnderWay.sessionEvents.length + 1 := by
  decide +kernel

theorem alice_is_peer {envelope : SessionEnvelope} (hsid : envelope.sessionId = "s1")
    (hactor : envelope.actorUsername = "alice") :
    SessionPeer bobUnderWay envelope.sessionId envelope.actorUsername := by
  obtain ⟨hme, hnames⟩ := underWay_facts.1
  obtain ⟨row, hrow, hpair⟩ := Option.map_eq_some_iff.mp hnames
  rw [hsid, hactor]
  refine ⟨by rw [hme]; decide, row, hrow, .inl ⟨congrArg Prod.fst hpair, ?_⟩⟩
  rw [hme]
  exact congrArg Prod.snd hpair

theorem verified_decision (sequence : Nat) (test : SessionEnvelope → Bool)
    (h : ((verified? context bobUnderWay (decision sequence)).any fun e =>
      e.kind == .approvalDecision && e.sessionId == "s1" && e.actorUsername == "alice" &&
        test e) = true) :
    ∃ envelope, verified? context bobUnderWay (decision sequence) = some envelope ∧
      envelope.kind = .approvalDecision ∧
      SessionPeer bobUnderWay envelope.sessionId envelope.actorUsername ∧
      test envelope = true := by
  obtain ⟨envelope, hver, htest⟩ := (Option.any_eq_true _ _).mp h
  simp only [Bool.and_eq_true, beq_iff_eq] at htest
  exact ⟨envelope, hver, htest.1.1.1, alice_is_peer htest.1.1.2 htest.1.2, htest.2⟩

end Sample

/-- A decision that leaves out a number is kept out. -/
theorem late_decision_kept_out :
    KeptOut Sample.context Sample.bobUnderWay (Sample.decision 4) := by
  obtain ⟨envelope, hver, hkind, hpeer, hrefused⟩ :=
    Sample.verified_decision 4 (refusedOtherwise Sample.context Sample.bobUnderWay)
      Sample.underWay_facts.2.1
  exact (peer_decision_kept_out_iff (some "bob") _ _ (Sample.underWay.map .operation)
    Sample.context (Sample.decision 4) envelope hver hkind hpeer).mpr hrefused

/-- `alice`'s next envelope is a decision, and `bob`'s node stores it. -/
theorem peer_decision_delivered :
    ∃ envelope, verified? Sample.context Sample.bobUnderWay (Sample.decision 3) = some envelope ∧
      envelope.kind = .approvalDecision ∧
      SessionPeer Sample.bobUnderWay envelope.sessionId envelope.actorUsername ∧
      ¬KeptOut Sample.context Sample.bobUnderWay (Sample.decision 3) ∧
      (ingestEnvelope Sample.context Sample.bobUnderWay
        (Sample.decision 3)).db.sessionEvents.length =
          Sample.bobUnderWay.sessionEvents.length + 1 := by
  obtain ⟨-, -, hverified, hanswer, hlength⟩ := Sample.underWay_facts
  obtain ⟨envelope, hver, hkind, hpeer, -⟩ :=
    Sample.verified_decision 3 (fun _ => true) hverified
  exact ⟨envelope, hver, hkind, hpeer,
    not_keptOut_of_delivered (Sample.delivered_of_answer hanswer), hlength⟩

end Kin.Node
