import Kin.Node.Custody
import Kin.Transport.Rejection

/-!
What an owner's own envelope is answered when it carries the next number of its author.
It is no duplicate, so it is stored or turned down, unless the reducer raises; `turnedDown`
says which, in terms of the checks of `verify_and_build_envelope` and
`process_peer_envelope`.
-/

namespace Kin.Node

open Kin.Py Kin.Lib Kin.Schemas Kin.Session Kin.Storage Kin.Audit Kin.Policy Kin.Transport

/-! ### The next number -/

theorem le_of_max? {l : List Nat} {n m : Nat} (hmem : n ∈ l) (hmax : l.max? = some m) : n ≤ m :=
  (List.max?_eq_some_iff.mp hmax).2 n hmem

/-- A number that is stored for the actor is below the next one. -/
theorem lt_nextSequence {db : Db} {sid actor : String} {event : SessionEventRow} {n : Nat}
    (hmem : event ∈ db.sessionEvents) (hsid : event.sessionId = sid)
    (hactor : event.actorUsername = actor) (hseq : event.sequence = some n) :
    n < nextSequence db sid actor := by
  have hlisted : n ∈ ((db.eventsOf sid).filter fun e => e.actorUsername == actor).filterMap
      (·.sequence) := by
    refine List.mem_filterMap.mpr ⟨event, ?_, hseq⟩
    refine List.mem_filter.mpr ⟨?_, by simpa using hactor⟩
    exact List.mem_filter.mpr ⟨hmem, by simpa using hsid⟩
  unfold nextSequence
  cases hmax : (((db.eventsOf sid).filter fun e => e.actorUsername == actor).filterMap
      (·.sequence)).max? with
  | none =>
      rw [List.max?_eq_none_iff.mp hmax] at hlisted
      cases hlisted
  | some m =>
      have hle := le_of_max? hlisted hmax
      rw [Option.getD_some]
      omega

/-- The next number is not stored yet. -/
theorem storedEvent?_nextSequence (db : Db) (sid actor : String) :
    storedEvent? db sid actor (nextSequence db sid actor) = none := by
  by_contra hsome
  obtain ⟨event, hevent⟩ := Option.ne_none_iff_exists'.mp hsome
  obtain ⟨hmem, hsid, hactor, hseq⟩ := mem_of_storedEvent? hevent
  exact absurd (lt_nextSequence hmem hsid hactor hseq) (lt_irrefl _)

/-- Numbers only grow with the log. -/
theorem nextSequence_mono {db db' : Db} (h : db.sessionEvents <+: db'.sessionEvents)
    (sid actor : String) : nextSequence db sid actor ≤ nextSequence db' sid actor := by
  unfold nextSequence
  cases hmax : (((db.eventsOf sid).filter fun e => e.actorUsername == actor).filterMap
      (·.sequence)).max? with
  | none =>
      rw [Option.getD_none]
      omega
  | some m =>
      have hlisted := (List.max?_eq_some_iff.mp hmax).1
      obtain ⟨event, hevent, hseq⟩ := List.mem_filterMap.mp hlisted
      obtain ⟨hevent, hactor⟩ := List.mem_filter.mp hevent
      obtain ⟨hmem, hsid⟩ := List.mem_filter.mp hevent
      have hlt : m < nextSequence db' sid actor :=
        lt_nextSequence (h.subset hmem) (by simpa using hsid) (by simpa using hactor) hseq
      unfold nextSequence at hlt
      rw [Option.getD_some]
      omega

/-! ### The checks -/

/-- The reducer's checks before its last one, which is on the payload of an acceptance. -/
def passes (state : SessionState) (envelope : SessionEnvelope) : Bool :=
  inOrder state envelope && permitted state envelope && (checkTurn state envelope.kind).isNone

/-- The checks of ingestion turn the body down: it does not verify, its session is
overdue, or the reducer refuses it. -/
def turnedDown (ctx : IngestContext) (db : Db) (raw : Fields) : Bool :=
  match verified? ctx db raw with
  | none => true
  | some envelope =>
      (db.session? envelope.sessionId).any fun row =>
        expiresNow row ctx.now ||
          !passes (advanceToReview (stateOf ctx.ext row (db.eventsOf envelope.sessionId))
            envelope.kind) envelope

/-- A body under the next number of its author, in a session with participants; a change
of participants asks for no transition, so it needs none. -/
structure NextEnvelope (db : Db) (raw : Fields) (sid actor : String) : Prop where
  sessionId : rawSessionId raw = .text sid
  author : rawActorUsername raw = .text actor
  sequence : rawSequence raw = .int (nextSequence db sid actor)
  hash : ∃ hash, rawContentHash raw = .text hash
  session : ∃ row, db.session? sid = some row ∧ ((rowParticipants row).isEmpty = false ∨
    rawKind raw = .text MessageKind.participantChanged.value)

variable {ctx : IngestContext} {db : Db} {raw : Fields} {sid actor : String}

/-- A body that does not verify is rejected if it is answered. -/
theorem rejected_of_unverified (hver : verified? ctx db raw = none)
    {ack : TransportAcknowledgement} (hexit : (ingestEnvelope ctx db raw).exit = .ok ack) :
    ack.status = .rejected := by
  have hreject : ∃ code message, (ingestEnvelope ctx db raw).exit = rejectRaw ctx raw code message := by
    rcases hopen : openSession ctx db raw with ⟨db', exit | opened⟩
    · have heq : (ingestEnvelope ctx db raw).exit = exit := by
        simp only [ingestEnvelope, ingestCommit, hopen]
      rcases openSession_exit hopen with ⟨e, he⟩ | ⟨code, message, he⟩
      · rw [heq, he] at hexit
        cases hexit
      · exact ⟨code, message, heq.trans he⟩
    · obtain ⟨code, message, heq⟩ := ingestCommit_of_opened hver hopen
      exact ⟨code, message, by simp only [ingestEnvelope, heq]⟩
  obtain ⟨code, message, heq⟩ := hreject
  exact status_of_acknowledgement (heq.symm.trans hexit)

def RefusedOrRaised (ctx : IngestContext) (raw : Fields) (envelope : SessionEnvelope)
    (exit : Exit) : Prop :=
  (∃ e, exit = .error e) ∨ ∃ code message, exit = rejectVerified ctx raw envelope code message

theorem RefusedOrRaised.rejected {envelope : SessionEnvelope} {exit : Exit}
    (h : RefusedOrRaised ctx raw envelope exit) {ack : TransportAcknowledgement}
    (hexit : exit = .ok ack) : ack.status = .rejected := by
  rcases h with ⟨e, he⟩ | ⟨code, message, he⟩
  · rw [he] at hexit
    cases hexit
  · exact status_of_acknowledgement (he.symm.trans hexit)

theorem refusedOrRaised_loadState {row : Option SessionRow} {envelope : SessionEnvelope} {db' : Db}
    {exit : Exit} (h : loadState ctx db raw row envelope = (db', .error exit)) :
    RefusedOrRaised ctx raw envelope exit := by
  unfold loadState at h
  split at h
  · dsimp only at h
    split at h
    · cases h
      exact .inr ⟨_, _, rfl⟩
    split at h
    · cases h
      exact .inl ⟨_, rfl⟩
    split at h
    · cases h
      exact .inl ⟨_, rfl⟩
    · cases h
  · split at h
    · cases h
      exact .inr ⟨_, _, rfl⟩
    · cases h

theorem refusedOrRaised_ingestLoaded {row : Option SessionRow} {envelope : SessionEnvelope}
    {state : SessionState} {db' : Db} {exit : Exit}
    (h : ingestLoaded ctx db raw row envelope state = (db', .error exit)) :
    RefusedOrRaised ctx raw envelope exit := by
  unfold ingestLoaded at h
  split at h
  · cases h
    exact .inl ⟨_, rfl⟩
  split at h
  · cases h
    exact .inr ⟨_, _, rfl⟩
  split at h
  · rename_i hcommit
    cases h
    unfold commitEnvelope at hcommit
    split at hcommit
    · cases hcommit
      exact .inl ⟨_, rfl⟩
    · cases hcommit
      exact .inr ⟨_, _, rfl⟩
    · dsimp only at hcommit
      split at hcommit
      · cases hcommit
      · cases hcommit
  · cases h

/-- A verified body that ends a call before the commit is refused, raises or is a
duplicate. -/
theorem refusedOrRaised_of_ended {envelope : SessionEnvelope} {db' : Db} {exit : Exit}
    (hver : verified? ctx db raw = some envelope)
    (hnew : storedEvent? db envelope.sessionId envelope.actorUsername envelope.sequence = none)
    (h : ingestCommit ctx db raw = (db', .error exit)) : RefusedOrRaised ctx raw envelope exit := by
  have hnew' : storedEvent? (afterExpiry ctx db envelope.sessionId) envelope.sessionId
      envelope.actorUsername envelope.sequence = none := by
    rw [storedEvent?_afterExpiry]
    exact hnew
  rw [ingestCommit_of_verified hver, ingestVerified, checkSequenceConflict_of_none hnew'] at h
  dsimp only at h
  split at h
  · rename_i hload
    cases h
    exact refusedOrRaised_loadState hload
  · exact refusedOrRaised_ingestLoaded h

/-- What follows the commit in a call leaves the log's events where they are. -/
theorem sessionEvents_prefix_of_committed {db' : Db} {committed : Committed}
    (h : ingestCommit ctx db raw = (db', .ok committed)) :
    db'.sessionEvents <+: (ingestEnvelope ctx db raw).db.sessionEvents := by
  unfold ingestEnvelope
  rw [h]
  dsimp only
  split
  · obtain ⟨stored, hstores, hend | ⟨ctx', accept, -, -, hend, -⟩⟩ :=
      handleOffer_cases ctx db' raw committed
    · rewrite [hend, hstores.sessionEvents]
      exact List.prefix_rfl
    · have hmove : Transport.Move ctx'.ext ctx'.now (fun _ _ _ => True) stored
          (ingestCommit ctx' stored accept).1 := ingestCommit_move fun _ _ => trivial
      rw [hend, ← hstores.sessionEvents]
      exact sessionEvents_prefix_of_move (.ingest hmove)
  · exact List.prefix_rfl

/-- No call of ingestion changes or removes an event. -/
theorem sessionEvents_prefix_ingestEnvelope (ctx : IngestContext) (db : Db) (raw : Fields) :
    db.sessionEvents <+: (ingestEnvelope ctx db raw).db.sessionEvents := by
  have hmoves := ingestEnvelope_moves ctx db raw
  generalize (ingestEnvelope ctx db raw).db = db' at hmoves
  induction hmoves with
  | refl => exact List.prefix_rfl
  | tail _ hlast ih => exact ih.trans (sessionEvents_prefix_of_move (.ingest hlast))

/-- An accepted body leaves its event in the log. -/
theorem exists_event_of_takes {envelope : SessionEnvelope} (h : Takes ctx db raw envelope) :
    ∃ event ∈ (ingestEnvelope ctx db raw).db.sessionEvents,
      event.sessionId = envelope.sessionId ∧ event.actorUsername = envelope.actorUsername ∧
        event.sequence = some envelope.sequence := by
  obtain ⟨base, stored, state, participants, haccepts⟩ := h
  obtain ⟨db', heq, hcommits⟩ := ingestCommit_of_accepts haccepts
  have hmem : eventRow base (envelopeEvent envelope ctx.now) ∈ db'.eventsOf envelope.sessionId := by
    rcases hcommits.eventsOf_self with hevents | ⟨-, _, -, -, -, hevents⟩
    · rw [hevents]
      exact List.mem_append_right _ List.mem_cons_self
    · rw [hevents]
      exact List.mem_append_left _ (List.mem_append_right _ List.mem_cons_self)
  exact ⟨_, (sessionEvents_prefix_of_committed heq).subset (List.mem_of_mem_filter hmem), rfl, rfl,
    rfl⟩

/-- In a session with participants, and for a permitted envelope, the reducer refuses what
does not pass, and admits the rest or raises. -/
theorem processPeerEnvelope_passes {state : SessionState} {envelope : SessionEnvelope}
    (hsid : envelope.sessionId = state.sessionId)
    (hsome : state.participants.isEmpty = false ∨ permitted state envelope = true) :
    (passes state envelope = false ∧ (processPeerEnvelope state envelope).isOk = true ∧
      ∀ participants, ¬Admitted state envelope participants) ∨
    (passes state envelope = true ∧ ((∃ participants, Admitted state envelope participants) ∨
      (processPeerEnvelope state envelope).isOk = false)) := by
  unfold passes
  rcases processPeerEnvelope_cases hsid with
    ⟨hadmitted, horder, hperm, hturn, -⟩ | ⟨⟨r, hr⟩, hwhy⟩ | ⟨⟨e, he⟩, horder, hwhy⟩
  · rw [horder, hperm, hturn]
    exact .inr ⟨rfl, .inl hadmitted⟩
  · refine .inl ⟨?_, by rw [hr]; rfl, fun participants hadmitted => ?_⟩
    · rcases hwhy with horder | ⟨hperm, -⟩ | ⟨hperm, hturn⟩
      · rw [horder]
        rfl
      · rw [hperm, Bool.and_false]
        rfl
      · rw [← Option.not_isSome, hturn, Bool.not_true, Bool.and_false]
    · rw [processPeerEnvelope_of_admitted hadmitted] at hr
      cases hr
  · rcases hwhy with ⟨hperm, hempty⟩ | ⟨hperm, hturn, -⟩
    · rw [hperm, hempty] at hsome
      rcases hsome with h | h
      · cases h
      · cases h
    · rw [horder, hperm, hturn, he]
      exact .inr ⟨rfl, .inr rfl⟩

/-- A change of participants leaves the status as it is, so every status permits it. -/
theorem permitted_of_participantChanged {envelope : SessionEnvelope}
    (hkind : envelope.kind = .participantChanged) (state : SessionState) :
    permitted state envelope = true := by
  have htarget : targetStatus state envelope.kind = state.status := by
    rw [hkind]
    rfl
  rw [Transport.permitted, htarget, decide_eq_true rfl, Bool.true_or, Bool.true_or]

/-- What a call answers to a new number of a stored session. -/
theorem answer_of_verified {envelope : SessionEnvelope} {row : SessionRow}
    (hver : verified? ctx db raw = some envelope)
    (hnew : storedEvent? db envelope.sessionId envelope.actorUsername envelope.sequence = none)
    (hrow : db.session? envelope.sessionId = some row)
    (hparticipants : (rowParticipants row).isEmpty = false ∨
      envelope.kind = .participantChanged) :
    (turnedDown ctx db raw = true →
      ∃ ack, (ingestEnvelope ctx db raw).exit = .ok ack ∧ ack.status = .rejected) ∧
    (turnedDown ctx db raw = false → ∀ ack, (ingestEnvelope ctx db raw).exit = .ok ack →
      ack.status = .delivered ∧ Takes ctx db raw envelope) := by
  have hdown : turnedDown ctx db raw = (expiresNow row ctx.now ||
      !passes (advanceToReview (stateOf ctx.ext row (db.eventsOf envelope.sessionId))
        envelope.kind) envelope) := by
    simp only [turnedDown, hver, hrow, Option.any_some]
  have hsid : envelope.sessionId = (advanceToReview
      (stateOf ctx.ext row (db.eventsOf envelope.sessionId)) envelope.kind).sessionId := by
    rw [advanceToReview_eq]
    exact (sessionId_of_session? hrow).symm
  have hreducer := processPeerEnvelope_passes hsid
    (hparticipants.imp (fun hsome => by rw [advanceToReview_eq]; exact hsome)
      fun hkind => permitted_of_participantChanged hkind _)
  rw [hdown]
  rcases ended_or_accepts hver hrow with ⟨db', exit, hended⟩ | ⟨participants, haccepts⟩
  · have hexit : (ingestEnvelope ctx db raw).exit = exit := by
      simp only [ingestEnvelope, hended]
    have hanswers := commitAnswers_of_stored hver hnew hrow
    rw [hended, commitAnswers] at hanswers
    constructor
    · intro h
      have hok : exit.isOk = true := by
        rw [hanswers]
        rcases hreducer with ⟨-, hok, -⟩ | ⟨hpasses, -⟩
        · rw [hok, Bool.or_true]
        · rw [hpasses, Bool.not_true, Bool.or_false] at h
          rw [h, Bool.true_or]
      cases exit with
      | error e => cases hok
      | ok ack => exact ⟨ack, hexit, (refusedOrRaised_of_ended hver hnew hended).rejected rfl⟩
    · intro h ack hack
      obtain ⟨htimely, hpasses⟩ := Bool.or_eq_false_iff.mp h
      rw [hexit] at hack
      rw [hack, htimely, Bool.false_or] at hanswers
      rcases hreducer with ⟨hno, -⟩ | ⟨-, ⟨participants, hadmitted⟩ | hraises⟩
      · rw [hno] at hpasses
        cases hpasses
      · have haccepts : Accepts ctx db raw envelope db row _ participants :=
          { verified := hver
            fresh := hnew
            timely := by
              intro other hother
              rw [hrow] at hother
              cases hother
              exact htimely
            loaded := .stored hrow
            admitted := hadmitted }
        obtain ⟨_, hcommitted, -⟩ := ingestCommit_of_accepts haccepts
        rw [hended] at hcommitted
        cases hcommitted
      · rw [hraises] at hanswers
        cases hanswers
  · constructor
    · intro h
      rw [haccepts.timely row hrow, Bool.false_or] at h
      rcases hreducer with ⟨-, -, hno⟩ | ⟨hpasses, -⟩
      · exact absurd haccepts.admitted (hno participants)
      · rw [hpasses] at h
        cases h
    · intro _ ack hack
      obtain ⟨_, hcommitted, -⟩ := ingestCommit_of_accepts haccepts
      exact ⟨not_rejected_of_committed hcommitted hack, _, _, _, _, haccepts⟩

/-- The next envelope of an author is turned down, or it is answered with `delivered`
or not at all. -/
theorem answer_of_next (h : NextEnvelope db raw sid actor) :
    (turnedDown ctx db raw = true →
      ∃ ack, (ingestEnvelope ctx db raw).exit = .ok ack ∧ ack.status = .rejected) ∧
    (turnedDown ctx db raw = false → ∀ ack, (ingestEnvelope ctx db raw).exit = .ok ack →
      ack.status = .delivered ∧ ∃ event ∈ (ingestEnvelope ctx db raw).db.sessionEvents,
        event.sessionId = sid ∧ event.actorUsername = actor ∧
          event.sequence = some (nextSequence db sid actor)) := by
  obtain ⟨row, hrow, hparticipants⟩ := h.session
  obtain ⟨hash, hhash⟩ := h.hash
  cases hver : verified? ctx db raw with
  | none =>
      have hdown : turnedDown ctx db raw = true := by simp only [turnedDown, hver]
      rw [hdown]
      refine ⟨fun _ => ?_, fun hno => by cases hno⟩
      have hpos : (1 : Int) ≤ nextSequence db sid actor := by
        unfold nextSequence
        omega
      have hanswers : answersUnverified ctx db raw = true := by
        simp only [answersUnverified, acknowledgeable, h.sessionId, h.author, h.sequence, hhash,
          asText, asStr, laxInt, Option.isSome_some, Option.any_some, decide_eq_true hpos,
          Json.hashable, Bool.and_self, Bool.true_or]
      have hok := commitAnswers_of_unverified hver
      rw [hanswers] at hok
      obtain ⟨exit, hended⟩ := ingestCommit_of_unverified hver
      have hexit : (ingestEnvelope ctx db raw).exit = exit := by
        simp only [ingestEnvelope, hended]
      rw [hended, commitAnswers] at hok
      cases exit with
      | error e => cases hok
      | ok ack => exact ⟨ack, hexit, rejected_of_unverified hver hexit⟩
  | some envelope =>
      have hread := readFrom_of_verified hver
      have hsid : envelope.sessionId = sid :=
        PyStr.text.inj (Json.str.inj (hread.sessionId.symm.trans h.sessionId))
      have hactor : envelope.actorUsername = actor :=
        PyStr.text.inj (Json.str.inj (hread.actorUsername.symm.trans h.author))
      have hsequence : envelope.sequence = nextSequence db sid actor :=
        Int.ofNat.inj (Json.int.inj (hread.sequence.symm.trans h.sequence))
      have hnew : storedEvent? db envelope.sessionId envelope.actorUsername envelope.sequence =
          none := by
        rw [hsid, hactor, hsequence]
        exact storedEvent?_nextSequence db sid actor
      have hanswer := answer_of_verified hver hnew (by rw [hsid]; exact hrow)
        (hparticipants.imp_right fun hkind => MessageKind.value_inj.mp
          (PyStr.text.inj (Json.str.inj (hread.kind.symm.trans hkind))))
      refine ⟨hanswer.1, fun hdown ack hack => ?_⟩
      obtain ⟨hdelivered, htakes⟩ := hanswer.2 hdown ack hack
      obtain ⟨event, hmem, hesid, heactor, heseq⟩ := exists_event_of_takes htakes
      exact ⟨hdelivered, event, hmem, hesid.trans hsid, heactor.trans hactor,
        heseq.trans (congrArg some hsequence)⟩

theorem exists_event_of_answered {ack : TransportAcknowledgement}
    (hexit : (ingestEnvelope ctx db raw).exit = .ok ack) (hstatus : ack.status ≠ .rejected) :
    ∃ envelope, ReadFrom raw envelope ∧
      ∃ event ∈ (ingestEnvelope ctx db raw).db.sessionEvents,
        event.sessionId = envelope.sessionId ∧ event.actorUsername = envelope.actorUsername ∧
          event.sequence = some envelope.sequence := by
  cases hver : verified? ctx db raw with
  | none => exact absurd (rejected_of_unverified hver hexit) hstatus
  | some envelope =>
  refine ⟨envelope, readFrom_of_verified hver, ?_⟩
  cases hstored : storedEvent? db envelope.sessionId envelope.actorUsername envelope.sequence with
  | some event =>
      obtain ⟨hmem, hsid, hactor, hseq⟩ := mem_of_storedEvent? hstored
      exact ⟨event, (sessionEvents_prefix_ingestEnvelope ctx db raw).subset hmem, hsid, hactor, hseq⟩
  | none =>
  rcases hcommit : ingestCommit ctx db raw with ⟨db', exit | committed⟩
  · have hended : (ingestEnvelope ctx db raw).exit = exit := by
      simp only [ingestEnvelope, hcommit]
    have hrejected := (refusedOrRaised_of_ended hver hstored hcommit).rejected
      (hended.symm.trans hexit)
    exact absurd hrejected hstatus
  · rcases ingestCommit_cases ctx db raw with ⟨_, _, heq, -⟩ | ⟨_, _, _, -, -, heq, -⟩ |
      ⟨e, base, stored, state, participants, _, haccepts, -, -⟩
    · rw [hcommit] at heq
      cases heq
    · rw [hcommit] at heq
      cases heq
    · have hsame := haccepts.verified
      rw [hver] at hsame
      cases hsame
      exact exists_event_of_takes ⟨base, stored, state, participants, haccepts⟩

/-- A call on a stored session that commits nothing leaves the row to the lazy expiry. -/
theorem session?_of_ended {row : SessionRow} {db' : Db} {exit : Exit}
    (hsid : rawSessionId raw = .text sid) (hrow : db.session? sid = some row)
    (h : ingestCommit ctx db raw = (db', .error exit)) :
    db'.session? sid = some (lookedUp ctx.now row) := by
  cases hver : verified? ctx db raw with
  | none =>
      obtain ⟨_, heq⟩ := ingestCommit_of_unverified hver
      rw [h] at heq
      cases heq
      have hopen : (openSession ctx db raw).1 = lazyExpire ctx db row := by
        cases hhash : (rawActorUsername raw).hashable with
        | false => simp [openSession, sessionKey, hsid, sqlText, hrow, hhash]
        | true => simp [openSession, sessionKey, hsid, sqlText, hrow, hhash]
      rw [hopen]
      exact session?_lazyExpire ctx hrow
  | some envelope =>
      have hread := readFrom_of_verified hver
      obtain rfl : envelope.sessionId = sid :=
        PyStr.text.inj (Json.str.inj (hread.sessionId.symm.trans hsid))
      have hexpired := session?_afterExpiry ctx hrow
      have hsome : (db.session? envelope.sessionId).isSome =
          ((afterExpiry ctx db envelope.sessionId).session? envelope.sessionId).isSome := by
        rw [hrow, hexpired]
        rfl
      have houtcome := ingestVerified_outcome ctx (afterExpiry ctx db envelope.sessionId) hread hsome
        (fun hnone => by rw [hexpired] at hnone; cases hnone)
      rw [← ingestCommit_of_verified hver, h] at houtcome
      cases houtcome with
      | stopped hsame =>
          rw [hsame.session?]
          exact hexpired
      | orphanRaised hnone =>
          rw [hexpired] at hnone
          cases hnone
      | orphanRejected hnone =>
          rw [hexpired] at hnone
          cases hnone

/-- What is rejected leaves the row to the lazy expiry. -/
theorem session?_of_rejected {row : SessionRow} (hsid : rawSessionId raw = .text sid)
    (hrow : db.session? sid = some row) {ack : TransportAcknowledgement}
    (hexit : (ingestEnvelope ctx db raw).exit = .ok ack) (hstatus : ack.status = .rejected) :
    (ingestEnvelope ctx db raw).db.session? sid = some (lookedUp ctx.now row) := by
  rcases hcommit : ingestCommit ctx db raw with ⟨db', exit | committed⟩
  · have hdb : (ingestEnvelope ctx db raw).db = db' := by simp only [ingestEnvelope, hcommit]
    rw [hdb]
    exact session?_of_ended hsid hrow hcommit
  · rw [not_rejected_of_committed hcommit hexit] at hstatus
    cases hstatus

/-- A change of participants that is not turned down is answered with `delivered`. -/
theorem delivered_of_change (h : NextEnvelope db raw sid actor)
    (hkind : rawKind raw = .text MessageKind.participantChanged.value)
    (hdown : turnedDown ctx db raw = false) :
    ∃ ack, (ingestEnvelope ctx db raw).exit = .ok ack ∧ ack.status = .delivered := by
  obtain ⟨row, hrow, -⟩ := h.session
  cases hver : verified? ctx db raw with
  | none =>
      rw [turnedDown, hver] at hdown
      cases hdown
  | some envelope =>
  have hread := readFrom_of_verified hver
  obtain rfl : envelope.sessionId = sid :=
    PyStr.text.inj (Json.str.inj (hread.sessionId.symm.trans h.sessionId))
  obtain rfl : envelope.actorUsername = actor :=
    PyStr.text.inj (Json.str.inj (hread.actorUsername.symm.trans h.author))
  have hsequence : envelope.sequence = nextSequence db envelope.sessionId envelope.actorUsername :=
    Int.ofNat.inj (Json.int.inj (hread.sequence.symm.trans h.sequence))
  have hchange : envelope.kind = .participantChanged := MessageKind.value_inj.mp
    (PyStr.text.inj (Json.str.inj (hread.kind.symm.trans hkind)))
  simp only [turnedDown, hver, hrow, Option.any_some, Bool.or_eq_false_iff] at hdown
  obtain ⟨htimely, hpasses⟩ := hdown
  rw [Bool.not_eq_false', passes, Bool.and_eq_true, Bool.and_eq_true] at hpasses
  have hstate : envelope.sessionId = (advanceToReview
      (stateOf ctx.ext row (db.eventsOf envelope.sessionId)) envelope.kind).sessionId := by
    rw [advanceToReview_eq]
    exact (sessionId_of_session? hrow).symm
  obtain ⟨participants, hadmitted⟩ : ∃ participants, Admitted (advanceToReview
      (stateOf ctx.ext row (db.eventsOf envelope.sessionId)) envelope.kind) envelope
      participants := by
    rcases processPeerEnvelope_cases hstate with ⟨hadmitted, -⟩ | ⟨-, horder | ⟨hperm, -⟩ | ⟨-, hturn⟩⟩ |
      ⟨-, -, ⟨hperm, -⟩ | ⟨-, -, hagent⟩⟩
    · exact hadmitted
    · rw [hpasses.1.1] at horder
      cases horder
    · rw [hpasses.1.2] at hperm
      cases hperm
    · rw [Option.isSome_iff_ne_none] at hturn
      exact absurd (Option.isNone_iff_eq_none.mp hpasses.2) hturn
    · rw [hpasses.1.2] at hperm
      cases hperm
    · rw [lacksAgent, hchange] at hagent
      cases hagent
  have haccepts : Accepts ctx db raw envelope db row _ participants :=
    { verified := hver
      fresh := by
        rw [hsequence]
        exact storedEvent?_nextSequence ..
      timely := by
        intro other hother
        rw [hrow] at hother
        cases hother
        exact htimely
      loaded := .stored hrow
      admitted := hadmitted }
  obtain ⟨db', hcommitted, -⟩ := ingestCommit_of_accepts haccepts
  have hexit : (ingestEnvelope ctx db raw).exit = deliveredAck ctx raw envelope := by
    have hoffer : isPeerOffer db' envelope = false := by
      rw [isPeerOffer, hchange]
      rfl
    simp only [ingestEnvelope, hcommitted, hoffer]
    rfl
  rw [hexit]
  exact deliveredAck_ok hread ctx

/-- What the owner signs under the next number is the owner's next envelope. -/
theorem nextEnvelope_signedEnvelope (sender : Sender) {db : Db} {sid : String} {row : SessionRow}
    (hrow : db.session? sid = some row) (hparticipants : (rowParticipants row).isEmpty = false)
    (agentId contentHash : String) (kind : MessageKind) (payload : Fields) :
    NextEnvelope db (signedEnvelope sender sid agentId contentHash
      (nextSequence db sid sender.username) kind payload) sid sender.username where
  sessionId := rfl
  author := rfl
  sequence := rfl
  hash := ⟨contentHash, rfl⟩
  session := ⟨row, hrow, .inl hparticipants⟩

end Kin.Node
