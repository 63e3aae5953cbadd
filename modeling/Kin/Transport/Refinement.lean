import Kin.Transport.Answers

/-!
Persistence against the reducer. A commit writes the status, one event and, for
an acceptance, the receiver's agent; the state read back afterwards is compared
with the state the reducer computed in memory. They agree on status, turns and
sequences. Participants are read back from two agent columns and always as
owners, so an acceptance is where they part.
-/

namespace Kin.Transport

open Kin.Py Kin.Lib Kin.Schemas Kin.Session Kin.Storage Kin.Audit Kin.Artifacts

/-! ### The statement -/

/-- `process_peer_envelope` with the node commands that ingestion runs before
and after it, on a state in memory. -/
def inMemory (myUsername : String) (state : SessionState) (envelope : SessionEnvelope) :
    Option SessionState :=
  match processPeerEnvelope (advanceToReview state envelope.kind) envelope with
  | .ok result =>
      if result.success then
        some (settle result.newState envelope.kind (envelope.actorUsername != myUsername))
      else none
  | .error _ => none

structure Agrees (s t : SessionState) : Prop where
  status : s.status = t.status
  currentTurn : s.currentTurn = t.currentTurn
  maxTurns : s.maxTurns = t.maxTurns
  actorSequences : s.actorSequences.Same t.actorSequences
  participants : s.participants.Same t.participants

/-- What a commit stores for a session that was there before reads back as what
the reducer computed from the state read before. -/
def RefinesReducer (ctx : IngestContext) (db : Db) (raw : Fields) : Prop :=
  ∀ db' committed before, ingestCommit ctx db raw = (db', .ok committed) →
    reconstructSessionState ctx.ext db committed.envelope.sessionId = some before →
    ∃ persisted memory,
      reconstructSessionState ctx.ext db' committed.envelope.sessionId = some persisted ∧
      inMemory db.myUsername before committed.envelope = some memory ∧ Agrees persisted memory

/-- After its commit a call reads back alike until it ends, or until it ingests
an automatic acceptance, which is a call of its own. -/
def EndsOrAccepts (ctx : IngestContext) (db : Db) (raw : Fields) : Prop :=
  ∃ db', (∀ sid, reconstructSessionState ctx.ext db' sid =
      reconstructSessionState ctx.ext (ingestCommit ctx db raw).1 sid) ∧
    ((ingestEnvelope ctx db raw).db = db' ∨
      ∃ ctx' accept, ctx'.ext = ctx.ext ∧
        (ingestEnvelope ctx db raw).db = (ingestCommit ctx' db' accept).1)

def admits (state : SessionState) (envelope : SessionEnvelope) : Bool :=
  inOrder state envelope && permitted state envelope && (checkTurn state envelope.kind).isNone &&
    !lacksAgent envelope

/-- The envelope names what the columns can hold: its actor has a name, and an
acceptance is the initiator's, with the agent both sides have registered. -/
def representable (row : SessionRow) (envelope : SessionEnvelope) : Bool :=
  decide (envelope.actorUsername ≠ "") &&
    (decide (envelope.kind ≠ .acceptance) ||
      decide (envelope.actorUsername = row.initiatorUsername ∧
        envelope.actorUsername ≠ row.receiverUsername ∧
        asText (acceptingAgentId envelope) =
          some (textOr row.senderAgentId row.initiatorUsername) ∧
        (row.receiverUsername = "" ∨ asText (acceptingAgentId envelope) =
          some (textOr row.receiverAgentId row.receiverUsername))))

/-- The call commits an envelope the columns cannot represent. -/
def losesState (ctx : IngestContext) (db : Db) (raw : Fields) : Bool :=
  match verified? ctx db raw with
  | none => false
  | some envelope =>
      match db.session? envelope.sessionId with
      | none => false
      | some row =>
          (storedEvent? db envelope.sessionId envelope.actorUsername envelope.sequence).isNone &&
            !expiresNow row ctx.now &&
            admits (advanceToReview (stateOf ctx.ext row (db.eventsOf envelope.sessionId))
              envelope.kind) envelope &&
            !representable row envelope

/-! ### Participants -/

theorem get?_rowParticipants (row : SessionRow) {username : String} (hne : username ≠ "") :
    (rowParticipants row).get? username =
      if username = row.receiverUsername then
        some ⟨textOr row.receiverAgentId row.receiverUsername, .owner⟩
      else if username = row.initiatorUsername then
        some ⟨textOr row.senderAgentId row.initiatorUsername, .owner⟩
      else none := by
  have hinitiator : (if row.initiatorUsername = "" then Dict.empty
      else Dict.empty.set row.initiatorUsername
        (ParticipantInfo.mk (textOr row.senderAgentId row.initiatorUsername) .owner)).get? username =
      if username = row.initiatorUsername then
        some ⟨textOr row.senderAgentId row.initiatorUsername, .owner⟩
      else none := by
    split
    · rename_i h
      rw [h, if_neg hne, Dict.get?_empty]
    · rw [Dict.get?_set, Dict.get?_empty]
  unfold rowParticipants
  simp only
  split
  · rename_i h
    rw [h, if_neg hne, hinitiator]
  · rw [Dict.get?_set, hinitiator]

theorem get?_rowParticipants_empty (row : SessionRow) : (rowParticipants row).get? "" = none := by
  unfold rowParticipants
  simp only
  split
  · split
    · rfl
    · rename_i h
      rw [Dict.get?_set_of_ne _ _ (Ne.symm h), Dict.get?_empty]
  · rename_i h
    rw [Dict.get?_set_of_ne _ _ (Ne.symm h)]
    split
    · rfl
    · rename_i h
      rw [Dict.get?_set_of_ne _ _ (Ne.symm h), Dict.get?_empty]

theorem textOr_ne_empty (column : Option String) {default : String} (h : default ≠ "") :
    textOr column default ≠ "" := by
  unfold textOr
  split
  · split
    · exact h
    · assumption
  · exact h

theorem textOr_some {s default : String} (h : s ≠ "") : textOr (some s) default = s := if_neg h

section

variable (envelope : SessionEnvelope) (row : SessionRow)

@[simp] theorem acceptedRow_initiatorUsername :
    (acceptedRow envelope row).initiatorUsername = row.initiatorUsername := by
  unfold acceptedRow
  repeat' split
  all_goals rfl

@[simp] theorem acceptedRow_senderAgentId :
    (acceptedRow envelope row).senderAgentId = row.senderAgentId := by
  unfold acceptedRow
  repeat' split
  all_goals rfl

@[simp] theorem acceptedRow_turnLimit :
    (acceptedRow envelope row).turnLimit = row.turnLimit := by
  unfold acceptedRow
  repeat' split
  all_goals rfl

end

theorem acceptedRow_of_acceptance {envelope : SessionEnvelope} {agentId : String}
    (hkind : envelope.kind = .acceptance) (hagent : asText (acceptingAgentId envelope) = some agentId)
    (hne : agentId ≠ "") (row : SessionRow) :
    acceptedRow envelope row = { row with receiverAgentId := some agentId } := by
  simp [acceptedRow, hkind, hagent, hne]

/-- The columns represent an acceptance only when it is the initiator's and
names the agent that both sides have: the receiver's entry gets the agent, and
its own entry gets a role that is not read back. -/
theorem same_participants_of_acceptance {row : SessionRow} {envelope : SessionEnvelope}
    {agentId : String} {role : Role} (hactor : envelope.actorUsername ≠ "")
    (hkind : envelope.kind = .acceptance) (hagent : asText (acceptingAgentId envelope) = some agentId)
    (hrole : role = if envelope.actorUsername = row.receiverUsername then .receiver else .owner) :
    (rowParticipants (acceptedRow envelope row)).Same
        ((rowParticipants row).set envelope.actorUsername ⟨agentId, role⟩) ↔
      envelope.actorUsername = row.initiatorUsername ∧
        envelope.actorUsername ≠ row.receiverUsername ∧
        agentId = textOr row.senderAgentId row.initiatorUsername ∧
        (row.receiverUsername = "" ∨ agentId = textOr row.receiverAgentId row.receiverUsername) := by
  constructor
  · intro hsame
    have hself := hsame envelope.actorUsername
    rw [Dict.get?_set_self, get?_rowParticipants _ hactor, acceptedRow_receiverUsername] at hself
    split at hself
    · rename_i hreceiver
      rw [if_pos hreceiver] at hrole
      simp [hrole] at hself
    rename_i hreceiver
    split at hself
    · rename_i hinitiator
      simp only [Option.some.injEq, ParticipantInfo.mk.injEq] at hself
      have hinitiator' : envelope.actorUsername = row.initiatorUsername := by
        rw [hinitiator, acceptedRow_initiatorUsername]
      have hagentId : agentId = textOr row.senderAgentId row.initiatorUsername := by
        rw [← hself.1, acceptedRow_senderAgentId, acceptedRow_initiatorUsername]
      have hne : agentId ≠ "" := by
        rw [hagentId]
        exact textOr_ne_empty _ (hinitiator' ▸ hactor)
      refine ⟨hinitiator', hreceiver, hagentId, ?_⟩
      by_cases hempty : row.receiverUsername = ""
      · exact .inl hempty
      · right
        have hother := hsame row.receiverUsername
        rw [Dict.get?_set_of_ne _ _ (Ne.symm hreceiver), get?_rowParticipants _ hempty,
          get?_rowParticipants _ hempty, acceptedRow_of_acceptance hkind hagent hne, if_pos rfl,
          if_pos rfl] at hother
        simpa [textOr_some hne] using hother
    · cases hself
  · rintro ⟨hinitiator, hreceiver, hagentId, hother⟩ username
    have hne : agentId ≠ "" := by
      rw [hagentId]
      exact textOr_ne_empty _ (hinitiator ▸ hactor)
    rw [if_neg hreceiver] at hrole
    rw [acceptedRow_of_acceptance hkind hagent hne, Dict.get?_set]
    by_cases hempty : username = ""
    · rw [hempty, get?_rowParticipants_empty, if_neg (Ne.symm hactor), get?_rowParticipants_empty]
    rw [get?_rowParticipants _ hempty, get?_rowParticipants _ hempty]
    by_cases hactor' : username = envelope.actorUsername
    · rw [if_pos hactor', hactor', if_neg hreceiver, if_pos hinitiator, hrole, hagentId]
    · rw [if_neg hactor']
      by_cases hreceiver' : username = row.receiverUsername
      · rcases hother with hnone | hsome
        · rw [hreceiver'] at hempty
          exact absurd hnone hempty
        · rw [if_pos hreceiver', if_pos hreceiver', textOr_some hne, hsome]
      · simp [hreceiver']

/-! ### Sequences -/

/-- The actor's maximum after the next number is that number, and the empty
username has none. -/
theorem same_sequences_iff (events : List SessionEventRow) (event : SessionEventRow) {n : Nat}
    (hevent : event.sequence = some n)
    (hnext : n = ((eventSequences events).get? event.actorUsername).getD 0 + 1) :
    (eventSequences (events ++ [event])).Same ((eventSequences events).set event.actorUsername n) ↔
      event.actorUsername ≠ "" := by
  constructor
  · intro hsame hempty
    have hself := hsame event.actorUsername
    rw [Dict.get?_set_self, hempty, get?_eventSequences_empty] at hself
    cases hself
  · intro hne username
    have hmax : max (n : Int) (((eventSequences events).get? event.actorUsername).getD n) = n := by
      cases hlast : (eventSequences events).get? event.actorUsername with
      | none => simp
      | some last =>
          rw [hlast] at hnext
          simp only [Option.getD_some] at hnext ⊢
          omega
    rw [eventSequences_concat, recordSequence, hevent]
    simp only [if_neg hne, hmax]

/-- An unsequenced event leaves the maxima alone. -/
theorem eventSequences_concat_none (events : List SessionEventRow) {event : SessionEventRow}
    (h : event.sequence = none) : eventSequences (events ++ [event]) = eventSequences events := by
  rw [eventSequences_concat, recordSequence, h]

/-! ### One commit -/

section Commit

variable {ctx : IngestContext} {db : Db} {raw : Fields} {envelope : SessionEnvelope}
  {row : SessionRow} {participants : Dict String ParticipantInfo}

theorem inMemory_of_admitted {state : SessionState}
    (h : Admitted (advanceToReview state envelope.kind) envelope participants) :
    inMemory db.myUsername state envelope = some (finalState db state envelope participants) := by
  rw [inMemory, processPeerEnvelope_of_admitted h]
  rfl

section FinalState

variable (db : Db) (state : SessionState) (envelope : SessionEnvelope)
  (participants : Dict String ParticipantInfo)

theorem finalState_currentTurn :
    (finalState db state envelope participants).currentTurn =
      if turnConsuming envelope.kind then state.currentTurn + 1 else state.currentTurn := by
  rw [finalState, settled, settle_eq, advanceToReview_eq]
  rfl

theorem finalState_maxTurns :
    (finalState db state envelope participants).maxTurns = state.maxTurns := by
  rw [finalState, settled, settle_eq, advanceToReview_eq]
  rfl

theorem finalState_actorSequences :
    (finalState db state envelope participants).actorSequences =
      state.actorSequences.set envelope.actorUsername envelope.sequence := by
  rw [finalState, settled, settle_eq, advanceToReview_eq]
  rfl

theorem finalState_participants :
    (finalState db state envelope participants).participants = participants := by
  rw [finalState, settled, settle_eq]
  rfl

end FinalState

/-- The participants the reducer computes are read back exactly when the columns
represent them. -/
theorem same_participants_iff {events : List SessionEventRow}
    (hafter : participantsAfter (advanceToReview (stateOf ctx.ext row events) envelope.kind) envelope =
      .ok participants) (hactor : envelope.actorUsername ≠ "") :
    (rowParticipants (acceptedRow envelope row)).Same participants ↔
      (decide (envelope.kind ≠ .acceptance) ||
        decide (envelope.actorUsername = row.initiatorUsername ∧
          envelope.actorUsername ≠ row.receiverUsername ∧
          asText (acceptingAgentId envelope) =
            some (textOr row.senderAgentId row.initiatorUsername) ∧
          (row.receiverUsername = "" ∨ asText (acceptingAgentId envelope) =
            some (textOr row.receiverAgentId row.receiverUsername)))) = true := by
  rw [advanceToReview_eq] at hafter
  unfold participantsAfter at hafter
  split at hafter
  · rename_i hkind
    split at hafter
    · cases hafter
    rename_i agentId hagent
    simp only [Except.ok.injEq] at hafter
    rw [← hafter, hagent]
    simp only [hkind, ne_eq, not_true_eq_false, decide_false, Bool.false_or, decide_eq_true_eq,
      Option.some.injEq]
    exact same_participants_of_acceptance hactor hkind hagent rfl
  · rename_i hkind
    simp only [Except.ok.injEq] at hafter
    rw [← hafter, acceptedRow_of_ne hkind]
    simp only [hkind, ne_eq, not_false_eq_true, decide_true, Bool.true_or, iff_true]
    exact fun _ => rfl

/-- The events of a session after a commit, as far as reconstruction counts
them. -/
theorem counted_of_commits {db' : Db} {status : Status} {now : Instant}
    (h : Commits db envelope status now db') :
    (db'.eventsOf envelope.sessionId).countP countsAsTurn =
      (db.eventsOf envelope.sessionId).countP countsAsTurn +
        (if turnConsuming envelope.kind then 1 else 0) ∧
    eventSequences (db'.eventsOf envelope.sessionId) =
      eventSequences (db.eventsOf envelope.sessionId ++
        [eventRow db (envelopeEvent envelope now)]) := by
  have hone : ([eventRow db (envelopeEvent envelope now)] : List SessionEventRow).countP
      countsAsTurn = if turnConsuming envelope.kind then 1 else 0 := by
    rw [List.countP_singleton]
    rfl
  rcases h.eventsOf_self with heq | ⟨-, ev, hseq, -, hkind, heq⟩
  · rw [heq, List.countP_append, hone]
    exact ⟨rfl, rfl⟩
  · have hzero : ([eventRow (committed db envelope status now) ev] : List SessionEventRow).countP
        countsAsTurn = 0 := by
      rw [List.countP_singleton]
      simp [countsAsTurn, eventRow, hkind]
    rw [heq, List.countP_append, List.countP_append, hone, hzero, Nat.add_zero]
    exact ⟨rfl, eventSequences_concat_none _ hseq⟩

/-- After an accepted envelope the state read back agrees with the state in
memory exactly when the columns represent the envelope. -/
theorem agrees_iff_representable
    (haccepts : Accepts ctx db raw envelope db row
      (stateOf ctx.ext row (db.eventsOf envelope.sessionId)) participants)
    {db' : Db} (hcommits : Commits db envelope (finalState db
      (stateOf ctx.ext row (db.eventsOf envelope.sessionId)) envelope participants).status
      ctx.now db') {persisted : SessionState}
    (hpersisted : reconstructSessionState ctx.ext db' envelope.sessionId = some persisted) :
    Agrees persisted (finalState db (stateOf ctx.ext row (db.eventsOf envelope.sessionId)) envelope
      participants) ↔ representable row envelope = true := by
  obtain ⟨hturns, hsequences⟩ := counted_of_commits hcommits
  rw [reconstructSessionState, hcommits.session?_self haccepts.loaded.base_session?,
    Option.map_some, Option.some.injEq] at hpersisted
  subst hpersisted
  have hnext : envelope.sequence = ((eventSequences (db.eventsOf envelope.sessionId)).get?
      envelope.actorUsername).getD 0 + 1 := by
    have h := checkSequence_eq_none.mp haccepts.admitted.sequence
    rw [advanceToReview_eq] at h
    exact h
  have hseq := same_sequences_iff (db.eventsOf envelope.sessionId)
    (eventRow db (envelopeEvent envelope ctx.now)) rfl hnext
  rw [← hsequences] at hseq
  have hpart := same_participants_iff haccepts.admitted.after
  simp only [representable, Bool.and_eq_true, decide_eq_true_eq]
  constructor
  · intro h
    have hs := h.actorSequences
    have hp := h.participants
    rw [finalState_actorSequences] at hs
    rw [finalState_participants] at hp
    exact ⟨hseq.mp hs, (hpart (hseq.mp hs)).mp hp⟩
  · rintro ⟨hactor, hrest⟩
    exact
      { status := rfl
        currentTurn := by
          rw [finalState_currentTurn]
          change ((db'.eventsOf envelope.sessionId).countP countsAsTurn : Int) = _
          rw [hturns]
          split <;> rfl
        maxTurns := by
          rw [finalState_maxTurns]
          simp [stateOf, setStatus]
        actorSequences := by
          rw [finalState_actorSequences]
          exact hseq.mpr hactor
        participants := by
          rw [finalState_participants]
          exact (hpart hactor).mpr hrest }

/-- The reducer's checks, as one condition. -/
theorem admits_iff {state : SessionState} (hsid : envelope.sessionId = state.sessionId) :
    admits state envelope = true ↔ ∃ participants, Admitted state envelope participants := by
  simp only [admits, Bool.and_eq_true, Bool.not_eq_true', Option.isNone_iff_eq_none]
  constructor
  · rintro ⟨⟨⟨horder, hperm⟩, hturn⟩, hagent⟩
    rcases processPeerEnvelope_cases hsid with ⟨h, -⟩ |
      ⟨-, h | ⟨h, -⟩ | ⟨-, h⟩⟩ | ⟨-, -, ⟨h, -⟩ | ⟨-, -, h⟩⟩
    · exact h
    · rw [horder] at h
      cases h
    · rw [hperm] at h
      cases h
    · rw [hturn] at h
      cases h
    · rw [hperm] at h
      cases h
    · rw [hagent] at h
      cases h
  · rintro ⟨participants, hadmitted⟩
    have hred := processPeerEnvelope_of_admitted hadmitted
    rcases processPeerEnvelope_cases hsid with ⟨-, horder, hperm, hturn, hagent⟩ |
      ⟨⟨r, hr⟩, -⟩ | ⟨⟨e, he⟩, -⟩
    · exact ⟨⟨⟨horder, hperm⟩, hturn⟩, hagent⟩
    · rw [hr] at hred
      cases hred
    · rw [he] at hred
      cases hred

/-- A call loses state exactly when it accepts what the columns do not
represent. -/
theorem losesState_eq_true {ctx : IngestContext} {db : Db} {raw : Fields} :
    losesState ctx db raw = true ↔ ∃ envelope row participants,
      Accepts ctx db raw envelope db row (stateOf ctx.ext row (db.eventsOf envelope.sessionId))
        participants ∧ representable row envelope = false := by
  unfold losesState
  cases hver : verified? ctx db raw with
  | none =>
      simp only [Bool.false_eq_true, false_iff]
      rintro ⟨envelope, row, participants, haccepts, -⟩
      rw [haccepts.verified] at hver
      cases hver
  | some envelope =>
  have hstored : ∀ {e : SessionEnvelope} {r : SessionRow} {state : SessionState}
      {participants : Dict String ParticipantInfo}, Accepts ctx db raw e db r state participants →
      e = envelope ∧ db.session? envelope.sessionId = some r := by
    intro e r state participants haccepts
    have hv := haccepts.verified
    rw [hver] at hv
    cases hv
    exact ⟨rfl, haccepts.loaded.base_session?⟩
  cases hrow : db.session? envelope.sessionId with
  | none =>
      simp only [hrow, Bool.false_eq_true, false_iff]
      rintro ⟨e, row, participants, haccepts, -⟩
      rw [(hstored haccepts).2] at hrow
      cases hrow
  | some row =>
  have hsid : envelope.sessionId = (advanceToReview
      (stateOf ctx.ext row (db.eventsOf envelope.sessionId)) envelope.kind).sessionId := by
    rw [advanceToReview_eq]
    exact (sessionId_of_session? hrow).symm
  simp only [hrow, Bool.and_eq_true, Bool.not_eq_true', Option.isNone_iff_eq_none, admits_iff hsid]
  constructor
  · rintro ⟨⟨⟨hfresh, htimely⟩, participants, hadmitted⟩, hrep⟩
    refine ⟨envelope, row, participants, ⟨hver, hfresh, ?_, .stored hrow, hadmitted⟩, hrep⟩
    intro r hr
    rw [hrow] at hr
    cases hr
    exact htimely
  · rintro ⟨e, r, participants, haccepts, hrep⟩
    obtain ⟨rfl, hr⟩ := hstored haccepts
    rw [hrow] at hr
    cases hr
    exact ⟨⟨⟨haccepts.fresh, haccepts.timely row hrow⟩, participants, haccepts.admitted⟩, hrep⟩

/-- An accepted envelope the columns do not represent is read back differently. -/
theorem not_refinesReducer_of_losesState {ctx : IngestContext} {db : Db} {raw : Fields}
    (h : losesState ctx db raw = true) : ¬RefinesReducer ctx db raw := by
  intro hrefines
  obtain ⟨envelope, row, participants, haccepts, hrep⟩ := losesState_eq_true.mp h
  obtain ⟨db', heq, hcommits⟩ := ingestCommit_of_accepts haccepts
  have hbefore : reconstructSessionState ctx.ext db envelope.sessionId =
      some (stateOf ctx.ext row (db.eventsOf envelope.sessionId)) := by
    rw [reconstructSessionState, haccepts.loaded.base_session?, Option.map_some]
  obtain ⟨persisted, memory, hpersisted, hmemory, hagrees⟩ := hrefines db' _ _ heq hbefore
  rw [inMemory_of_admitted haccepts.admitted] at hmemory
  cases hmemory
  rw [(agrees_iff_representable haccepts hcommits hpersisted).mp hagrees] at hrep
  cases hrep

theorem refinesReducer_of_not_losesState {ctx : IngestContext} {db : Db} {raw : Fields}
    (hloses : losesState ctx db raw = false) : RefinesReducer ctx db raw := by
  intro db' committed before hcommit hbefore
  rcases ingestCommit_cases ctx db raw with ⟨_, _, heq, -⟩ | ⟨_, _, _, -, -, heq, -⟩ |
    ⟨envelope, base, stored, state, participants, _, haccepts, heq, hcommits⟩
  · rw [hcommit] at heq
    cases heq
  · rw [hcommit] at heq
    cases heq
  rw [hcommit] at heq
  cases heq
  rw [reconstructSessionState] at hbefore
  obtain ⟨row, hrow, rfl⟩ := Option.map_eq_some_iff.mp hbefore
  cases haccepts.loaded with
  | created hnone _ _ _ =>
      rw [hnone] at hrow
      cases hrow
  | stored hrow' =>
  rw [hrow] at hrow'
  cases hrow'
  obtain ⟨persisted, hpersisted⟩ : ∃ persisted,
      reconstructSessionState ctx.ext db' envelope.sessionId = some persisted := by
    rw [reconstructSessionState, hcommits.session?_self hrow]
    exact ⟨_, rfl⟩
  refine ⟨persisted, _, hpersisted, inMemory_of_admitted haccepts.admitted, ?_⟩
  refine (agrees_iff_representable haccepts hcommits hpersisted).mpr ?_
  by_contra hrep
  have hlost := losesState_eq_true.mpr
    ⟨envelope, _, participants, haccepts, Bool.eq_false_iff.mpr hrep⟩
  rw [hloses] at hlost
  cases hlost

/-- Storing an artifact is not read back. -/
theorem reconstruct_of_stores (ext : Externals) {db db' : Db} {sid : String}
    (h : Stores db sid db') (sid' : String) :
    reconstructSessionState ext db' sid' = reconstructSessionState ext db sid' := by
  obtain ⟨n, hn⟩ := h.session? sid'
  have hevents : db'.eventsOf sid' = db.eventsOf sid' := by
    rw [Db.eventsOf, h.sessionEvents, Db.eventsOf]
  rw [reconstructSessionState, hn, hevents, Option.map_map, reconstructSessionState]
  rfl

theorem endsOrAccepts (ctx : IngestContext) (db : Db) (raw : Fields) :
    EndsOrAccepts ctx db raw := by
  rcases heq : ingestCommit ctx db raw with ⟨db1, exit | committed⟩
  · exact ⟨db1, fun _ => by rw [heq], .inl (by simp only [ingestEnvelope, heq])⟩
  cases hoffer : isPeerOffer db1 committed.envelope with
  | false =>
      exact ⟨db1, fun _ => by rw [heq], .inl (by simp [ingestEnvelope, heq, hoffer])⟩
  | true =>
      have hres : ingestEnvelope ctx db raw = handleOffer ctx db1 raw committed := by
        simp [ingestEnvelope, heq, hoffer]
      obtain ⟨db2, hstores, hend | ⟨ctx', accept, hown, -, hend, -⟩⟩ :=
        handleOffer_cases ctx db1 raw committed
      · refine ⟨db2, fun sid => ?_, .inl (by rw [hres, hend])⟩
        rw [heq, reconstruct_of_stores ctx.ext hstores]
      · refine ⟨db2, fun sid => ?_, .inr ⟨ctx', accept, hown.1, by rw [hres, hend]⟩⟩
        rw [heq, reconstruct_of_stores ctx.ext hstores]

/-- Persistence refines the reducer exactly when no accepted envelope is beyond
what the columns represent. -/
theorem refinesReducer_iff (ctx : IngestContext) (db : Db) (raw : Fields) :
    (RefinesReducer ctx db raw ↔ losesState ctx db raw = false) ∧ EndsOrAccepts ctx db raw := by
  refine ⟨⟨fun hrefines => ?_, refinesReducer_of_not_losesState⟩, endsOrAccepts ctx db raw⟩
  by_contra hloses
  exact not_refinesReducer_of_losesState (by simpa using hloses) hrefines

/-- `bob`'s acceptance makes him a `receiver` in memory and an `owner` when read
back. -/
theorem acceptance_role_lost :
    ¬RefinesReducer Sample.context
      (ingestEnvelope Sample.context Sample.bobDb
        (Sample.envelope "s1" "alice" "scout" 1 .taskRequest Sample.request)).db
      (Sample.envelope "s1" "bob" "bot" 1 .acceptance
        [(.text "accepting_agent_id", .text "bot")]) :=
  not_refinesReducer_of_losesState (by decide +kernel)

end Commit

end Kin.Transport
