import Kin.Node.Custody
import Kin.Pair.Ledger
import Kin.Transport.AgentCheck

/-!
A node's session as the two-node argument sees it: the status and the ledger that
row and event log stand for. Ingestion of a genuine envelope accepts exactly what
status and ledger admit, and the view it leaves is the one they predict.
-/

namespace Kin.Pair

open Kin.Py Kin.Lib Kin.Schemas Kin.Session Kin.Storage Kin.Audit Kin.Node Kin.Transport

/-- Two owners with their keys, and the session they share. -/
structure Parties where
  ext : Externals
  sessionId : String
  name : Side → String
  key : Side → PrivateKey
  distinct : name .initiator ≠ name .receiver
  named : ∀ side, name side ≠ ""

def Parties.publicKey (p : Parties) (side : Side) : PublicKey := p.ext.publicKeyOf (p.key side)

def letterOf (author : Side) (envelope : SessionEnvelope) : Letter where
  author := author
  kind := envelope.kind
  agentId := envelope.actorAgentId
  sequence := envelope.sequence
  accepting := asText (acceptingAgentId envelope)

def ledgerOf (p : Parties) (row : SessionRow) (events : List SessionEventRow) : Ledger where
  senderAgent := row.senderAgentId
  receiverAgent := row.receiverAgentId
  turns := events.countP countsAsTurn
  maxTurns := if row.turnLimit = 0 then 12 else row.turnLimit
  last side :=
    (numbersOf SessionEventRow.actorUsername SessionEventRow.sequence events (p.name side)).length

structure IsOf (p : Parties) (row : SessionRow) : Prop where
  sessionId : row.sessionId = p.sessionId
  initiator : row.initiatorUsername = p.name .initiator
  receiver : row.receiverUsername = p.name .receiver

structure Holds (p : Parties) (me : Side) (db : Db) (status : Status) (ledger : Ledger) : Prop where
  identity : db.myUsername = p.name me
  log : LogInvariant db
  row : ∃ row, db.session? p.sessionId = some row ∧ IsOf p row ∧ row.status = status ∧
    ledgerOf p row (db.eventsOf p.sessionId) = ledger

variable {p : Parties} {author me : Side}

theorem Parties.name_inj {a b : Side} (h : p.name a = p.name b) : a = b := by
  cases a <;> cases b
  · rfl
  · exact absurd h p.distinct
  · exact absurd h.symm p.distinct
  · rfl

/-! ### The reducer on a view -/

section Reducer

variable {row : SessionRow} {events : List SessionEventRow} {envelope : SessionEnvelope}

theorem get?_participants (hrow : IsOf p row) (events : List SessionEventRow) (author : Side) :
    (rowParticipants row).get? (p.name author) =
      some ⟨(ledgerOf p row events).agentOf p.name author, .owner⟩ := by
  rw [get?_rowParticipants row (p.named author), hrow.initiator, hrow.receiver]
  cases author with
  | initiator => rw [if_neg p.distinct, if_pos rfl]; rfl
  | receiver => rw [if_pos rfl]; rfl

/-- The receiver's acceptance while the session is not accepted yet. -/
def FirstAcceptance (author : Side) (status : Status) (kind : MessageKind) : Prop :=
  kind = .acceptance ∧ author = .receiver ∧ preAcceptance (reviewStatus status kind) = true

theorem firstAcceptance_of_statusAfter {isPeer : Bool} {status s : Status}
    (h : statusAfter author isPeer .acceptance status = some s) :
    FirstAcceptance author status .acceptance := by
  unfold statusAfter at h
  simp only [if_true] at h
  split at h
  · cases h
  · split at h
    · rename_i hfirst
      exact ⟨rfl, hfirst⟩
    · cases h

/-- What the reducer asks of the next envelope of an actor: a status its kind may leave, the
agent registered for the actor, and a turn if it takes one. -/
structure Allows (names : Side → String) (status : Status) (ledger : Ledger) (letter : Letter) :
    Prop where
  live : isTerminalState status = false
  edge : FirstAcceptance letter.author status letter.kind ∨
    (peerKindTransition letter.kind).getD (reviewStatus status letter.kind) =
      reviewStatus status letter.kind ∨
    isValidTransition (reviewStatus status letter.kind)
      ((peerKindTransition letter.kind).getD (reviewStatus status letter.kind)) = true
  agent : FirstAcceptance letter.author status letter.kind ∨
    letter.agentId = ledger.agentOf names letter.author
  turn : turnConsuming letter.kind = true → ledger.turns < ledger.maxTurns

/-- An envelope that is allowed, and is the next one of its actor. -/
structure Passes (names : Side → String) (status : Status) (ledger : Ledger) (letter : Letter) :
    Prop extends Allows names status ledger letter where
  sequence : letter.sequence = ledger.last letter.author + 1
  accepting : letter.kind = .acceptance → letter.accepting.isSome = true

section Table

variable {names : Side → String} {status s : Status} {ledger : Ledger} {letter : Letter}
  {isPeer : Bool}

/-- What the table of one status lets through passes. -/
theorem passes_of_statusAfter
    (hstatus : statusAfter letter.author isPeer letter.kind status = some s)
    (h : ledger.Admits names letter) : Passes names status ledger letter where
  live := not_terminal_of_statusAfter hstatus
  edge := by
    unfold statusAfter at hstatus
    simp only at hstatus
    split at hstatus
    · cases hstatus
    split at hstatus
    · rename_i hkind
      split at hstatus
      · rename_i hfirst
        exact .inl ⟨hkind, hfirst.1, hfirst.2⟩
      · cases hstatus
    · split at hstatus
      · rename_i hedge
        exact .inr hedge
      · cases hstatus
  agent := by
    rcases h.agent with hkind | hagent
    · left
      rw [hkind] at hstatus ⊢
      exact firstAcceptance_of_statusAfter hstatus
    · exact .inr hagent
  turn := h.turn
  sequence := h.sequence
  accepting := h.accepting

/-- What passes, other than a late acceptance, the table of one status lets through. -/
theorem Passes.statusAfter (h : Passes names status ledger letter)
    (hfirst : letter.kind = .acceptance → FirstAcceptance letter.author status letter.kind) :
    ledger.Admits names letter ∧
      statusAfter letter.author isPeer letter.kind status =
        some (movedStatus isPeer letter.kind status) := by
  refine ⟨⟨h.sequence, h.agent.imp_left (·.1), h.turn, h.accepting⟩, ?_⟩
  unfold Pair.statusAfter
  simp only [h.live, Bool.false_eq_true, if_false]
  by_cases hkind : letter.kind = .acceptance
  · rw [if_pos hkind, if_pos (hfirst hkind).2]
    rfl
  · rw [if_neg hkind, if_pos (h.edge.resolve_left fun hacceptance => hkind hacceptance.1)]
    rfl

end Table

theorem isTerminalState_reviewStatus {status : Status} (h : isTerminalState status = false)
    (kind : MessageKind) : isTerminalState (reviewStatus status kind) = false := by
  unfold reviewStatus
  split
  · rfl
  · exact h

section Checks

variable (ext : Externals) (events) (hrow : IsOf p row)
  (hactor : envelope.actorUsername = p.name author)
include hrow hactor

theorem isUnacceptedReceiverAccept_iff :
    isUnacceptedReceiverAccept (advanceToReview (stateOf ext row events) envelope.kind) envelope =
      some true ↔ FirstAcceptance author row.status envelope.kind := by
  have hsome : (rowParticipants row).isEmpty = false :=
    Dict.isEmpty_of_get? (get?_participants hrow events author)
  rw [isUnacceptedReceiverAccept_eq_some_true, advanceToReview_eq]
  simp only [stateOf, hsome, true_and, FirstAcceptance, hactor, hrow.receiver]
  constructor
  · rintro ⟨hkind, hauthor, hpre⟩
    exact ⟨hkind, p.name_inj hauthor, hpre⟩
  · rintro ⟨hkind, rfl, hpre⟩
    exact ⟨hkind, rfl, hpre⟩

theorem authorizeActor_iff :
    authorizeActor (advanceToReview (stateOf ext row events) envelope.kind) envelope = none ↔
      envelope.actorAgentId = (ledgerOf p row events).agentOf p.name author ∨
        FirstAcceptance author row.status envelope.kind := by
  have hget := get?_participants hrow events author
  have hsome : (rowParticipants row).isEmpty = false := Dict.isEmpty_of_get? hget
  rw [← isUnacceptedReceiverAccept_iff events ext hrow hactor]
  unfold authorizeActor
  rw [show (advanceToReview (stateOf ext row events) envelope.kind).participants =
    rowParticipants row by rw [advanceToReview_eq]; rfl]
  rw [hactor, hget]
  simp only [hsome, Bool.false_eq_true, if_false]
  split
  · rename_i h
    simp [h]
  · rename_i h
    rw [not_and_or, not_not, not_not] at h
    simp [h]

theorem checkTransition_iff :
    checkTransition (advanceToReview (stateOf ext row events) envelope.kind) envelope = .ok none ↔
      (peerKindTransition envelope.kind).getD (reviewStatus row.status envelope.kind) =
          reviewStatus row.status envelope.kind ∨
        isValidTransition (reviewStatus row.status envelope.kind)
          ((peerKindTransition envelope.kind).getD (reviewStatus row.status envelope.kind)) = true ∨
        FirstAcceptance author row.status envelope.kind := by
  rw [checkTransition_eq_none, isUnacceptedReceiverAccept_iff events ext hrow hactor,
    advanceToReview_eq]
  rfl

omit hrow in
theorem checkSequence_iff (hlog : LogSequenced events) :
    checkSequence (advanceToReview (stateOf ext row events) envelope.kind) envelope = none ↔
      envelope.sequence = (ledgerOf p row events).last author + 1 := by
  rw [checkSequence_eq_none, lastSequence_advanceToReview, hactor,
    lastSequence_stateOf hlog (p.named author)]
  exact Int.ofNat_inj

omit hrow hactor in
/-- The reducer and the ledger see the same room for another turn. -/
theorem room_iff :
    (stateOf ext row events).currentTurn < (stateOf ext row events).maxTurns ↔
      (ledgerOf p row events).turns < (ledgerOf p row events).maxTurns := by
  unfold stateOf ledgerOf
  split
  · exact Int.ofNat_lt
  · exact Int.ofNat_lt

theorem admitted_of_passes (hsid : envelope.sessionId = p.sessionId) (hlog : LogSequenced events)
    (h : Passes p.name row.status (ledgerOf p row events) (letterOf author envelope)) :
    ∃ participants,
      Admitted (advanceToReview (stateOf ext row events) envelope.kind) envelope participants := by
  have hafter : ∃ participants, participantsAfter
      (advanceToReview (stateOf ext row events) envelope.kind) envelope = .ok participants := by
    unfold participantsAfter
    split
    · rename_i hkind
      obtain ⟨agent, hagent⟩ := Option.isSome_iff_exists.mp (h.accepting hkind)
      have hagent' : asText (acceptingAgentId envelope) = some agent := hagent
      rw [hagent']
      exact ⟨_, rfl⟩
    · exact ⟨_, rfl⟩
  obtain ⟨participants, hafter⟩ := hafter
  refine ⟨participants, ?_, ?_, ?_, ?_, ?_, ?_, hafter⟩
  · rw [advanceToReview_eq]
    exact isTerminalState_reviewStatus h.live _
  · rw [advanceToReview_eq, hsid]
    exact hrow.sessionId.symm
  · exact (authorizeActor_iff events ext hrow hactor).mpr h.agent.symm
  · exact (checkSequence_iff events ext hactor hlog).mpr h.sequence
  · refine (checkTransition_iff events ext hrow hactor).mpr ?_
    rcases h.edge with hfirst | hsame | hvalid
    · exact .inr (.inr hfirst)
    · exact .inl hsame
    · exact .inr (.inl hvalid)
  · rw [checkTurn_eq_none, advanceToReview_eq]
    intro hturn
    exact .inl ((room_iff (p := p) events ext).mpr (h.turn hturn))

theorem passes_of_admitted {participants : Dict String ParticipantInfo} (hlog : LogSequenced events)
    (h : Admitted (advanceToReview (stateOf ext row events) envelope.kind) envelope participants) :
    Passes p.name row.status (ledgerOf p row events) (letterOf author envelope) := by
  refine ⟨⟨?_, ?_, ?_, ?_⟩, ?_, ?_⟩
  · by_contra hterm
    have hsame : reviewStatus row.status envelope.kind = row.status := by
      unfold reviewStatus
      split
      · rename_i hreview
        rcases hreview.1 with hs | hs <;> rw [hs] at hterm <;> exact absurd rfl hterm
      · rfl
    have := h.live
    rw [advanceToReview_eq] at this
    change isTerminalState (reviewStatus row.status envelope.kind) = false at this
    rw [hsame] at this
    exact hterm this
  · rcases (checkTransition_iff events ext hrow hactor).mp h.transition with ht | ht | ht
    · exact .inr (.inl ht)
    · exact .inr (.inr ht)
    · exact .inl ht
  · exact ((authorizeActor_iff events ext hrow hactor).mp h.actor).symm
  · intro hturn
    have hcheck := checkTurn_eq_none.mp h.turn hturn
    rw [advanceToReview_eq] at hcheck
    refine (room_iff events ext).mp (hcheck.resolve_right fun hterm => ?_)
    change turnConsuming envelope.kind = true at hturn
    change isTerminalState ((peerKindTransition envelope.kind).getD
      (reviewStatus row.status envelope.kind)) = true at hterm
    cases hkind : envelope.kind <;> rw [hkind] at hturn hterm <;> simp_all [turnConsuming,
      peerKindTransition, isTerminalState]
  · exact (checkSequence_iff events ext hactor hlog).mp h.sequence
  · intro hkind
    change envelope.kind = .acceptance at hkind
    have hafter := h.after
    unfold participantsAfter at hafter
    rw [if_pos hkind] at hafter
    split at hafter
    · cases hafter
    · rename_i agent hagent
      change (asText (acceptingAgentId envelope)).isSome = true
      rw [hagent]
      rfl

end Checks

end Reducer

/-! ### Genuine bodies -/

structure Genuine (p : Parties) (author : Side) (body : Fields) (envelope : SessionEnvelope) :
    Prop where
  valid : validateEnvelope body = some envelope
  session : envelope.sessionId = p.sessionId
  actor : envelope.actorUsername = p.name author
  hash : computeContentHash p.ext envelope.payload = some envelope.contentHash
  signed : envelope.signature.getD "" ≠ ""
  verifies : verifyEnvelopeSignature p.ext body (p.publicKey author) = true

structure Knows (p : Parties) (author : Side) (ctx : IngestContext) : Prop where
  ext : ctx.ext = p.ext
  key : ctx.getPublicKey (.text (p.name author)) = some (p.publicKey author)

def Timely (p : Parties) (db : Db) (now : Instant) : Prop :=
  ∀ row, db.session? p.sessionId = some row → expiresNow row now = false

instance (p : Parties) (db : Db) (now : Instant) : Decidable (Timely p db now) :=
  inferInstanceAs (Decidable (∀ row ∈ db.session? p.sessionId, expiresNow row now = false))

section Genuine

variable {ctx : IngestContext} {db : Db} {body : Fields} {envelope : SessionEnvelope}
  {row : SessionRow}

theorem genuine_of_verified (hver : verified? ctx db body = some envelope)
    (hknows : Knows p author ctx) (hsid : envelope.sessionId = p.sessionId)
    (hactor : envelope.actorUsername = p.name author) : Genuine p author body envelope := by
  obtain ⟨db', opened, -, hv⟩ := verified?_eq_some.mp hver
  obtain ⟨hvalid, -, hhash, -, hsigned, key, hkey, hverifies⟩ := verifyAndBuildEnvelope_eq_ok.mp hv
  rw [hactor, hknows.key] at hkey
  cases hkey
  rw [hknows.ext] at hhash hverifies
  exact ⟨hvalid, hsid, hactor, hhash, hsigned, hverifies⟩

/-- Where the map that verification checks against has an agent for a side, it is the
registered one. -/
theorem agentOf_of_checkedAgent (hrow : IsOf p row) (events : List SessionEventRow)
    {kind : MessageKind} {agent : String}
    (h : checkedAgent row kind (p.name author) = some agent) :
    ¬(kind = .acceptance ∧ author = .receiver) ∧
      (ledgerOf p row events).agentOf p.name author = agent := by
  rw [checkedAgent, hrow.initiator, hrow.receiver] at h
  cases author with
  | initiator =>
      rw [if_neg (fun hboth => p.distinct hboth.1), if_pos rfl, Option.none_or] at h
      exact ⟨fun hboth => Side.noConfusion hboth.2, textOr_of_given h _⟩
  | receiver =>
      rw [if_neg p.distinct.symm, Option.or_none] at h
      split at h
      · rename_i hchecked
        have hkind : kind ≠ .acceptance := hchecked.2.resolve_right p.distinct.symm
        exact ⟨fun hboth => hkind hboth.1, textOr_of_given h _⟩
      · cases h

/-- The map has the registered agent, or the one of the body: where none is registered,
and for the receiver's acceptance. -/
theorem get?_participantMap_of_side (hrow : IsOf p row) (hread : ReadFrom body envelope)
    (hactor : envelope.actorUsername = p.name author) (events : List SessionEventRow)
    (hagent : envelope.kind = .acceptance ∧ author = .receiver ∨
      envelope.actorAgentId = (ledgerOf p row events).agentOf p.name author) :
    (participantMap row body).get? (p.name author) = some envelope.actorAgentId := by
  rw [← hactor, get?_participantMap hread, hactor]
  cases hchecked : checkedAgent row envelope.kind (p.name author) with
  | none => rfl
  | some agent =>
      obtain ⟨hdecides, hregistered⟩ := agentOf_of_checkedAgent hrow events hchecked
      rw [hagent.resolve_left hdecides, hregistered]
      rfl

theorem verified_of_genuine (hgenuine : Genuine p author body envelope)
    (hknows : Knows p author ctx) (hstored : db.session? p.sessionId = some row)
    (hrow : IsOf p row) (events : List SessionEventRow)
    (hagent : envelope.kind = .acceptance ∧ author = .receiver ∨
      envelope.actorAgentId = (ledgerOf p row events).agentOf p.name author) :
    verified? ctx db body = some envelope := by
  have hread := readFrom_of_validateEnvelope hgenuine.valid
  rw [← hgenuine.session] at hstored
  refine verified?_eq_some.mpr ⟨_, _, openSession_of_stored hread hstored, ?_⟩
  refine verifyAndBuildEnvelope_eq_ok.mpr ⟨hgenuine.valid, ?_, ?_, ?_, hgenuine.signed,
    p.publicKey author, ?_, ?_⟩
  · rw [hread.sessionId]
    rfl
  · rw [hknows.ext]
    exact hgenuine.hash
  · rw [hgenuine.actor]
    exact get?_participantMap_of_side hrow hread hgenuine.actor events hagent
  · rw [hgenuine.actor]
    exact hknows.key
  · rw [hknows.ext]
    exact hgenuine.verifies

theorem Holds.takes {status : Status} {ledger : Ledger} (h : Holds p me db status ledger)
    (hgenuine : Genuine p author body envelope) (hknows : Knows p author ctx)
    (htimely : Timely p db ctx.now)
    (hpasses : Passes p.name status ledger (letterOf author envelope)) :
    Takes ctx db body envelope := by
  obtain ⟨row, hstored, hrow, rfl, rfl⟩ := h.row
  have hlog := h.log.sequenced p.sessionId
  have hagent : envelope.kind = .acceptance ∧ author = .receiver ∨
      envelope.actorAgentId =
        (ledgerOf p row (db.eventsOf p.sessionId)).agentOf p.name author :=
    hpasses.agent.imp_left fun hfirst => ⟨hfirst.1, hfirst.2.1⟩
  obtain ⟨participants, hadmitted⟩ := admitted_of_passes (db.eventsOf p.sessionId) ctx.ext hrow
    hgenuine.actor hgenuine.session hlog hpasses
  rw [← hgenuine.session] at hadmitted
  have haccepts : Accepts ctx db body envelope db row
      (stateOf ctx.ext row (db.eventsOf envelope.sessionId)) participants :=
    { verified := verified_of_genuine hgenuine hknows hstored hrow _ hagent
      fresh := by
        rw [hgenuine.session, hgenuine.actor]
        exact storedEvent?_next h.log hpasses.sequence
      timely := by
        rw [hgenuine.session]
        exact htimely
      loaded := .stored (by rw [hgenuine.session]; exact hstored)
      admitted := hadmitted }
  exact ⟨db, row, _, participants, haccepts⟩

/-- What a node has accepted passes there. -/
theorem Holds.passes {status : Status} {ledger : Ledger} (h : Holds p me db status ledger)
    (htakes : Takes ctx db body envelope) (hsid : envelope.sessionId = p.sessionId)
    (hactor : envelope.actorUsername = p.name author) :
    Passes p.name status ledger (letterOf author envelope) := by
  obtain ⟨row, hstored, hrow, rfl, rfl⟩ := h.row
  obtain ⟨base, stored, state, participants, haccepts⟩ := htakes
  have hadmitted := haccepts.admitted
  cases haccepts.loaded with
  | created hnone _ _ _ =>
      rw [hsid, hstored] at hnone
      cases hnone
  | stored hrow' =>
      rw [hsid, hstored] at hrow'
      cases hrow'
      rw [hsid] at hadmitted
      exact passes_of_admitted _ ctx.ext hrow hactor (h.log.sequenced _) hadmitted

theorem ledgerOf_commits {base db' : Db} {status : Status} {now : Instant}
    (hcommits : Commits base envelope status now db') (hsid : envelope.sessionId = p.sessionId)
    (hactor : envelope.actorUsername = p.name author) :
    ledgerOf p (setStatus status now (acceptedRow envelope row)) (db'.eventsOf p.sessionId) =
      (ledgerOf p row (base.eventsOf p.sessionId)).record (letterOf author envelope) := by
  have hagent : (acceptedRow envelope row).receiverAgentId =
      acceptedAgent row.receiverAgentId (letterOf author envelope) := by
    simp only [acceptedRow, acceptedAgent, letterOf]
    by_cases hkind : envelope.kind = .acceptance
    · obtain htext | ⟨agent, htext⟩ := Option.eq_none_or_eq_some (asText (acceptingAgentId envelope))
      · simp [hkind, htext]
      · by_cases hempty : agent = "" <;> simp [hkind, htext, hempty]
    · simp [hkind]
  have hlast : ∀ side, (numbersOf SessionEventRow.actorUsername SessionEventRow.sequence
      (db'.eventsOf p.sessionId) (p.name side)).length =
      (numbersOf SessionEventRow.actorUsername SessionEventRow.sequence
        (base.eventsOf p.sessionId) (p.name side)).length + if author = side then 1 else 0 := by
    intro side
    have hone : numbersOf SessionEventRow.actorUsername SessionEventRow.sequence
        [eventRow base (envelopeEvent envelope now)] (p.name side) =
          if author = side then [envelope.sequence] else [] := by
      rw [numbersOf_singleton]
      change (if envelope.actorUsername = p.name side then [envelope.sequence] else []) = _
      rw [hactor]
      by_cases hside : author = side
      · rw [if_pos hside, if_pos (by rw [hside])]
      · rw [if_neg hside, if_neg fun hname => hside (p.name_inj hname)]
    rw [← hsid]
    rcases hcommits.eventsOf_self with heq | ⟨-, ev, hseq, -, -, heq⟩
    · rw [heq, numbersOf_append, hone, List.length_append]
      split <;> rfl
    · rw [heq, numbersOf_append, numbersOf_append, hone, numbersOf_singleton]
      simp only [eventRow, hseq, Option.toList_none, ite_self, List.append_nil, List.length_append]
      split <;> rfl
  have hturns := (counted_of_commits hcommits).1
  rw [hsid] at hturns
  simp only [ledgerOf, Ledger.record, Ledger.mk.injEq]
  refine ⟨acceptedRow_senderAgentId envelope row, hagent, hturns, ?_, ?_⟩
  · simp [setStatus]
  · funext side
    rw [hlast]
    by_cases hside : author = side
    · subst hside
      simp [letterOf]
    · rw [if_neg hside, Nat.add_zero]
      symm
      exact Function.update_of_ne (f := fun side => (numbersOf SessionEventRow.actorUsername
        SessionEventRow.sequence (base.eventsOf p.sessionId) (p.name side)).length)
        (Ne.symm hside) _

theorem Holds.of_commits {status s : Status} {ledger : Ledger} {base stored state participants}
    {now : Instant} {db' : Db} (h : Holds p me db status ledger)
    (haccepts : Accepts ctx db body envelope base stored state participants)
    (hcommits : Commits base envelope s now db') (hsid : envelope.sessionId = p.sessionId)
    (hactor : envelope.actorUsername = p.name author) :
    Holds p me db' s (ledger.record (letterOf author envelope)) ∧
      state.status = status := by
  obtain ⟨row, hstored, hrow, rfl, rfl⟩ := h.row
  have hidentity : db'.myUsername = p.name me := by
    rw [← h.identity, Db.myUsername, hcommits.identity, haccepts.loaded.base_identity,
      Db.myUsername]
  have hlog := h.log.of_commits haccepts hcommits
  have hbase := haccepts.loaded.base_session?
  cases haccepts.loaded with
  | created hnone _ _ _ =>
      rw [hsid, hstored] at hnone
      cases hnone
  | stored _ =>
      have hself := hcommits.session?_self hbase
      rw [hsid, hstored] at hbase
      cases hbase
      rw [hsid] at hself
      refine ⟨⟨hidentity, hlog, _, hself, ⟨?_, ?_, ?_⟩, rfl,
        ledgerOf_commits hcommits hsid hactor⟩, rfl⟩
      · rw [setStatus_sessionId, acceptedRow_sessionId]
        exact hrow.sessionId
      · exact (acceptedRow_initiatorUsername envelope stored).trans hrow.initiator
      · exact (acceptedRow_receiverUsername stored).trans hrow.receiver

/-- An accepted envelope, other than an offer of the peer, is acknowledged, and
the node holds the session as status and ledger say. -/
theorem Holds.ingest {status : Status} {ledger : Ledger} (h : Holds p me db status ledger)
    (htakes : Takes ctx db body envelope) (hsid : envelope.sessionId = p.sessionId)
    (hactor : envelope.actorUsername = p.name author)
    (hoffer : envelope.kind ≠ .artifactOffer ∨ author = me) :
    Holds p me (ingestEnvelope ctx db body).db
        (movedStatus (decide (author ≠ me)) envelope.kind status)
        (ledger.record (letterOf author envelope)) ∧
      ∃ ack, (ingestEnvelope ctx db body).exit = .ok ack ∧ ack.status = .delivered := by
  obtain ⟨base, stored, state, participants, haccepts⟩ := htakes
  have hown : envelope.kind ≠ .artifactOffer ∨ envelope.actorUsername = db.myUsername := by
    rw [hactor, h.identity]
    exact hoffer.imp_right fun heq => by rw [heq]
  have hpeer : (envelope.actorUsername != db.myUsername) = decide (author ≠ me) := by
    rw [hactor, h.identity]
    by_cases hside : author = me
    · simp [hside]
    · have hname : p.name author ≠ p.name me := fun hname => hside (p.name_inj hname)
      simp [hside, hname]
  obtain ⟨db', hcommits, hres⟩ := ingestEnvelope_of_accepts haccepts hown
  obtain ⟨hholds, hstate⟩ := h.of_commits haccepts hcommits hsid hactor
  have hs : (finalState db state envelope participants).status =
      movedStatus (decide (author ≠ me)) envelope.kind status := by
    rw [finalState_status, hpeer, advanceToReview_eq, ← hstate]
    rfl
  rw [hs] at hholds
  rw [hres]
  exact ⟨hholds, deliveredAck_ok (readFrom_of_verified haccepts.verified) ctx⟩

end Genuine

end Kin.Pair
