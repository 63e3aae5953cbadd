import Kin.Node.Activity
import Kin.Node.Refusal

/-!
The same envelope again. The relay poller relies on a second delivery being
acknowledged like the first; the duplicate check that does so comes after the
lazy expiry and after verification against the agents of the row as it is now.
-/

namespace Kin.Node

open Kin.Py Kin.Lib Kin.Schemas Kin.Session Kin.Storage Kin.Audit Kin.Policy Kin.Transport

variable {ctx : IngestContext} {db db' : Db} {raw : Fields} {envelope : SessionEnvelope}

/-! ### A number that is stored -/

/-- `ingest_envelope` under a number that is stored: the lazy expiry, and then a
delivery or a mismatch, by the hash of the stored payload. -/
theorem ingestEnvelope_of_repeated {event : SessionEventRow}
    (hver : verified? ctx db raw = some envelope)
    (hstored : storedEvent? db envelope.sessionId envelope.actorUsername envelope.sequence =
      some event) :
    SameTables (afterExpiry ctx db envelope.sessionId) (ingestEnvelope ctx db raw).db ∧
      (ingestEnvelope ctx db raw).exit =
        if canonicalPayloadHash ctx.ext (some (.obj envelope.payload)) =
            canonicalPayloadHash ctx.ext event.payload then
          deliveredAck ctx raw envelope
        else rejectVerified ctx raw envelope (some .sequenceReuseMismatch) (some (.text
          "Sequence reuse mismatch: sequence number re-used with different content hash.")) := by
  rw [← storedEvent?_afterExpiry ctx db _ _ _ envelope.sessionId] at hstored
  have hcommit := ingestCommit_of_verified hver
  simp only [ingestVerified, checkSequenceConflict, hstored] at hcommit
  split at hcommit
  · rename_i db1 id heq
    split at heq
    · rename_i hhash
      cases heq
      rw [if_pos hhash]
      simp only [ingestEnvelope, hcommit]
      exact ⟨sameTables_writeAuditEvent .., trivial⟩
    · cases heq
  · rename_i db1 id heq
    split at heq
    · cases heq
    · rename_i hhash
      cases heq
      rw [if_neg hhash]
      simp only [ingestEnvelope, hcommit]
      exact ⟨sameTables_writeAuditEvent .., trivial⟩
  · rename_i heq
    split at heq <;> cases heq

/-- The first event under a number stays the first. -/
theorem storedEvent?_of_prefix {sid actor : String} {n : Nat} {event : SessionEventRow}
    (hpre : db.sessionEvents <+: db'.sessionEvents)
    (h : storedEvent? db sid actor n = some event) : storedEvent? db' sid actor n = some event := by
  obtain ⟨later, hlater⟩ := hpre
  rw [storedEvent?, ← hlater, List.find?_append]
  rw [storedEvent?] at h
  rw [h]
  rfl

/-- The event of a committed envelope is the one found under its number. -/
theorem storedEvent?_of_commits {base : Db} {status : Status} {now : Instant}
    (hfresh : storedEvent? base envelope.sessionId envelope.actorUsername envelope.sequence = none)
    (h : Commits base envelope status now db') :
    ∃ event, storedEvent? db' envelope.sessionId envelope.actorUsername envelope.sequence =
      some event ∧ event.payload = some (.obj envelope.payload) := by
  have hcommitted : storedEvent? (committed base envelope status now) envelope.sessionId
      envelope.actorUsername envelope.sequence = some (eventRow (base.updateSession
        envelope.sessionId (acceptedRow envelope)) (envelopeEvent envelope now)) := by
    change (base.sessionEvents ++ [eventRow _ (envelopeEvent envelope now)]).find? _ = _
    rw [List.find?_append, ← storedEvent?, hfresh]
    simp [eventRow, envelopeEvent]
  have hpre : (committed base envelope status now).sessionEvents <+: db'.sessionEvents := by
    rcases h with hsame | ⟨-, ev, -, -, -, happ⟩
    · exact hsame.sessionEvents ▸ List.prefix_rfl
    · rw [SameTables.sessionEvents happ]
      exact List.prefix_append ..
  exact ⟨_, storedEvent?_of_prefix hpre hcommitted, rfl⟩

theorem handleOffer_sessionEvents (ctx : IngestContext) (db : Db) (raw : Fields)
    (committed : Committed) :
    db.sessionEvents <+: (handleOffer ctx db raw committed).db.sessionEvents := by
  obtain ⟨db1, hstores, heq | ⟨ctx', accept, -, -, heq, -⟩⟩ :=
    handleOffer_cases ctx db raw committed
  · rw [heq]
    exact hstores.sessionEvents ▸ List.prefix_rfl
  · have hmove : Transport.Move ctx'.ext ctx'.now (fun _ _ _ => True) db1
        (ingestCommit ctx' db1 accept).1 := ingestCommit_move fun _ _ => trivial
    rw [heq, ← hstores.sessionEvents]
    exact sessionEvents_prefix_of_move (.ingest hmove)

/-! ### What an acknowledged delivery leaves behind -/

/-- The call returns `delivered`. -/
def Delivered (ctx : IngestContext) (db : Db) (raw : Fields) : Prop :=
  ∃ ack, (ingestEnvelope ctx db raw).exit = .ok ack ∧ ack.status = .delivered

instance (ctx : IngestContext) (db : Db) (raw : Fields) : Decidable (Delivered ctx db raw) :=
  decidable_of_iff ((ingestEnvelope ctx db raw).exit.toOption.any fun ack =>
    ack.status == .delivered) <| by
  unfold Delivered
  cases (ingestEnvelope ctx db raw).exit with
  | error e => simp [Except.toOption]
  | ok ack => simp [Except.toOption]

/-- A delivered body verified, and after the call its number is stored with the
same payload hash. -/
theorem stored_of_delivered (h : Delivered ctx db raw) :
    ∃ envelope event, verified? ctx db raw = some envelope ∧
      storedEvent? (ingestEnvelope ctx db raw).db envelope.sessionId envelope.actorUsername
        envelope.sequence = some event ∧
      canonicalPayloadHash ctx.ext (some (.obj envelope.payload)) =
        canonicalPayloadHash ctx.ext event.payload := by
  obtain ⟨ack, hexit, hstatus⟩ := h
  have hnot : ¬Declines (ingestEnvelope ctx db raw).exit := by
    intro hdeclines
    have hrejected := hdeclines ack hexit
    rw [hstatus] at hrejected
    cases hrejected
  cases hver : verified? ctx db raw with
  | none =>
      refine absurd (declines_of_refuses ?_ ?_) hnot
      · intro envelope hsome
        rw [hver] at hsome
        cases hsome
      · rintro envelope ⟨_, _, _, _, haccepts⟩
        have hsome := haccepts.verified
        rw [hver] at hsome
        cases hsome
  | some envelope =>
  refine ⟨envelope, ?_⟩
  have hpre : db.sessionEvents <+: (ingestEnvelope ctx db raw).db.sessionEvents :=
    sessionEvents_prefix_step db (.ingest ctx raw)
  cases hstored : storedEvent? db envelope.sessionId envelope.actorUsername envelope.sequence with
  | some event =>
      refine ⟨event, rfl, storedEvent?_of_prefix hpre hstored, ?_⟩
      by_contra hhash
      refine hnot ?_
      rw [(ingestEnvelope_of_repeated hver hstored).2, if_neg hhash]
      exact declines_rejectVerified
  | none =>
      have htakes : ∃ e, Takes ctx db raw e := by
        by_contra hno
        refine hnot (declines_of_refuses ?_ fun e htakes => hno ⟨e, htakes⟩)
        intro e hsome
        rw [hver] at hsome
        cases hsome
        exact hstored
      obtain ⟨e, base, stored, state, participants, haccepts⟩ := htakes
      have hsome := haccepts.verified
      rw [hver] at hsome
      cases hsome
      obtain ⟨db1, heq, hcommits⟩ := ingestCommit_of_accepts haccepts
      have hbase : storedEvent? base envelope.sessionId envelope.actorUsername envelope.sequence =
          none := by
        rw [storedEvent?, haccepts.loaded.base_sessionEvents]
        exact haccepts.fresh
      obtain ⟨event, hevent, hpayload⟩ := storedEvent?_of_commits hbase hcommits
      have hpre1 : db1.sessionEvents <+: (ingestEnvelope ctx db raw).db.sessionEvents := by
        simp only [ingestEnvelope, heq]
        split
        · exact handleOffer_sessionEvents ..
        · exact List.prefix_rfl
      exact ⟨event, rfl, storedEvent?_of_prefix hpre1 hevent, by rw [hpayload]⟩

/-! ### The second delivery -/

/-- The call returns `delivered` and leaves sessions, events and artifacts alone. -/
def Harmless (ctx : IngestContext) (db : Db) (raw : Fields) : Prop :=
  Delivered ctx db raw ∧ (ingestEnvelope ctx db raw).db.sessions = db.sessions ∧
    (ingestEnvelope ctx db raw).db.sessionEvents = db.sessionEvents ∧
    (ingestEnvelope ctx db raw).db.artifacts = db.artifacts

/-- The session does not expire with this call, the agent of the body is the one
the row has for its actor now, and the actor's key of now verifies the body. -/
def stillRegistered (ctx : IngestContext) (db : Db) (raw : Fields) : Bool :=
  match validateEnvelope raw with
  | none => false
  | some envelope =>
      match db.session? envelope.sessionId with
      | none => false
      | some row =>
          !expiresNow row ctx.now &&
            decide ((participantMap row raw).get? envelope.actorUsername =
              some envelope.actorAgentId) &&
            (ctx.getPublicKey (.text envelope.actorUsername)).any
              (verifyEnvelopeSignature ctx.ext raw)

theorem stillRegistered_iff {row : SessionRow} (hvalid : validateEnvelope raw = some envelope)
    (hrow : db.session? envelope.sessionId = some row) :
    stillRegistered ctx db raw = true ↔ expiresNow row ctx.now = false ∧
      (participantMap row raw).get? envelope.actorUsername = some envelope.actorAgentId ∧
      ∃ key, ctx.getPublicKey (.text envelope.actorUsername) = some key ∧
        verifyEnvelopeSignature ctx.ext raw key = true := by
  simp [stillRegistered, hvalid, hrow, Option.any_eq_true, and_assoc]

/-- A session that expires with the call is written. -/
theorem sessions_of_expiresNow {row : SessionRow} (hrow : db.session? envelope.sessionId = some row)
    (hexp : expiresNow row ctx.now = true)
    (hsame : SameTables (afterExpiry ctx db envelope.sessionId) db') :
    db'.sessions ≠ db.sessions := by
  intro hsessions
  have hid := sessionId_of_session? hrow
  have hafter : afterExpiry ctx db envelope.sessionId = lazyExpire ctx db row := by
    simp [afterExpiry, hrow]
  rcases lazyExpire_cases ctx (hid ▸ hrow) with ⟨-, hw⟩ | ⟨hno, -⟩
  · have hread : db'.session? envelope.sessionId = some row := by
      rw [Db.session?, hsessions, ← Db.session?, hrow]
    rw [hsame.session?, hafter, SameTables.session? hw, hid,
      session?_updateSession_self fun _ => setStatus_sessionId _ _ _, hrow] at hread
    have hstatus : Status.expired = row.status := congrArg SessionRow.status (Option.some.inj hread)
    rw [expiresNow, ← hstatus, Bool.and_eq_true] at hexp
    exact absurd hexp.2 (by decide)
  · rw [hexp] at hno
    cases hno

theorem harmless_iff {event : SessionEventRow} {row : SessionRow}
    (hvalid : validateEnvelope raw = some envelope)
    (hcontent : computeContentHash ctx.ext envelope.payload = some envelope.contentHash)
    (hsigned : envelope.signature.getD "" ≠ "")
    (hrow : db.session? envelope.sessionId = some row)
    (hstored : storedEvent? db envelope.sessionId envelope.actorUsername envelope.sequence =
      some event)
    (hhash : canonicalPayloadHash ctx.ext (some (.obj envelope.payload)) =
      canonicalPayloadHash ctx.ext event.payload) :
    Harmless ctx db raw ↔ stillRegistered ctx db raw = true := by
  rw [stillRegistered_iff hvalid hrow]
  have hread := readFrom_of_validateEnvelope hvalid
  have hopen : openSession ctx db raw = (lazyExpire ctx db row, .ok ⟨some row, participantMap row raw⟩) :=
    openSession_of_stored hread hrow
  constructor
  · rintro ⟨hdelivered, hsessions, -, -⟩
    obtain ⟨e, -, hver, -, -⟩ := stored_of_delivered hdelivered
    obtain rfl : envelope = e :=
      Option.some.inj (hvalid.symm.trans (validateEnvelope_of_verified hver))
    obtain ⟨db1, opened, hopen', hok⟩ := verified?_eq_some.mp hver
    rw [hopen] at hopen'
    cases hopen'
    obtain ⟨-, -, -, hagent, -, key, hkey, hverify⟩ := verifyAndBuildEnvelope_eq_ok.mp hok
    refine ⟨?_, hagent, key, hkey, hverify⟩
    by_contra hexp
    exact sessions_of_expiresNow hrow (by simpa using hexp)
      (ingestEnvelope_of_repeated hver hstored).1 hsessions
  · rintro ⟨htimely, hagent, key, hkey, hverify⟩
    have hactive : asText (rawSessionId raw) = some envelope.sessionId := by
      rw [hread.sessionId]
      rfl
    have hver : verified? ctx db raw = some envelope :=
      verified?_eq_some.mpr ⟨_, _, hopen, verifyAndBuildEnvelope_eq_ok.mpr
        ⟨hvalid, hactive, hcontent, hagent, hsigned, key, hkey, hverify⟩⟩
    obtain ⟨hsame, hexit⟩ := ingestEnvelope_of_repeated hver hstored
    rw [if_pos hhash] at hexit
    have hafter : SameTables db (afterExpiry ctx db envelope.sessionId) :=
      sameTables_afterExpiry ctx envelope.sessionId fun r hr => by
        rw [hrow] at hr
        cases hr
        exact htimely
    have hall := hafter.trans hsame
    refine ⟨?_, hall.sessions, hall.sessionEvents, hall.artifacts⟩
    rw [Delivered, hexit]
    exact deliveredAck_ok hread ctx

/-- In every run of a node, an envelope that was acknowledged as delivered is
harmless when it comes again, after anything else the node did, exactly if the
session does not expire with the call, the row still has the envelope's agent for
its actor and the actor's key verifies it. -/
theorem redelivery_harmless_iff (identity : Option String) (contacts : List ContactRow)
    (agents : List AgentRow) (earlier later : List Activity) (first again : IngestContext)
    (raw : Fields) (hext : again.ext = first.ext)
    (haccepted : Delivered first
      (run Activity.step (Db.fresh identity contacts agents) earlier) raw) :
    let before := run Activity.step (Db.fresh identity contacts agents) earlier
    let after := run Activity.step (Activity.step before (.operation (.ingest first raw))) later
    Harmless again after raw ↔ stillRegistered again after raw = true := by
  intro before after
  obtain ⟨envelope, event, hver, hstored, hhash⟩ := stored_of_delivered haccepted
  have hlog : LogInvariant after :=
    logInvariant_activities (logInvariant_activities
      (logInvariant_activities (logInvariant_fresh identity contacts agents) earlier)
      [.operation (.ingest first raw)]) later
  have hstored' : storedEvent? after envelope.sessionId envelope.actorUsername envelope.sequence =
      some event :=
    storedEvent?_of_prefix (sessionEvents_prefix_activities _ later) hstored
  have hrow : ∃ row, after.session? envelope.sessionId = some row := by
    by_contra hno
    have hnone : after.session? envelope.sessionId = none := by
      cases hs : after.session? envelope.sessionId with
      | none => rfl
      | some row => exact absurd ⟨row, hs⟩ hno
    have hfound := List.find?_some hstored'
    simp only [Bool.and_eq_true, beq_iff_eq] at hfound
    have hmem : event ∈ after.eventsOf envelope.sessionId := by
      rw [Db.eventsOf, List.mem_filter]
      exact ⟨List.mem_of_find?_eq_some hstored', by simp [hfound.1.1]⟩
    rw [hlog.stored _ hnone] at hmem
    cases hmem
  obtain ⟨row, hrow⟩ := hrow
  obtain ⟨_, _, -, hok⟩ := verified?_eq_some.mp hver
  obtain ⟨hvalid, -, hcontent, -, hsigned, -⟩ := verifyAndBuildEnvelope_eq_ok.mp hok
  rw [← hext] at hhash hcontent
  exact harmless_iff hvalid hcontent hsigned hrow hstored' hhash

namespace Sample

open Kin.Transport.Sample

/-- `alice`'s node before anything happened. -/
def aliceDb : Db := Db.fresh (some "alice") [] []

/-- `alice` asked for `bob`'s agent `bot`. -/
def asked : List Activity := [.operation (ingest "s1" "alice" "scout" 1 .taskRequest request)]

/-- `bob` announces that `helper` takes over from `bot`. -/
def change : Fields :=
  Transport.Sample.envelope "s1" "bob" "bot" 1 .participantChanged
    [(.text "replacement_agent_id", .text "helper")]

/-- `bob` accepts with this agent. -/
def acceptedBy (agentId : String) : List Activity :=
  [.operation (ingest "s1" "bob" agentId 2 .acceptance
    [(.text "accepting_agent_id", .text agentId)])]

/-- `alice`'s node after the change and an acceptance. -/
def changedAndAccepted (agentId : String) : Db :=
  run Activity.step (Activity.step (run Activity.step aliceDb asked)
    (.operation (.ingest context change))) (acceptedBy agentId)

def answer (ctx : IngestContext) (db : Db) (raw : Fields) : Option AckStatus :=
  (ingestEnvelope ctx db raw).exit.toOption.map (·.status)

theorem delivered_of_answer {ctx : IngestContext} {db : Db} {raw : Fields}
    (h : answer ctx db raw = some .delivered) : Delivered ctx db raw := by
  unfold answer at h
  unfold Delivered
  cases hexit : (ingestEnvelope ctx db raw).exit with
  | error e => simp [hexit, Except.toOption] at h
  | ok ack => exact ⟨ack, rfl, by simpa [hexit, Except.toOption] using h⟩

/-- What the change comes to, decided together: before the acceptance it is accepted, after an
acceptance by the same agent it changes nothing, and after one by `helper` it is refused. -/
theorem change_facts :
    answer context (run Activity.step aliceDb asked) change = some .delivered ∧
      stillRegistered context (changedAndAccepted "bot") change = true ∧
      answer context (changedAndAccepted "helper") change = some .rejected := by
  decide +kernel

end Sample

/-- With the agent unchanged, the change may come again after the acceptance. -/
theorem redelivery_harmless_sameAgent :
    Harmless Sample.context (Sample.changedAndAccepted "bot") Sample.change := by
  exact (redelivery_harmless_iff (some "alice") [] [] Sample.asked (Sample.acceptedBy "bot")
    Sample.context Sample.context Sample.change rfl
    (Sample.delivered_of_answer Sample.change_facts.1)).mpr Sample.change_facts.2.1

/-- The acceptance names `helper`, and then the change, signed under `bot`, is
refused. -/
theorem redelivery_refused :
    Delivered Sample.context (run Activity.step Sample.aliceDb Sample.asked) Sample.change ∧
      ¬Harmless Sample.context (Sample.changedAndAccepted "helper") Sample.change := by
  obtain ⟨hdelivered, -, hanswer⟩ := Sample.change_facts
  refine ⟨Sample.delivered_of_answer hdelivered, ?_⟩
  rintro ⟨⟨ack, hexit, hstatus⟩, -⟩
  simp [Sample.answer, hexit, Except.toOption, hstatus] at hanswer

end Kin.Node
