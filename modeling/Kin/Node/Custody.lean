import Kin.Node.EventLog
import Kin.Transport.Answers

/-!
Custody of the owner's envelopes. Every sequenced event that this node stored
under its own name was read from a body; custody says that each such body is
kept somewhere, where `kept` stands for any such place. Ingestion is the only
operation that stores sequenced events, so it is the only one with something to
prove.
-/

namespace Kin.Node

open Kin.Py Kin.Lib Kin.Schemas Kin.Session Kin.Storage Kin.Audit Kin.Policy Kin.Transport

def Records (event : SessionEventRow) (body : Fields) : Prop :=
  ∃ envelope, validateEnvelope body = some envelope ∧ event.sessionId = envelope.sessionId ∧
    event.actorUsername = envelope.actorUsername ∧ event.sequence = some envelope.sequence ∧
    event.kind = .message envelope.kind ∧ event.payload = some (.obj envelope.payload) ∧
    event.signature = envelope.signature

/-- The log is sequenced, and each sequenced event of the owner records a body
that is kept. -/
structure Custody (kept : Fields → Prop) (db : Db) : Prop where
  log : LogInvariant db
  covered : ∀ event ∈ db.sessionEvents, event.actorUsername = db.myUsername →
    event.sequence.isSome = true → ∃ body, kept body ∧ Records event body

/-- The body is accepted: `ingest_envelope` stores its event. -/
def Takes (ctx : IngestContext) (db : Db) (raw : Fields) (envelope : SessionEnvelope) : Prop :=
  ∃ base stored state participants, Accepts ctx db raw envelope base stored state participants

def Refuses (ctx : IngestContext) (db : Db) (raw : Fields) : Prop :=
  ∀ envelope, ¬Takes ctx db raw envelope

variable {kept : Fields → Prop} {ctx : IngestContext} {db db' : Db} {raw : Fields}
  {envelope : SessionEnvelope}

/-! ### Changes beside the log -/

theorem Custody.mono {kept' : Fields → Prop} (h : Custody kept db)
    (hsub : ∀ body, kept body → kept' body) : Custody kept' db where
  log := h.log
  covered event hmem hactor hseq := by
    obtain ⟨body, hbody, hrecords⟩ := h.covered event hmem hactor hseq
    exact ⟨body, hsub body hbody, hrecords⟩

/-- A change that leaves the log and the identity alone and removes no session
keeps custody. -/
theorem Custody.of_same (h : Custody kept db) (hevents : db'.sessionEvents = db.sessionEvents)
    (hidentity : db'.identity = db.identity)
    (hsessions : ∀ sid, (db.session? sid).isSome = true → (db'.session? sid).isSome = true) :
    Custody kept db' where
  log := h.log.of_same (fun sid => by rw [Db.eventsOf, hevents, Db.eventsOf]) hsessions
  covered event hmem hactor hseq := by
    rw [hevents] at hmem
    rw [Db.myUsername, hidentity] at hactor
    exact h.covered event hmem hactor hseq

theorem Custody.of_sameTables (h : Custody kept db) (hsame : SameTables db db') :
    Custody kept db' :=
  h.of_same hsame.sessionEvents hsame.identity fun sid hsome => by
    rw [hsame.session?]
    exact hsome

theorem Custody.of_statusWritten (h : Custody kept db) {sid : String} {status : Status}
    {now : Instant} (hw : StatusWritten db sid status now db') : Custody kept db' := by
  have hevents : db'.sessionEvents = db.sessionEvents := by
    rw [SameTables.sessionEvents hw]
    rfl
  have hidentity : db'.identity = db.identity := by
    rw [SameTables.identity hw]
    rfl
  refine h.of_same hevents hidentity fun s hsome => ?_
  rw [hw.session?, isSome_session?_updateSession (fun _ => setStatus_sessionId _ _ _)]
  exact hsome

theorem Custody.of_expires (h : Custody kept db) {now : Instant} (hexp : Expires now db db') :
    Custody kept db' := by
  rcases hexp with hsame | ⟨sid, row, -, -, hw⟩
  · exact h.of_sameTables hsame
  · exact h.of_statusWritten hw

theorem Custody.of_stores (h : Custody kept db) {sid : String} (hstores : Stores db sid db') :
    Custody kept db' := by
  refine h.of_same hstores.sessionEvents hstores.identity fun s hsome => ?_
  obtain ⟨n, hn⟩ := hstores.session? s
  rw [hn, Option.isSome_map]
  exact hsome

/-- An event without a sequence needs no body. -/
theorem Custody.of_appended (h : Custody kept db) {ev : NewEvent} (hseq : ev.sequence = none)
    (hrow : (db.session? ev.sessionId).isSome = true) (happ : Appended db ev db') :
    Custody kept db' where
  log := h.log.of_appended hrow (by simp [hseq]) happ
  covered event hmem hactor hsome := by
    rw [SameTables.sessionEvents happ] at hmem
    rw [SameTables.myUsername happ] at hactor
    rcases List.mem_append.mp hmem with hold | hnew
    · exact h.covered event hold hactor hsome
    · rw [List.mem_singleton] at hnew
      rw [hnew, eventRow, hseq] at hsome
      cases hsome

/-! ### Ingestion -/

theorem mem_sessionEvents_of_commits {status : Status} {now : Instant}
    (h : Commits db envelope status now db') {event : SessionEventRow}
    (hmem : event ∈ db'.sessionEvents) (hseq : event.sequence.isSome = true) :
    event ∈ db.sessionEvents ∨ ∃ before, event = eventRow before (envelopeEvent envelope now) := by
  have hcommitted : event ∈ (committed db envelope status now).sessionEvents →
      event ∈ db.sessionEvents ∨ ∃ before, event = eventRow before (envelopeEvent envelope now) := by
    intro hmem
    rcases List.mem_append.mp hmem with hold | hnew
    · exact .inl hold
    · exact .inr ⟨_, List.mem_singleton.mp hnew⟩
  rcases h with hsame | ⟨-, ev, -, hnone, -, happ⟩
  · rw [hsame.sessionEvents] at hmem
    exact hcommitted hmem
  · rw [SameTables.sessionEvents happ] at hmem
    rcases List.mem_append.mp hmem with hold | hnew
    · exact hcommitted hold
    · rw [List.mem_singleton.mp hnew, eventRow, hnone] at hseq
      cases hseq

theorem records_envelopeEvent (hver : verified? ctx db raw = some envelope) (before : Db)
    (now : Instant) : Records (eventRow before (envelopeEvent envelope now)) raw :=
  ⟨envelope, validateEnvelope_of_verified hver, rfl, rfl, rfl, rfl, rfl, rfl⟩

/-- An accepted body is committed. -/
theorem Takes.commits (h : Takes ctx db raw envelope) :
    ∃ db', ingestCommit ctx db raw = (db', .ok ⟨envelope, db.session? envelope.sessionId⟩) := by
  obtain ⟨_, _, _, _, haccepts⟩ := h
  obtain ⟨db', heq, -⟩ := ingestCommit_of_accepts haccepts
  exact ⟨db', heq⟩

theorem takes_of_committed {committed : Committed}
    (h : ingestCommit ctx db raw = (db', .ok committed)) :
    Takes ctx db raw committed.envelope := by
  rcases ingestCommit_cases ctx db raw with ⟨_, _, heq, -⟩ | ⟨_, _, _, -, -, heq, -⟩ |
    ⟨envelope, base, stored, state, participants, _, haccepts, heq, -⟩ <;> rw [heq] at h <;> cases h
  exact ⟨base, stored, state, participants, haccepts⟩

/-- Up to the commit custody needs only the body itself, and only if it is
accepted under the owner's name. -/
theorem Custody.of_ingestCommit (h : Custody kept db)
    (hbody : ∀ envelope, Takes ctx db raw envelope → envelope.actorUsername = db.myUsername →
      kept raw) : Custody kept (ingestCommit ctx db raw).1 := by
  have hmove : Transport.Move ctx.ext ctx.now (fun _ _ _ => True) db (ingestCommit ctx db raw).1 :=
    ingestCommit_move fun _ _ => trivial
  have hlog := h.log.of_move (.ingest hmove)
  rcases ingestCommit_cases ctx db raw with ⟨db', exit, heq, hexp⟩ |
    ⟨envelope, newRow, exit, hver, hopens, heq, -⟩ |
    ⟨envelope, base, stored, state, participants, db', haccepts, heq, hcommits⟩
  · rw [heq]
    exact h.of_expires hexp
  · rw [heq] at hlog ⊢
    exact ⟨hlog, h.covered⟩
  rw [heq] at hlog ⊢
  refine ⟨hlog, fun event hmem hactor hseq => ?_⟩
  have hmy : db'.myUsername = db.myUsername := by
    rw [Db.myUsername, hcommits.identity, haccepts.loaded.base_identity, Db.myUsername]
  rw [hmy] at hactor
  rcases mem_sessionEvents_of_commits hcommits hmem hseq with hold | ⟨before, hnew⟩
  · rw [haccepts.loaded.base_sessionEvents] at hold
    exact h.covered event hold hactor hseq
  · refine ⟨raw, hbody envelope ⟨base, stored, state, participants, haccepts⟩ ?_, ?_⟩
    · rw [hnew] at hactor
      exact hactor
    · rw [hnew]
      exact records_envelopeEvent haccepts.verified before ctx.now

theorem ingestAccept_fst (ctx : IngestContext) (db : Db) (raw : Fields) :
    (ingestAccept ctx db raw).1 = (ingestCommit ctx db raw).1 := by
  unfold ingestAccept
  split <;> rename_i heq <;> rw [heq]

/-- The nested call returns when it stores the acceptance. -/
theorem ingestAccept_of_takes (htakes : Takes ctx db raw envelope) :
    ∃ db' ack, ingestAccept ctx db raw = (db', .ok ack) := by
  obtain ⟨db', heq⟩ := htakes.commits
  obtain ⟨_, _, _, _, haccepts⟩ := htakes
  obtain ⟨ack, hack, -⟩ := deliveredAck_ok (readFrom_of_verified haccepts.verified) ctx
  exact ⟨db', ack, by simp only [ingestAccept, heq, hack]⟩

/-- The nested call keeps custody if the acceptance, once stored, is kept. -/
theorem Custody.of_ingestAccept (h : Custody kept db)
    (hbody : ∀ envelope, Takes ctx db raw envelope → kept raw) :
    Custody kept (ingestAccept ctx db raw).1 := by
  rw [ingestAccept_fst]
  exact h.of_ingestCommit fun envelope htakes _ => hbody envelope htakes

structure SignedAccept where
  context : IngestContext
  db : Db
  body : Fields

/-- The acceptance that the handling of an offer signs; `none` when the offer is
not stored or no key is found. -/
def signedAccept? (ctx : IngestContext) (db : Db) (committed : Committed) : Option SignedAccept :=
  let envelope := committed.envelope
  let agentId := receivingAgent db committed.row
  match storeOffer ctx db envelope agentId with
  | (db, .ok (some (offer, x25519))) => do
      let contentHash ← computeContentHash ctx.ext (acceptPayload offer.artifactId envelope.sessionId)
      let key ← ctx.ownerIdentityKey <|> ctx.ext.loadPrivateKey db.myUsername
      some ⟨acceptContext ctx db key x25519, db,
        acceptEnvelope ctx db envelope.sessionId offer.artifactId agentId contentHash key⟩
  | _ => none

/-- Without a signed acceptance the handling of an offer ends with the artifact
stored or refused; a signed one is ingested and, unless that raises, sent. -/
theorem handleOffer_signedAccept (ctx : IngestContext) (db : Db) (raw : Fields)
    (committed : Committed) :
    match signedAccept? ctx db committed with
    | none => Stores db committed.envelope.sessionId (handleOffer ctx db raw committed).db
    | some signed =>
        Stores db committed.envelope.sessionId signed.db ∧
          (handleOffer ctx db raw committed).db =
            (ingestAccept signed.context signed.db signed.body).1 ∧
          ∀ db' ack, ingestAccept signed.context signed.db signed.body = (db', .ok ack) →
            (handleOffer ctx db raw committed).accept =
              some (sendAccept ctx db' committed.envelope.actorUsername signed.body) := by
  have hstored := storeOffer_stores ctx db committed.envelope (receivingAgent db committed.row)
  unfold handleOffer signedAccept?
  simp only
  rcases hoffer : storeOffer ctx db committed.envelope (receivingAgent db committed.row) with
    ⟨db1, e | _ | ⟨offer, x25519⟩⟩
  · rw [hoffer] at hstored
    exact hstored
  · rw [hoffer] at hstored
    exact hstored
  rw [hoffer] at hstored
  cases hhash : computeContentHash ctx.ext
      (acceptPayload offer.artifactId committed.envelope.sessionId) with
  | none => simpa [hhash] using hstored
  | some contentHash =>
  cases hkey : ctx.ownerIdentityKey <|> ctx.ext.loadPrivateKey db1.myUsername with
  | none => simpa [hhash, hkey] using hstored
  | some key =>
  simp only [hhash, hkey, Option.bind_eq_bind, Option.bind_some]
  refine ⟨hstored, ?_, fun db' ack hres => by rw [hres]⟩
  split <;> rename_i hres <;> rw [hres]

/-- The handling of an offer keeps custody if the acceptance it signs is refused
or, being sent, is kept. -/
theorem Custody.of_handleOffer {committed : Committed} (h : Custody kept db)
    (haccept : ∀ signed, signedAccept? ctx db committed = some signed →
      Refuses signed.context signed.db signed.body ∨
        ∀ t, (handleOffer ctx db raw committed).accept = some t → t.envelope = signed.body →
          kept signed.body) :
    Custody kept (handleOffer ctx db raw committed).db := by
  have hcases := handleOffer_signedAccept ctx db raw committed
  cases hsigned : signedAccept? ctx db committed with
  | none =>
      rw [hsigned] at hcases
      exact h.of_stores hcases
  | some signed =>
      rw [hsigned] at hcases
      obtain ⟨hstored, hdb, hsent⟩ := hcases
      rw [hdb]
      refine (h.of_stores hstored).of_ingestAccept fun envelope htakes => ?_
      obtain ⟨db', ack, hres⟩ := ingestAccept_of_takes htakes
      have hkept := (haccept signed hsigned).resolve_left fun hrefuses => hrefuses envelope htakes
      exact hkept _ (hsent db' ack hres) rfl

/-- A call of `ingest_envelope` keeps custody if its body is kept, in case it is
an accepted one of the owner, and so is the acceptance it signs on its own. -/
theorem Custody.of_ingestEnvelope (h : Custody kept db)
    (hbody : ∀ envelope, Takes ctx db raw envelope → envelope.actorUsername = db.myUsername →
      kept raw)
    (haccept : ∀ db' committed signed, ingestCommit ctx db raw = (db', .ok committed) →
      isPeerOffer db' committed.envelope = true → signedAccept? ctx db' committed = some signed →
      Refuses signed.context signed.db signed.body ∨
        ∀ t, (ingestEnvelope ctx db raw).accept = some t → t.envelope = signed.body →
          kept signed.body) :
    Custody kept (ingestEnvelope ctx db raw).db := by
  have hcommit := h.of_ingestCommit hbody
  unfold ingestEnvelope at haccept ⊢
  split
  · rename_i heq
    rw [heq] at hcommit
    exact hcommit
  rename_i db1 committed heq
  rw [heq] at hcommit
  simp only [heq] at haccept
  split
  · rename_i hoffer
    refine hcommit.of_handleOffer fun signed hsigned => ?_
    have hcase := haccept db1 committed signed rfl hoffer hsigned
    rw [if_pos hoffer] at hcase
    exact hcase
  · exact hcommit

/-- An accepted body that is no offer of the peer is committed and acknowledged. -/
theorem ingestEnvelope_of_accepts {base : Db} {stored : SessionRow} {state : SessionState}
    {participants : Dict String ParticipantInfo}
    (h : Accepts ctx db raw envelope base stored state participants)
    (hoffer : envelope.kind ≠ .artifactOffer ∨ envelope.actorUsername = db.myUsername) :
    ∃ db', Commits base envelope (finalState db state envelope participants).status ctx.now db' ∧
      ingestEnvelope ctx db raw = { db := db', exit := deliveredAck ctx raw envelope } := by
  obtain ⟨db', heq, hcommits⟩ := ingestCommit_of_accepts h
  have hmy : db'.myUsername = db.myUsername := by
    rw [Db.myUsername, hcommits.identity, h.loaded.base_identity, Db.myUsername]
  have hno : isPeerOffer db' envelope = false := by
    rcases hoffer with hkind | hactor
    · simp [isPeerOffer, hkind]
    · simp [isPeerOffer, hmy, hactor]
  exact ⟨db', hcommits, by simp [ingestEnvelope, heq, hno]⟩

/-! ### Bodies of the owner -/

section Own

variable (hactor : rawActorUsername raw = .text db.myUsername)
include hactor

theorem actor_of_own (hver : verified? ctx db raw = some envelope) :
    envelope.actorUsername = db.myUsername := by
  have hread := (readFrom_of_verified hver).actorUsername
  rw [hactor] at hread
  exact (PyStr.text.inj (Json.str.inj hread)).symm

/-- The owner's own body never gets to the handling of offers. -/
theorem ingestEnvelope_of_own :
    (ingestEnvelope ctx db raw).accept = none ∧
      ((∃ envelope, Takes ctx db raw envelope) →
        ∃ ack, (ingestEnvelope ctx db raw).exit = .ok ack ∧ ack.status = .delivered) := by
  rcases ingestCommit_cases ctx db raw with ⟨db', exit, heq, -⟩ |
    ⟨envelope, newRow, exit, -, -, heq, -⟩ |
    ⟨envelope, base, stored, state, participants, db', haccepts, heq, hcommits⟩
  · refine ⟨by simp [ingestEnvelope, heq], fun ⟨envelope, htakes⟩ => ?_⟩
    obtain ⟨_, h⟩ := htakes.commits
    rw [heq] at h
    cases h
  · refine ⟨by simp [ingestEnvelope, heq], fun ⟨envelope, htakes⟩ => ?_⟩
    obtain ⟨_, h⟩ := htakes.commits
    rw [heq] at h
    cases h
  obtain ⟨db'', -, hres⟩ := ingestEnvelope_of_accepts haccepts
    (.inr (actor_of_own hactor haccepts.verified))
  rw [hres]
  exact ⟨rfl, fun _ => deliveredAck_ok (readFrom_of_verified haccepts.verified) ctx⟩

/-- A body of the owner keeps custody if it is refused or kept. -/
theorem Custody.of_own (h : Custody kept db) (hbody : Refuses ctx db raw ∨ kept raw) :
    Custody kept (ingestEnvelope ctx db raw).db := by
  refine h.of_ingestEnvelope (fun envelope htakes _ => ?_) fun db' committed signed _ _ _ =>
    .inr fun t ht _ => ?_
  · exact hbody.resolve_left fun hrefuses => hrefuses envelope htakes
  · rw [(ingestEnvelope_of_own hactor).1] at ht
    cases ht

/-- Self-ingestion that raises has stored nothing. -/
theorem refuses_of_selfIngest {db' : Db} {e : PyExc}
    (h : selfIngest ctx db raw = (db', .error e)) : Refuses ctx db raw := by
  intro envelope htakes
  obtain ⟨ack, hack, hstatus⟩ := (ingestEnvelope_of_own hactor).2 ⟨envelope, htakes⟩
  simp [selfIngest, hack, hstatus] at h

end Own

theorem selfIngest_fst (ctx : IngestContext) (db : Db) (raw : Fields) :
    (selfIngest ctx db raw).1 = (ingestEnvelope ctx db raw).db := by
  unfold selfIngest
  simp only
  split
  · rfl
  · split <;> rfl

theorem selfIngest_of_rejected {ctx : IngestContext} {db : Db} {body : Fields}
    {ack : TransportAcknowledgement} (hack : (ingestEnvelope ctx db body).exit = .ok ack)
    (hrejected : ack.status = .rejected) :
    selfIngest ctx db body = ((ingestEnvelope ctx db body).db, .error .transportError) := by
  simp only [selfIngest, hack, if_pos hrejected]

end Kin.Node
