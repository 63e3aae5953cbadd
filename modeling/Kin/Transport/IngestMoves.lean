import Mathlib.Logic.Relation
import Kin.Transport.IngestSpec

/-!
A call of `ingest_envelope` as a short chain of moves. The offer handling adds
the storing of an artifact and the commit of an automatic acceptance to the
moves of the pipeline; a property that every move keeps is kept by the call.
-/

namespace Kin.Transport

open Kin.Py Kin.Lib Kin.Schemas Kin.Session Kin.Storage Kin.Audit Kin.Artifacts

/-! ### Storing an offer -/

def addBytes (n : Nat) (row : SessionRow) : SessionRow :=
  { row with cumulativeArtifactBytes := row.cumulativeArtifactBytes + n }

@[simp] theorem addBytes_zero (row : SessionRow) : addBytes 0 row = row := rfl

@[simp] theorem addBytes_sessionId (n : Nat) (row : SessionRow) :
    (addBytes n row).sessionId = row.sessionId := rfl

/-- At most the artifacts, the byte counter of one session and the audit table
differ. -/
def Stores (db : Db) (sid : String) (db' : Db) : Prop :=
  ∃ artifacts n, SameTables ((db.withArtifacts artifacts).updateSession sid (addBytes n)) db'

theorem stores_of_sameTables {db db' : Db} (sid : String) (h : SameTables db db') :
    Stores db sid db' := by
  refine ⟨db.artifacts, 0, ?_⟩
  rw [updateSession_eq_self addBytes_zero]
  exact h

/-- Storing changes at most the byte counter of a row. -/
theorem Stores.session? {db db' : Db} {sid : String} (h : Stores db sid db') (sid' : String) :
    ∃ n, db'.session? sid' = (db.session? sid').map (addBytes n) := by
  obtain ⟨artifacts, n, h⟩ := h
  by_cases hsid : sid' = sid
  · refine ⟨n, ?_⟩
    rw [h.session?, hsid, session?_updateSession_self (addBytes_sessionId n)]
    rfl
  · refine ⟨0, ?_⟩
    rw [h.session?, session?_updateSession_of_ne (addBytes_sessionId n) hsid]
    exact Option.map_id'.symm

theorem status?_of_stores {db db' : Db} {sid sid' : String} (h : Stores db sid db') :
    db'.status? sid' = db.status? sid' := by
  obtain ⟨n, hn⟩ := h.session? sid'
  rw [Db.status?, hn, Option.map_map, Db.status?]
  rfl

theorem Stores.sessionEvents {db db' : Db} {sid : String} (h : Stores db sid db') :
    db'.sessionEvents = db.sessionEvents := by
  obtain ⟨_, _, h⟩ := h
  rw [h.sessionEvents]
  rfl

theorem Stores.identity {db db' : Db} {sid : String} (h : Stores db sid db') :
    db'.identity = db.identity := by
  obtain ⟨_, _, h⟩ := h
  rw [h.identity]
  rfl

theorem Stores.myUsername {db db' : Db} {sid : String} (h : Stores db sid db') :
    db'.myUsername = db.myUsername := by
  rw [Db.myUsername, h.identity, Db.myUsername]

theorem incrementSessionArtifactBytes_eq (db : Db) (sid : String) (n : Nat) :
    incrementSessionArtifactBytes db sid n = db.updateSession sid (addBytes n) := by
  unfold incrementSessionArtifactBytes
  split
  · rename_i hn
    rw [hn, updateSession_eq_self addBytes_zero]
  · rfl

theorem storeOffer_stores (ctx : IngestContext) (db : Db) (envelope : SessionEnvelope)
    (agentId : Option String) :
    Stores db envelope.sessionId (storeOffer ctx db envelope agentId).1 := by
  have haudit : ∀ c s o a, Stores db envelope.sessionId (db.writeAuditEvent c s o a) :=
    fun c s o a => stores_of_sameTables _ (sameTables_writeAuditEvent db c s o a)
  unfold storeOffer
  simp only
  split
  · exact stores_of_sameTables _ (.refl db)
  split
  · exact haudit ..
  split
  · exact haudit ..
  split
  · exact haudit ..
  split
  · exact haudit ..
  split
  · exact haudit ..
  split
  · exact haudit ..
  · rename_i db' stored hstore
    rw [incrementSessionArtifactBytes_eq]
    obtain ⟨artifacts, rfl⟩ := storeArtifact_ok hstore
    exact ⟨artifacts, _, .refl _⟩

/-! ### The automatic acceptance -/

section Accept

variable (ctx : IngestContext) (db : Db) (sid artifactId : String) (agentId : Option String)
  (contentHash : String) (key : PrivateKey)

theorem rawKind_acceptEnvelope :
    rawKind (acceptEnvelope ctx db sid artifactId agentId contentHash key) =
      .text MessageKind.artifactAccept.value := rfl

theorem rawActorUsername_acceptEnvelope :
    rawActorUsername (acceptEnvelope ctx db sid artifactId agentId contentHash key) =
      .text db.myUsername := rfl

theorem rawSessionId_acceptEnvelope :
    rawSessionId (acceptEnvelope ctx db sid artifactId agentId contentHash key) = .text sid := rfl

end Accept

/-- The nested call verifies with the public key of the owner's own key. -/
def OwnKey (ctx under : IngestContext) (username : String) : Prop :=
  under.ext = ctx.ext ∧ ∃ key, (ctx.ownerIdentityKey <|> ctx.ext.loadPrivateKey username) = some key ∧
    under.getPublicKey (.text username) = some (ctx.ext.publicKeyOf key)

/-- Envelopes a call of `ingest_envelope` may commit, with the context and the
database they are committed under: the one its body verifies to, first, and an
automatic acceptance of the local identity. -/
def Handles (ctx : IngestContext) (db : Db) (raw : Fields) (under : IngestContext) (before : Db)
    (envelope : SessionEnvelope) : Prop :=
  under = ctx ∧ before = db ∧ verified? ctx db raw = some envelope ∨
    envelope.kind = .artifactAccept ∧ envelope.actorUsername = db.myUsername ∧
      OwnKey ctx under db.myUsername ∧ before.myUsername = db.myUsername

theorem readFrom_acceptEnvelope {ctx ctx' : IngestContext} {db db' : Db}
    {sid artifactId contentHash : String} {agentId : Option String} {key : PrivateKey}
    {envelope : SessionEnvelope}
    (h : verified? ctx' db' (acceptEnvelope ctx db sid artifactId agentId contentHash key) =
      some envelope) :
    envelope.kind = .artifactAccept ∧ envelope.actorUsername = db.myUsername ∧
      envelope.sessionId = sid := by
  have hread := readFrom_of_verified h
  have hkind := hread.kind
  have hactor := hread.actorUsername
  have hsid := hread.sessionId
  rw [rawKind_acceptEnvelope] at hkind
  rw [rawActorUsername_acceptEnvelope] at hactor
  rw [rawSessionId_acceptEnvelope] at hsid
  simp only [Json.str.injEq, PyStr.text.injEq, MessageKind.value_inj] at hkind hactor hsid
  exact ⟨hkind.symm, hactor.symm, hsid.symm⟩

/-- How the handling of an offer ends: the artifact is stored or refused, and
at most one automatic acceptance is ingested after that. -/
theorem handleOffer_cases (ctx : IngestContext) (db : Db) (raw : Fields) (committed : Committed) :
    ∃ db', Stores db committed.envelope.sessionId db' ∧
      ((handleOffer ctx db raw committed).db = db' ∨
        ∃ ctx' accept, OwnKey ctx ctx' db.myUsername ∧ ctx'.now = ctx.now ∧
          (handleOffer ctx db raw committed).db = (ingestCommit ctx' db' accept).1 ∧
          ∀ envelope, verified? ctx' db' accept = some envelope →
            envelope.kind = .artifactAccept ∧ envelope.actorUsername = db.myUsername ∧
              envelope.sessionId = committed.envelope.sessionId) := by
  have hstores := storeOffer_stores ctx db committed.envelope (receivingAgent db committed.row)
  refine ⟨_, hstores, ?_⟩
  unfold handleOffer
  simp only
  split
  · rename_i h
    rw [h]
    exact .inl rfl
  · rename_i h
    rw [h]
    exact .inl rfl
  rename_i db' offer x25519 h
  rw [h] at hstores ⊢
  split
  · exact .inl rfl
  rename_i contentHash _
  split
  · exact .inl rfl
  rename_i key hkey
  right
  refine ⟨acceptContext ctx db' key x25519, acceptEnvelope ctx db' committed.envelope.sessionId
    offer.artifactId (receivingAgent db committed.row) contentHash key, ⟨rfl, key, ?_, ?_⟩, rfl, ?_,
    ?_⟩
  · rw [← hstores.myUsername]
    exact hkey
  · simp [acceptContext, asText, hstores.myUsername]
  · unfold ingestAccept
    split
    · rename_i heq
      split at heq <;> simp_all
    · rename_i heq
      split at heq <;> simp_all
  · intro envelope hver
    obtain ⟨hkind, hactor, hsid⟩ := readFrom_acceptEnvelope hver
    exact ⟨hkind, by rw [hactor, hstores.myUsername], hsid⟩

/-! ### Moves -/

/-- One move of a call. `envelopes` says which envelopes may be committed under
which context and into which database. -/
inductive Move (ext : Externals) (now : Instant)
    (envelopes : IngestContext → Db → SessionEnvelope → Prop) : Db → Db → Prop
  | expire {db db' : Db} (h : Expires now db db') : Move ext now envelopes db db'
  | create {ctx : IngestContext} {db : Db} {raw : Fields} {envelope : SessionEnvelope}
      {row : SessionRow} (hnow : ctx.now = now) (henv : envelopes ctx db envelope)
      (hver : verified? ctx db raw = some envelope)
      (hnone : db.session? envelope.sessionId = none) (hcreates : Creates ctx db envelope row) :
      Move ext now envelopes db (db.addSession row)
  | commit {ctx : IngestContext} {db base db' : Db} {raw : Fields} {envelope : SessionEnvelope}
      {stored : SessionRow} {state : SessionState} {participants : Dict String ParticipantInfo}
      (hext : ctx.ext = ext) (hnow : ctx.now = now) (henv : envelopes ctx db envelope)
      (haccepts : Accepts ctx db raw envelope base stored state participants)
      (hcommits : Commits base envelope (finalState db state envelope participants).status now
        db') :
      Move ext now envelopes db db'
  | store {db db' : Db} {sid : String} (h : Stores db sid db') : Move ext now envelopes db db'

theorem Move.mono {ext : Externals} {now : Instant}
    {envelopes envelopes' : IngestContext → Db → SessionEnvelope → Prop}
    (hsub : ∀ under before envelope, envelopes under before envelope →
      envelopes' under before envelope)
    {db db' : Db}
    (h : Move ext now envelopes db db') : Move ext now envelopes' db db' := by
  cases h with
  | expire h => exact .expire h
  | create hnow henv hver hnone hcreates =>
      exact .create hnow (hsub _ _ _ henv) hver hnone hcreates
  | commit hext hnow henv haccepts hcommits => exact .commit hext hnow (hsub _ _ _ henv) haccepts hcommits
  | store h => exact .store h

theorem Loaded.base_identity {ctx : IngestContext} {db base : Db} {envelope : SessionEnvelope}
    {stored : SessionRow} {state : SessionState} (h : Loaded ctx db envelope base stored state) :
    base.identity = db.identity := by
  cases h <;> rfl

theorem Expires.identity {now : Instant} {db db' : Db} (h : Expires now db db') :
    db'.identity = db.identity := by
  rcases h with h | ⟨sid, row, -, -, h⟩
  · exact h.identity
  · rw [SameTables.identity h]
    rfl

theorem Move.identity {ext : Externals} {now : Instant}
    {envelopes : IngestContext → Db → SessionEnvelope → Prop} {db db' : Db}
    (h : Move ext now envelopes db db') : db'.identity = db.identity := by
  cases h with
  | expire h => exact h.identity
  | create => rfl
  | commit _ _ _ haccepts hcommits => rw [hcommits.identity, haccepts.loaded.base_identity]
  | store h => exact h.identity

theorem Move.outside {ext : Externals} {now : Instant}
    {envelopes : IngestContext → Db → SessionEnvelope → Prop} {db db' : Db}
    (h : Move ext now envelopes db db') :
    db'.contacts = db.contacts ∧ db'.outboundEnvelopeQueue = db.outboundEnvelopeQueue := by
  cases h with
  | expire h =>
      rcases h with h | ⟨sid, row, -, -, h⟩
      · exact ⟨h.contacts, h.outboundEnvelopeQueue⟩
      · rw [SameTables.contacts h, SameTables.outboundEnvelopeQueue h]
        exact ⟨rfl, rfl⟩
  | create => exact ⟨rfl, rfl⟩
  | commit _ _ _ haccepts hcommits =>
      rw [hcommits.contacts, hcommits.outboundEnvelopeQueue]
      cases haccepts.loaded <;> exact ⟨rfl, rfl⟩
  | store h =>
      obtain ⟨_, _, h⟩ := h
      exact ⟨h.contacts, h.outboundEnvelopeQueue⟩

theorem ingestCommit_move {ctx : IngestContext} {db : Db} {raw : Fields}
    {envelopes : IngestContext → Db → SessionEnvelope → Prop}
    (h : ∀ envelope, verified? ctx db raw = some envelope → envelopes ctx db envelope) :
    Move ctx.ext ctx.now envelopes db (ingestCommit ctx db raw).1 := by
  rcases ingestCommit_cases ctx db raw with ⟨db', exit, heq, hexp⟩ |
    ⟨envelope, newRow, exit, hver, hopens, heq, -⟩ |
    ⟨envelope, base, stored, state, participants, db', haccepts, heq, hcommits⟩
  · rw [heq]
    exact .expire hexp
  · rw [heq]
    exact .create rfl (h envelope hver) hver hopens.absent hopens.creates
  · rw [heq]
    exact .commit rfl rfl (h envelope haccepts.verified) haccepts hcommits

/-- A call of `ingest_envelope` is a chain of moves. -/
theorem ingestEnvelope_moves (ctx : IngestContext) (db : Db) (raw : Fields) :
    Relation.ReflTransGen (Move ctx.ext ctx.now (Handles ctx db raw)) db
      (ingestEnvelope ctx db raw).db := by
  have hfirst : Move ctx.ext ctx.now (Handles ctx db raw) db (ingestCommit ctx db raw).1 :=
    ingestCommit_move fun envelope hver => .inl ⟨rfl, rfl, hver⟩
  unfold ingestEnvelope
  split
  · rename_i heq
    rw [heq] at hfirst
    exact .single hfirst
  rename_i db1 committed heq
  rw [heq] at hfirst
  split
  · have hmy : db1.myUsername = db.myUsername := by
      rw [Db.myUsername, hfirst.identity, Db.myUsername]
    obtain ⟨db2, hstores, hend | ⟨ctx', accept, hown, hnow, hend, hkind⟩⟩ :=
      handleOffer_cases ctx db1 raw committed
    · rw [hend]
      exact .tail (.single hfirst) (.store hstores)
    · rw [hmy] at hown
      rw [hend, ← hown.1, ← hnow]
      rw [← hown.1, ← hnow] at hfirst
      refine .tail (.tail (.single hfirst) (.store hstores)) (ingestCommit_move ?_)
      intro envelope hver
      obtain ⟨hk, ha, -⟩ := hkind envelope hver
      exact .inr ⟨hk, ha.trans hmy, hown, hstores.myUsername.trans hmy⟩
  · exact .single hfirst

/-- Ingestion leaves identity, contacts and queue alone. -/
theorem ingestEnvelope_outside (ctx : IngestContext) (db : Db) (raw : Fields) :
    (ingestEnvelope ctx db raw).db.identity = db.identity ∧
      (ingestEnvelope ctx db raw).db.contacts = db.contacts ∧
      (ingestEnvelope ctx db raw).db.outboundEnvelopeQueue = db.outboundEnvelopeQueue := by
  have hmoves := ingestEnvelope_moves ctx db raw
  generalize (ingestEnvelope ctx db raw).db = db' at hmoves ⊢
  induction hmoves with
  | refl => exact ⟨rfl, rfl, rfl⟩
  | tail _ hlast ih =>
      obtain ⟨hcontacts, hqueue⟩ := hlast.outside
      exact ⟨hlast.identity.trans ih.1, hcontacts.trans ih.2.1, hqueue.trans ih.2.2⟩

end Kin.Transport
