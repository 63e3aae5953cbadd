import Kin.Lib.Tally
import Kin.Node.TurnMoves
import Kin.Session.Invocation

/-!
The byte counters of sessions beside the vault. A turn counts what it stores. An
offer is counted whenever `store_artifact` returns, also when the artifact was
there before, so the counters hold the stored sizes as long as no offer brings
bytes that the vault already has under its artifact id.
-/

namespace Kin.Node

open Kin.Py Kin.Lib Kin.Schemas Kin.Session Kin.Storage Kin.Audit Kin.Artifacts Kin.Policy
  Kin.Transport

/-- `cumulative_artifact_bytes` of a session. -/
def bytesCounted (db : Db) (sid : String) : Option Nat :=
  (db.session? sid).map (·.cumulativeArtifactBytes)

def sizeBytes (art : ArtifactRow) : Nat := art.bytes.length

/-- Every session's counter is the sum of `size_bytes` over its artifacts. -/
def Accounted (db : Db) : Prop :=
  Counted ArtifactRow.sessionId sizeBytes db.artifacts (bytesCounted db)

/-- The counters are right, and every artifact's session exists. -/
def Tallied (db : Db) : Prop :=
  Balanced ArtifactRow.sessionId sizeBytes db.artifacts (bytesCounted db)

/-! ### What leaves the tally alone -/

/-- The vault is as before, with what decides about offers, and at most new sessions
are counted, from zero. -/
structure Undisturbed (db db' : Db) : Prop where
  artifacts : db'.artifacts = db.artifacts
  agents : db'.agents = db.agents
  identity : db'.identity = db.identity
  contacts : db'.contacts = db.contacts
  counters : CountersOpen (bytesCounted db) (bytesCounted db')

theorem Tallied.undisturbed {db db' : Db} (h : Tallied db) (hdb : Undisturbed db db') :
    Tallied db' := by
  unfold Tallied
  rw [hdb.artifacts]
  exact Balanced.opened h hdb.counters

theorem not_accounted_of_undisturbed {db db' : Db} (h : ¬Accounted db) (hdb : Undisturbed db db') :
    ¬Accounted db' := by
  unfold Accounted
  rw [hdb.artifacts]
  exact not_counted_of_opened h hdb.counters

theorem bytesCounted_updateSession {db : Db} {sid : String} {f : SessionRow → SessionRow}
    (hsid : ∀ row, (f row).sessionId = row.sessionId)
    (hf : ∀ row, (f row).cumulativeArtifactBytes = row.cumulativeArtifactBytes) :
    bytesCounted (db.updateSession sid f) = bytesCounted db := by
  funext sid'
  unfold bytesCounted
  by_cases h : sid' = sid
  · subst h
    rw [session?_updateSession_self hsid, Option.map_map]
    congr 1
    funext row
    exact hf row
  · rw [session?_updateSession_of_ne hsid h]

/-- The counter that storing moves. -/
theorem bytesCounted_addBytes (db : Db) (sid : String) (n : Nat) :
    bytesCounted (db.updateSession sid (addBytes n)) = bump (bytesCounted db) sid n := by
  funext sid'
  by_cases h : sid' = sid
  · subst h
    rw [bump, Function.update_self, bytesCounted, bytesCounted,
      session?_updateSession_self (addBytes_sessionId n), Option.map_map, Option.map_map]
    rfl
  · rw [bump, Function.update_of_ne h, bytesCounted, bytesCounted,
      session?_updateSession_of_ne (addBytes_sessionId n) h]

theorem cumulativeArtifactBytes_of_creates {ctx : IngestContext} {db : Db}
    {envelope : SessionEnvelope} {row : SessionRow} (h : Creates ctx db envelope row) :
    row.cumulativeArtifactBytes = 0 := by
  obtain ⟨type, -, hrow⟩ := h
  simp only [bootstrapRow, bind, Except.bind, pure, Except.pure] at hrow
  repeat' split at hrow
  all_goals cases hrow
  rfl

namespace Undisturbed

variable {a b c db db' : Db}

theorem refl (db : Db) : Undisturbed db db := ⟨rfl, rfl, rfl, rfl, .refl _⟩

theorem trans (hab : Undisturbed a b) (hbc : Undisturbed b c) : Undisturbed a c where
  artifacts := hbc.artifacts.trans hab.artifacts
  agents := hbc.agents.trans hab.agents
  identity := hbc.identity.trans hab.identity
  contacts := hbc.contacts.trans hab.contacts
  counters := hab.counters.trans hbc.counters

theorem of_sameTables (h : SameTables db db') : Undisturbed db db' := by
  obtain ⟨_, rfl⟩ := h
  exact ⟨rfl, rfl, rfl, rfl, .refl _⟩

theorem of_sameSessions (h : SameSessions db db') : Undisturbed db db' := by
  obtain ⟨_, _, rfl⟩ := h
  exact ⟨rfl, rfl, rfl, rfl, .refl _⟩

theorem of_appended {ev : NewEvent} (h : Appended db ev db') : Undisturbed db db' := by
  obtain ⟨_, rfl⟩ := h
  exact ⟨rfl, rfl, rfl, rfl, .refl _⟩

theorem of_update (db : Db) (sid : String) {f : SessionRow → SessionRow}
    (hsid : ∀ row, (f row).sessionId = row.sessionId)
    (hf : ∀ row, (f row).cumulativeArtifactBytes = row.cumulativeArtifactBytes) :
    Undisturbed db (db.updateSession sid f) where
  artifacts := rfl
  agents := rfl
  identity := rfl
  contacts := rfl
  counters := by
    rw [bytesCounted_updateSession hsid hf]
    exact .refl _

theorem of_statusWritten {sid : String} {status : Status} {now : Instant}
    (h : StatusWritten db sid status now db') : Undisturbed db db' :=
  (of_update db sid (setStatus_sessionId status now) fun _ => rfl).trans (of_sameTables h)

theorem of_expires {now : Instant} (h : Expires now db db') : Undisturbed db db' := by
  rcases h with hsame | ⟨_, _, -, -, hw⟩
  · exact of_sameTables hsame
  · exact of_statusWritten hw

theorem of_creates {ctx : IngestContext} {envelope : SessionEnvelope} {row : SessionRow}
    (hnone : db.session? envelope.sessionId = none) (h : Creates ctx db envelope row) :
    Undisturbed db (db.addSession row) where
  artifacts := rfl
  agents := rfl
  identity := rfl
  contacts := rfl
  counters := by
    have hid := (newRow_of_creates h).sessionId
    intro sid
    by_cases hsid : sid = row.sessionId
    · subst hsid
      rw [hid]
      right
      rw [← hid] at hnone ⊢
      rw [bytesCounted, bytesCounted, hnone, session?_addSession_self hnone]
      exact ⟨rfl, congrArg some (cumulativeArtifactBytes_of_creates h)⟩
    · left
      rw [bytesCounted, session?_addSession_of_ne hsid, bytesCounted]

theorem of_loaded {ctx : IngestContext} {envelope : SessionEnvelope} {stored : SessionRow}
    {state : SessionState} (h : Loaded ctx db envelope db' stored state) : Undisturbed db db' := by
  cases h with
  | stored hrow => exact refl db
  | created hnone hkind hcreates hreceiver => exact of_creates hnone hcreates

theorem of_commits {envelope : SessionEnvelope} {status : Status} {now : Instant}
    (h : Commits db envelope status now db') : Undisturbed db db' := by
  have haccepted : Undisturbed db (db.updateSession envelope.sessionId (acceptedRow envelope)) := by
    refine of_update db _ acceptedRow_sessionId fun row => ?_
    unfold acceptedRow
    split
    · split
      · split <;> rfl
      · rfl
    · rfl
  have hcommitted : Undisturbed db (committed db envelope status now) :=
    haccepted.trans ((of_appended ⟨_, rfl⟩).trans
      (of_update _ _ (setStatus_sessionId status now) fun _ => rfl))
  rcases h with hsame | ⟨-, ev, -, -, -, happ⟩
  · exact hcommitted.trans (of_sameTables hsame)
  · exact hcommitted.trans (of_appended happ)

/-- Everything up to the commit of an envelope. -/
theorem ingestCommit (ctx : IngestContext) (db : Db) (raw : Fields) :
    Undisturbed db (ingestCommit ctx db raw).1 := by
  rcases ingestCommit_cases ctx db raw with ⟨_, _, heq, hexp⟩ | ⟨_, _, _, -, hopens, heq, -⟩ |
    ⟨_, _, _, _, _, _, haccepts, heq, hcommits⟩
  · rw [heq]
    exact of_expires hexp
  · rw [heq]
    exact of_creates hopens.absent hopens.creates
  · rw [heq]
    exact (of_loaded haccepts.loaded).trans (of_commits hcommits)

end Undisturbed

/-! ### Offers -/

/-- The offer passes every check before the vault, and these are its bytes. -/
structure Unpacks (ctx : IngestContext) (db : Db) (envelope : SessionEnvelope)
    (agentId : Option String) (offer : ArtifactOffer) (bytes : Bytes) (key : PrivateKey) :
    Prop where
  valid : validateArtifactOffer ctx.ext envelope.payload = some offer
  declaredSize : offer.sizeBytes ≤ receiverMaxBytes db agentId
  present : (envelope.payload.getD "encrypted_bytes_b64" .null).truthy = true
  opened : decryptOffer ctx db envelope (envelope.payload.getD "encrypted_bytes_b64" .null) =
    some (bytes, key)
  hash : ctx.ext.sha256Hex bytes = offer.sha256
  size : bytes.length ≤ receiverMaxBytes db agentId

structure OfferedRow (envelope : SessionEnvelope) (bytes : Bytes) (row : ArtifactRow) : Prop where
  sessionId : row.sessionId = envelope.sessionId
  bytes : row.bytes = bytes

section Offers

variable {ctx : IngestContext} {db : Db} {envelope : SessionEnvelope} {agentId : Option String}
  {offer : ArtifactOffer} {bytes : Bytes} {key : PrivateKey} {stored : ArtifactRow}

/-- The vault knows the artifact: its bytes are counted and nothing is stored. -/
theorem storeOffer_of_known (h : Unpacks ctx db envelope agentId offer bytes key)
    (hknown : Rows.lookup ArtifactRow.artifactId db.artifacts offer.artifactId = some stored)
    (hsha : stored.sha256 = offer.sha256) :
    (storeOffer ctx db envelope agentId).1 =
      db.updateSession envelope.sessionId (addBytes bytes.length) := by
  have hdeclared : ¬receiverMaxBytes db agentId < offer.sizeBytes := Int.not_lt.mpr h.declaredSize
  have hsize : ¬receiverMaxBytes db agentId < bytes.length := Int.not_lt.mpr h.size
  simp [storeOffer, h.valid, hdeclared, h.present, h.opened, h.hash, hsize, storeArtifact,
    artifactRow, hknown, hsha, incrementSessionArtifactBytes_eq]

/-- An offer is refused, or counted and stored, or counted because it is known. -/
theorem storeOffer_cases (ctx : IngestContext) (db : Db) (envelope : SessionEnvelope)
    (agentId : Option String) :
    SameTables db (storeOffer ctx db envelope agentId).1 ∨
    (∃ bytes row, OfferedRow envelope bytes row ∧
      (storeOffer ctx db envelope agentId).1 =
        (db.withArtifacts (db.artifacts ++ [row])).updateSession envelope.sessionId
          (addBytes bytes.length)) ∨
    ∃ offer bytes key stored, Unpacks ctx db envelope agentId offer bytes key ∧
      Rows.lookup ArtifactRow.artifactId db.artifacts offer.artifactId = some stored ∧
      stored.sha256 = offer.sha256 := by
  unfold storeOffer
  simp only
  split
  · exact .inl (.refl db)
  rename_i offer hvalid
  split
  · exact .inl (sameTables_writeAuditEvent ..)
  rename_i hdeclared
  split
  · exact .inl (sameTables_writeAuditEvent ..)
  rename_i hpresent
  split
  · exact .inl (sameTables_writeAuditEvent ..)
  rename_i bytes key hopened
  split
  · exact .inl (sameTables_writeAuditEvent ..)
  rename_i hhash
  split
  · exact .inl (sameTables_writeAuditEvent ..)
  rename_i hsize
  have hunpacks : Unpacks ctx db envelope agentId offer bytes key :=
    { valid := hvalid
      declaredSize := Int.not_lt.mp hdeclared
      present := by simpa using hpresent
      opened := hopened
      hash := by simpa using hhash
      size := Int.not_lt.mp hsize }
  split
  · exact .inl (sameTables_writeAuditEvent ..)
  rename_i db' row hstore
  unfold storeArtifact at hstore
  simp only [hsize, if_false, Option.bind_some] at hstore
  split at hstore
  · rename_i stored hknown
    split at hstore
    · rename_i hsha
      exact .inr (.inr ⟨offer, bytes, key, stored, hunpacks, hknown, hsha.trans hunpacks.hash⟩)
    · cases hstore
  · cases hstore
    rw [incrementSessionArtifactBytes_eq]
    exact .inr (.inl ⟨bytes, _, ⟨rfl, rfl⟩, rfl⟩)

/-- After the vault an offer is at most answered. -/
theorem undisturbed_handleOffer (ctx : IngestContext) (db : Db) (raw : Fields)
    (committed : Committed) :
    Undisturbed (storeOffer ctx db committed.envelope (receivingAgent db committed.row)).1
      (handleOffer ctx db raw committed).db := by
  unfold handleOffer
  simp only
  split
  · rename_i heq
    rw [heq]
    exact .refl _
  · rename_i heq
    rw [heq]
    exact .refl _
  rename_i db' offer x25519 heq
  rw [heq]
  split
  · exact .refl _
  rename_i contentHash _
  split
  · exact .refl _
  rename_i key _
  have hcommit := Undisturbed.ingestCommit (acceptContext ctx db' key x25519) db'
    (acceptEnvelope ctx db' committed.envelope.sessionId offer.artifactId
      (receivingAgent db committed.row) contentHash key)
  unfold ingestAccept
  split
  · rename_i hend
    split at hend <;> simp_all
  · rename_i hend
    split at hend <;> simp_all

end Offers

/-! ### A call of ingestion -/

section Ingestion

variable {ctx : IngestContext} {db db' : Db} {raw : Fields} {envelope : SessionEnvelope}

/-- The verified offer is somebody else's, passes the checks, and brings bytes that the
vault has under the offered id. -/
structure Reoffer (ctx : IngestContext) (db : Db) (envelope : SessionEnvelope)
    (offer : ArtifactOffer) (bytes : Bytes) (key : PrivateKey) (known : ArtifactRow) : Prop where
  peer : isPeerOffer db envelope = true
  unpacks : Unpacks ctx db envelope (receivingAgent db (db.session? envelope.sessionId)) offer bytes
    key
  found : Rows.lookup ArtifactRow.artifactId db.artifacts offer.artifactId = some known
  sameHash : known.sha256 = offer.sha256
  nonempty : 0 < bytes.length

/-- The body is accepted, and offers what the vault has. -/
def Reoffers (ctx : IngestContext) (db : Db) (raw : Fields) : Prop :=
  ∃ envelope base stored state participants offer bytes key known,
    Accepts ctx db raw envelope base stored state participants ∧
      Reoffer ctx db envelope offer bytes key known

namespace Undisturbed

theorem myUsername (h : Undisturbed db db') : db'.myUsername = db.myUsername := by
  rw [Db.myUsername, h.identity, Db.myUsername]

theorem isPeerOffer (h : Undisturbed db db') (envelope : SessionEnvelope) :
    isPeerOffer db' envelope = isPeerOffer db envelope := by
  rw [Transport.isPeerOffer, h.myUsername, Transport.isPeerOffer]

theorem receivingAgent (h : Undisturbed db db') (row : Option SessionRow) :
    receivingAgent db' row = receivingAgent db row := by
  rw [Transport.receivingAgent, h.myUsername, Transport.receivingAgent]

theorem receiverMaxBytes (h : Undisturbed db db') (agentId : Option String) :
    receiverMaxBytes db' agentId = receiverMaxBytes db agentId := by
  simp only [Transport.receiverMaxBytes, Db.getCard, h.agents]

theorem decryptOffer (h : Undisturbed db db') (wire : Json) :
    decryptOffer ctx db' envelope wire = decryptOffer ctx db envelope wire := by
  simp only [Transport.decryptOffer, Db.resolvePeerContactInfo, h.contacts, h.identity]

theorem unpacks (h : Undisturbed db db') {agentId : Option String} {offer : ArtifactOffer}
    {bytes : Bytes} {key : PrivateKey} :
    Unpacks ctx db' envelope agentId offer bytes key ↔
      Unpacks ctx db envelope agentId offer bytes key := by
  constructor
  · intro hdb
    have hdeclared := hdb.declaredSize
    have hopened := hdb.opened
    have hsize := hdb.size
    rw [h.receiverMaxBytes] at hdeclared hsize
    rw [h.decryptOffer] at hopened
    exact ⟨hdb.valid, hdeclared, hdb.present, hopened, hdb.hash, hsize⟩
  · intro hdb
    have hdeclared := hdb.declaredSize
    have hopened := hdb.opened
    have hsize := hdb.size
    rw [← h.receiverMaxBytes] at hdeclared hsize
    rw [← h.decryptOffer] at hopened
    exact ⟨hdb.valid, hdeclared, hdb.present, hopened, hdb.hash, hsize⟩

end Undisturbed

/-- An accepted offer of somebody else reaches the vault, and its session is there to be
counted. -/
theorem ingestEnvelope_of_offer {base : Db} {stored : SessionRow} {state : SessionState}
    {participants : Dict String ParticipantInfo}
    (haccepts : Accepts ctx db raw envelope base stored state participants)
    (hpeer : isPeerOffer db envelope = true) :
    ∃ db1, Undisturbed db db1 ∧ (bytesCounted db1 envelope.sessionId).isSome = true ∧
      Undisturbed
        (storeOffer ctx db1 envelope (receivingAgent db (db.session? envelope.sessionId))).1
        (ingestEnvelope ctx db raw).db := by
  obtain ⟨db1, heq, hcommits⟩ := ingestCommit_of_accepts haccepts
  have hdb1 : Undisturbed db db1 :=
    (Undisturbed.of_loaded haccepts.loaded).trans (.of_commits hcommits)
  have hcounted : (bytesCounted base envelope.sessionId).isSome = true := by
    rw [bytesCounted, haccepts.loaded.base_session?]
    rfl
  refine ⟨db1, hdb1, (Undisturbed.of_commits hcommits).counters.isSome hcounted, ?_⟩
  have hoffer := undisturbed_handleOffer ctx db1 raw ⟨envelope, db.session? envelope.sessionId⟩
  rw [hdb1.receivingAgent] at hoffer
  unfold ingestEnvelope
  rw [heq]
  simpa only [hdb1.isPeerOffer, hpeer, if_true] using hoffer

/-- Any other body leaves the tally alone. -/
theorem undisturbed_ingestEnvelope
    (hno : ∀ envelope base stored state participants,
      Accepts ctx db raw envelope base stored state participants →
        isPeerOffer db envelope = false) :
    Undisturbed db (ingestEnvelope ctx db raw).db := by
  have hcommit := Undisturbed.ingestCommit ctx db raw
  unfold ingestEnvelope
  rcases ingestCommit_cases ctx db raw with ⟨_, _, heq, -⟩ | ⟨_, _, _, -, -, heq, -⟩ |
    ⟨envelope, _, _, _, _, _, haccepts, heq, -⟩
  · rw [heq] at hcommit ⊢
    exact hcommit
  · rw [heq] at hcommit ⊢
    exact hcommit
  · rw [heq] at hcommit ⊢
    simpa only [hcommit.isPeerOffer, hno _ _ _ _ _ haccepts, Bool.false_eq_true, if_false] using
      hcommit

/-- A stored offer brings the artifact and its size. -/
theorem Tallied.store {db : Db} (h : Tallied db) {bytes : Bytes} {row : ArtifactRow}
    (hrow : OfferedRow envelope bytes row)
    (hcounted : (bytesCounted db envelope.sessionId).isSome = true) :
    Tallied ((db.withArtifacts (db.artifacts ++ [row])).updateSession envelope.sessionId
      (addBytes bytes.length)) := by
  unfold Tallied at h ⊢
  rw [bytesCounted_addBytes, ← hrow.sessionId, ← hrow.bytes]
  rw [← hrow.sessionId] at hcounted
  exact h.add hcounted

theorem tallied_ingestEnvelope (h : Tallied db) (hno : ¬Reoffers ctx db raw) :
    Tallied (ingestEnvelope ctx db raw).db := by
  by_cases hoffer : ∃ envelope base stored state participants,
      Accepts ctx db raw envelope base stored state participants ∧ isPeerOffer db envelope = true
  · obtain ⟨envelope, base, stored, state, participants, haccepts, hpeer⟩ := hoffer
    obtain ⟨db1, hdb1, hcounted, hend⟩ := ingestEnvelope_of_offer haccepts hpeer
    have htallied := h.undisturbed hdb1
    refine Tallied.undisturbed ?_ hend
    rcases storeOffer_cases ctx db1 envelope
        (receivingAgent db (db.session? envelope.sessionId)) with
      hsame | ⟨bytes, row, hrow, heq⟩ | ⟨offer, bytes, key, known, hunpacks, hknown, hsha⟩
    · exact htallied.undisturbed (.of_sameTables hsame)
    · rw [heq]
      exact htallied.store hrow hcounted
    · rw [storeOffer_of_known hunpacks hknown hsha]
      rw [hdb1.unpacks] at hunpacks
      rw [hdb1.artifacts] at hknown
      have hempty : bytes.length = 0 := by
        by_contra hne
        exact hno ⟨envelope, base, stored, state, participants, offer, bytes, key, known, haccepts,
          hpeer, hunpacks, hknown, hsha, Nat.pos_of_ne_zero hne⟩
      rw [hempty, updateSession_eq_self addBytes_zero]
      exact htallied
  · refine h.undisturbed (undisturbed_ingestEnvelope ?_)
    intro envelope base stored state participants haccepts
    by_contra hpeer
    exact hoffer ⟨envelope, base, stored, state, participants, haccepts, by simpa using hpeer⟩

/-- What is offered again is counted again. -/
theorem not_accounted_of_reoffers (h : Tallied db) (hagain : Reoffers ctx db raw) :
    ¬Accounted (ingestEnvelope ctx db raw).db := by
  obtain ⟨envelope, base, stored, state, participants, offer, bytes, key, known, haccepts,
    hoffer⟩ := hagain
  obtain ⟨db1, hdb1, hcounted, hend⟩ := ingestEnvelope_of_offer haccepts hoffer.peer
  have hknown := hoffer.found
  rw [← hdb1.artifacts] at hknown
  refine not_accounted_of_undisturbed ?_ hend
  rw [storeOffer_of_known (hdb1.unpacks.mpr hoffer.unpacks) hknown hoffer.sameHash]
  unfold Accounted
  rw [bytesCounted_addBytes]
  exact Balanced.not_counted_bump (h.undisturbed hdb1) hcounted hoffer.nonempty

end Ingestion

/-! ### A turn -/

section Turn

variable {sender : Sender} {sid agentId : String} {turn : Turn} {db : Db}

theorem undisturbed_turnCommand (db : Db) (command : NodeCommand) :
    Undisturbed db (turnCommand sender sid db command) := by
  rcases applyNodeCommandTransition_cases sender.ext db sid command sender.now with
    ⟨_, _, -, -, -, hw, -⟩ | ⟨hsame, -, -⟩
  · exact .of_statusWritten hw
  · exact .of_sameTables hsame

variable (sender sid agentId) in
theorem undisturbed_appendActivities (db : Db) (events : List AdapterEvent) :
    Undisturbed db (appendActivities sender sid agentId db events).1 := by
  induction events generalizing db with
  | nil => exact .refl db
  | cons event events ih =>
      cases event with
      | activity label =>
          have hone : Undisturbed db (appendSessionEvent sender.ext db
              (activityEvent sender sid agentId label)).1 := by
            rcases appendSessionEvent_cases sender.ext db (activityEvent sender sid agentId label)
              with ⟨happ, -⟩ | ⟨hsame, -⟩
            · exact .of_appended happ
            · exact .of_sameTables hsame
          unfold appendActivities
          split
          · rename_i heq
            rw [heq] at hone
            exact hone
          · rename_i heq
            rw [heq] at hone
            exact hone.trans (ih _)
      | approvalRequest approvalId requestSession actionClass expiresAt => exact ih db
      | other => exact ih db

theorem undisturbed_awaitApproval
    (db : Db) (approvalId requestSession actionClass expiresAt : String) :
    Undisturbed db
      (awaitApproval sender sid agentId db approvalId requestSession actionClass expiresAt).db := by
  unfold awaitApproval createPendingApproval
  split
  · exact .refl db
  · rename_i db1 hdb
    split at hdb
    · cases hdb
    · cases hdb
      exact (Undisturbed.of_sameSessions ⟨_, sameTables_writeAuditEvent ..⟩).trans
        (undisturbed_turnCommand ..)

theorem undisturbed_evaluateAction (turn : Turn) (db : Db) (actionClass : String) :
    Undisturbed db (evaluateAction turn db actionClass).1 :=
  .of_sameSessions ⟨_, .refl _⟩

theorem undisturbed_audit (db : Db) (category summary : String) (sid actor : Option String) :
    Undisturbed db (db.writeAuditEvent category summary sid actor) :=
  .of_sameTables (sameTables_writeAuditEvent ..)

variable (sender sid agentId turn) in
theorem undisturbed_gateApprovals (db : Db) (events : List AdapterEvent) :
    Undisturbed db (stageDb (gateApprovals sender sid agentId turn db events)) := by
  induction events generalizing db with
  | nil => exact .refl db
  | cons event events ih =>
      cases event with
      | activity label => exact ih db
      | other => exact ih db
      | approvalRequest approvalId requestSession actionClass expiresAt =>
          have hevaluate := undisturbed_evaluateAction turn db actionClass
          unfold gateApprovals
          simp only
          split
          · exact hevaluate
          · exact hevaluate.trans (ih _)
          · exact hevaluate.trans ((undisturbed_audit ..).trans (ih _))
          · exact hevaluate.trans (undisturbed_awaitApproval ..)

variable (sender sid agentId turn) in
theorem undisturbed_gateMessage (db : Db) :
    Undisturbed db (stageDb (gateMessage sender sid agentId turn db)) := by
  unfold gateMessage
  split
  · exact .refl db
  refine (undisturbed_evaluateAction turn db "informational_relay").trans ?_
  simp only
  split
  · exact .refl _
  · exact .refl _
  · exact (undisturbed_audit ..).trans (undisturbed_turnCommand ..)
  · exact undisturbed_awaitApproval ..

variable (sender sid) in
/-- A turn counts what it stores. -/
theorem tallied_storeArtifacts (maxBytes : Int) (arts : List AdapterArtifact) (h : Tallied db)
    (hcounted : (bytesCounted db sid).isSome = true) :
    Tallied (stageDb (storeArtifacts sender sid maxBytes db arts)) := by
  induction arts generalizing db with
  | nil => exact h
  | cons art arts ih =>
      unfold storeArtifacts
      split
      · rename_i db1 row hstore
        unfold storeArtifact at hstore
        simp only [Option.bind_none] at hstore
        split at hstore
        · cases hstore
        · cases hstore
          rw [incrementSessionArtifactBytes_eq]
          refine ih ?_ ?_
          · unfold Tallied at h ⊢
            rw [bytesCounted_addBytes]
            exact h.add hcounted
          · rw [bytesCounted_addBytes, bump, Function.update_self, Option.isSome_map]
            exact hcounted
      · exact (h.undisturbed (undisturbed_audit ..)).undisturbed (undisturbed_turnCommand ..)

theorem not_isPeerOffer_of_kind {envelope : SessionEnvelope} (h : envelope.kind ≠ .artifactOffer) :
    isPeerOffer db envelope = false := by
  simp [isPeerOffer, h]

variable (sender sid) in
theorem undisturbed_pauseSession (db : Db) (reason : String) :
    Undisturbed db (pauseSession sender db sid reason).db := by
  rcases ownerStatusEvent_cases sender db sid "owner_paused" reason
      (show OwnerAction.target .ownerPause = .ok .paused from rfl) with
    heq | ⟨_, db1, -, -, -, hw, heq | ⟨peerKey, agentId, contentHash, sequence, payload, heq⟩⟩
  · rw [pauseSession, heq]
    exact .refl db
  · rw [pauseSession, heq]
    exact .of_statusWritten hw
  · rw [pauseSession, heq]
    refine (Undisturbed.of_statusWritten hw).trans (undisturbed_ingestEnvelope ?_)
    intro envelope _ _ _ _ haccepts
    obtain ⟨-, hkind, -, -⟩ := verified_signedEnvelope haccepts.verified
    exact not_isPeerOffer_of_kind (by rw [hkind]; decide)

/-- The payload of a turn's message has no artifact in it. -/
theorem validateArtifactOffer_content (ext : Externals) (content : String) :
    validateArtifactOffer ext [(.text "content", .text content)] = none := by
  have hid : textField [(.text "content", .text content)] "artifact_id" = none := rfl
  simp [validateArtifactOffer, hid, guard]

theorem not_reoffers_message (content agentId contentHash : String) (sequence : Nat)
    (kind : MessageKind) (ctx : IngestContext) :
    ¬Reoffers ctx db (signedEnvelope sender sid agentId contentHash sequence kind
      [(.text "content", .text content)]) := by
  rintro ⟨envelope, _, _, _, _, offer, bytes, key, known, haccepts, hoffer⟩
  have hpayload := payload_of_validateEnvelope (validateEnvelope_of_verified haccepts.verified)
  have hcontent : envelope.payload = [(.text "content", .text content)] :=
    (Json.obj.inj (Option.some.inj hpayload)).symm
  have hvalid := hoffer.unpacks.valid
  rw [hcontent, validateArtifactOffer_content] at hvalid
  cases hvalid

theorem undisturbed_enqueue {db db' : Db} {row : QueueRow} (h : enqueue db row = .ok db') :
    Undisturbed db db' := by
  unfold enqueue at h
  split at h
  · cases h
    exact ⟨rfl, rfl, rfl, rfl, .refl _⟩
  · cases h

theorem tallied_sendTurnMessage (h : Tallied db) (peer : String) (kind : MessageKind)
    (content : String) :
    Tallied (sendTurnMessage sender sid agentId turn db peer kind content).db := by
  unfold sendTurnMessage
  simp only
  split
  · exact h
  rename_i contentHash _
  have hingest : Tallied (ingestEnvelope (turnContext sender turn) db
      (signedEnvelope sender sid agentId contentHash (nextSequence db sid sender.username) kind
        [(.text "content", .text content)])).db :=
    tallied_ingestEnvelope h (not_reoffers_message _ _ _ _ _ _)
  split
  · exact hingest
  · split
    · exact hingest
    · rename_i hqueued
      exact hingest.undisturbed (undisturbed_enqueue hqueued)

theorem tallied_handleResponse (h : Tallied db) (hcounted : (bytesCounted db sid).isSome = true)
    (card : AgentRow) (peer : String) :
    Tallied (handleResponse sender sid agentId turn db card peer).db := by
  unfold handleResponse
  split
  · split
    · exact h.undisturbed (undisturbed_audit ..)
    · exact (h.undisturbed (undisturbed_audit ..)).undisturbed (undisturbed_turnCommand ..)
  split
  · exact h.undisturbed (undisturbed_turnCommand ..)
  have hactivities := undisturbed_appendActivities sender sid agentId db turn.response.events
  split
  · rename_i heq
    rw [heq] at hactivities
    exact h.undisturbed hactivities
  rename_i db1 heq
  rw [heq] at hactivities
  have happrovals := undisturbed_gateApprovals sender sid agentId turn db1 turn.response.events
  split
  · rename_i heq
    rw [heq] at happrovals
    exact h.undisturbed (hactivities.trans happrovals)
  rename_i db2 heq
  rw [heq, stageDb] at happrovals
  have hmessage := undisturbed_gateMessage sender sid agentId turn db2
  split
  · rename_i heq
    rw [heq] at hmessage
    exact h.undisturbed ((hactivities.trans happrovals).trans hmessage)
  rename_i db3 heq
  rw [heq, stageDb] at hmessage
  have hgates := (hactivities.trans happrovals).trans hmessage
  have hstore := tallied_storeArtifacts sender sid (cardMaxBytes card) turn.response.artifacts
    (h.undisturbed hgates) (hgates.counters.isSome hcounted)
  split
  · rename_i heq
    rw [heq] at hstore
    exact hstore
  rename_i db4 heq
  rw [heq] at hstore
  split
  · exact hstore
  · exact tallied_sendTurnMessage hstore ..

theorem isSome_bytesCounted_of_invocation {i : Invocation}
    (h : invocation? sender db sid = some i) : (bytesCounted db sid).isSome = true := by
  cases hrow : db.session? sid with
  | none => simp [invocation?, hrow] at h
  | some row =>
      rw [bytesCounted, hrow]
      rfl

/-- A turn keeps the tally. -/
theorem tallied_advanceSessionTurn (h : Tallied db) (sender : Sender) (sid : String) (turn : Turn) :
    Tallied (advanceSessionTurn sender db sid turn).db := by
  cases hinvoked : invocation? sender db sid with
  | none =>
      rcases advanceSessionTurn_of_none hinvoked turn with ⟨e, heq⟩ | ⟨reason, heq⟩
      · rw [heq]
        exact h
      · rw [heq]
        have hpaused := undisturbed_pauseSession sender sid db reason
        rcases exhaustedTurn_db sender db sid reason with hdb | hdb
        · rw [hdb]
          exact h.undisturbed hpaused
        · rw [hdb]
          exact h.undisturbed (hpaused.trans (undisturbed_audit ..))
  | some i =>
      rw [advanceSessionTurn_of_some hinvoked]
      have hpaid : Undisturbed db (db.updateSession sid addCost) :=
        .of_update db sid addCost_sessionId fun _ => rfl
      refine tallied_handleResponse (h.undisturbed hpaid) (hpaid.counters.isSome ?_) ..
      exact isSome_bytesCounted_of_invocation hinvoked

end Turn

/-! ### Runs -/

/-- What changes vault and counters: a turn of the local agent, and a body that comes in. -/
inductive ArtifactCall
  | turn (sender : Sender) (sessionId : String) (turn : Turn)
  | ingest (ctx : IngestContext) (raw : Fields)

def takeCall (db : Db) : ArtifactCall → Db
  | .turn sender sid turn => (advanceSessionTurn sender db sid turn).db
  | .ingest ctx raw => (ingestEnvelope ctx db raw).db

/-- The call is an accepted offer of bytes that the vault has under the offered id. -/
def OffersAgain (db : Db) : ArtifactCall → Prop
  | .turn _ _ _ => False
  | .ingest ctx raw => Reoffers ctx db raw

theorem tallied_takeCall (db : Db) (call : ArtifactCall) (h : Tallied db)
    (hno : ¬OffersAgain db call) : Tallied (takeCall db call) := by
  cases call with
  | turn sender sid turn => exact tallied_advanceSessionTurn h sender sid turn
  | ingest ctx raw => exact tallied_ingestEnvelope h hno

theorem not_accounted_takeCall {db : Db} {call : ArtifactCall} (h : Tallied db)
    (hagain : OffersAgain db call) : ¬Accounted (takeCall db call) := by
  cases call with
  | turn sender sid turn => exact hagain.elim
  | ingest ctx raw => exact not_accounted_of_reoffers h hagain

/-- A profile without sessions has nothing to count. -/
theorem tallied_fresh (identity : Option String) (contacts : List ContactRow)
    (agents : List AgentRow) : Tallied (Db.fresh identity contacts agents) where
  counted _ _ h := by cases h
  owned _ h := by cases h

/-- The counters hold the stored sizes throughout a run exactly when no call of it offers
an artifact again. -/
theorem bytes_accounted_iff {db : Db} (h : Tallied db) (calls : List ArtifactCall) :
    (∀ taken, taken <+: calls → Accounted (run takeCall db taken)) ↔
      Along takeCall (fun db call => ¬OffersAgain db call) db calls := by
  constructor
  · intro haccounted
    induction calls generalizing db with
    | nil => trivial
    | cons call calls ih =>
        have hno : ¬OffersAgain db call := fun hagain =>
          not_accounted_takeCall h hagain (haccounted [call] ⟨calls, rfl⟩)
        refine ⟨hno, ih (tallied_takeCall db call h hno) fun taken htaken => ?_⟩
        exact haccounted (call :: taken) (List.cons_prefix_cons.mpr ⟨rfl, htaken⟩)
  · rintro halong taken ⟨rest, rfl⟩
    have htaken := (along_append.mp halong).1
    exact (run_of_along (I := Tallied) tallied_takeCall h htaken).counted

namespace Sample

open Kin.Transport.Sample

/-- Base64 text stands for two bytes. -/
def vaultContext : IngestContext :=
  { context with ext := { externals with b64decode := fun _ => some [104, 105] } }

def deliver (actor agentId : String) (sequence : Nat) (kind : MessageKind) (payload : Fields) :
    ArtifactCall :=
  .ingest vaultContext (envelope "s1" actor agentId sequence kind payload)

/-- `alice` offers two bytes. -/
def offered : Fields :=
  [(.text "artifact_id", .text "art-1"), (.text "session_id", .text "s1"),
   (.text "sha256", .text "2"), (.text "mime_type", .text "text/plain"),
   (.text "size_bytes", .int 2), (.text "offered_by", .text "alice"),
   (.text "preview_policy", .text "auto"), (.text "encrypted_bytes_b64", .text "aGk=")]

/-- The session is under way and the artifact is offered. -/
def offeredOnce : List ArtifactCall :=
  [deliver "alice" "scout" 1 .taskRequest request,
   deliver "bob" "bot" 1 .acceptance [(.text "accepting_agent_id", .text "bot")],
   deliver "alice" "scout" 2 .proposal [(.text "text", .text "first")],
   deliver "alice" "scout" 3 .artifactOffer offered]

def offeredTwice : List ArtifactCall :=
  offeredOnce ++ [deliver "alice" "scout" 4 .artifactOffer offered]

/-- `bob` knows `alice`. -/
def pairedDb : Db :=
  Db.fresh (some "bob") [⟨"alice", none, some "alice", some "alice", true⟩] []

end Sample
/-- The bytes of an artifact that is offered twice are counted twice. -/
theorem offered_twice : ¬Accounted (run takeCall Sample.pairedDb Sample.offeredTwice) := by
  have hrun : bytesCounted (run takeCall Sample.pairedDb Sample.offeredTwice) "s1" = some 4 ∧
      total ArtifactRow.sessionId sizeBytes
        (run takeCall Sample.pairedDb Sample.offeredTwice).artifacts "s1" = 2 := by
    decide +kernel
  intro haccounted
  have hsum := haccounted "s1" 4 hrun.1
  rw [hrun.2] at hsum
  cases hsum

theorem bytes_accounted_iff_offeredTwice :
    (∀ taken, taken <+: Sample.offeredTwice → Accounted (run takeCall Sample.pairedDb taken)) ↔
      Along takeCall (fun db call => ¬OffersAgain db call) Sample.pairedDb Sample.offeredTwice :=
  bytes_accounted_iff (tallied_fresh ..) Sample.offeredTwice

end Kin.Node
