import Kin.Node.NothingLost
import Kin.Session.Invocation
import Kin.Session.TagIn
import Kin.Transport.Retry

/-!
Everything a node does, as chains of single changes of its database: the moves
of ingestion and of commands, writes to the outbound queue, the cost of an
adapter call and the agent column of a handoff. What each change keeps, every
activity keeps.
-/

namespace Kin.Node

open Kin.Py Kin.Lib Kin.Schemas Kin.Session Kin.Storage Kin.Audit Kin.Artifacts Kin.Policy
  Kin.Transport

/-- One change of a node's database. `commits` says which envelopes may be
committed, `spending` whether an adapter call may be paid for, and `handing` in
whose name an agent may be replaced. -/
inductive Change (commits : IngestContext → Db → SessionEnvelope → Prop) (spending : Prop)
    (handing : String → Prop) : Db → Db → Prop
  | move {db db' : Db} (h : Move commits db db') : Change commits spending handing db db'
  | queue (db : Db) (queue : OutboundQueue) :
      Change commits spending handing db { db with outboundEnvelopeQueue := queue }
  | spend (db : Db) (sid : String) (h : spending) :
      Change commits spending handing db (db.updateSession sid addCost)
  | handOff (db : Db) (sid agentId username : String) {row : SessionRow}
      (hrow : db.session? sid = some row) (h : handing username) :
      Change commits spending handing db
        (db.updateSession sid (setAgent (decide (username = row.initiatorUsername)) agentId))

abbrev Changes (commits : IngestContext → Db → SessionEnvelope → Prop) (spending : Prop)
    (handing : String → Prop) : Db → Db → Prop :=
  Relation.ReflTransGen (Change commits spending handing)

variable {commits : IngestContext → Db → SessionEnvelope → Prop} {spending : Prop}
  {handing : String → Prop} {db db' : Db}

theorem Changes.of_moves (h : Relation.ReflTransGen (Move commits) db db') :
    Changes commits spending handing db db' :=
  Relation.ReflTransGen.mono (fun _ _ hmove => .move hmove) _ _ h

/-! ### Rows under a change -/

/-- The columns of a session that are written once. -/
structure SameTerms (row row' : SessionRow) : Prop where
  sessionId : row'.sessionId = row.sessionId
  initiatorUsername : row'.initiatorUsername = row.initiatorUsername
  receiverUsername : row'.receiverUsername = row.receiverUsername
  turnLimit : row'.turnLimit = row.turnLimit
  runtimeBudgetSeconds : row'.runtimeBudgetSeconds = row.runtimeBudgetSeconds
  artifactBytesBudget : row'.artifactBytesBudget = row.artifactBytesBudget
  costBudgetEstimate : row'.costBudgetEstimate = row.costBudgetEstimate
  createdAt : row'.createdAt = row.createdAt

theorem SameTerms.refl (row : SessionRow) : SameTerms row row :=
  ⟨rfl, rfl, rfl, rfl, rfl, rfl, rfl, rfl⟩

theorem SameTerms.trans {a b c : SessionRow} (hab : SameTerms a b) (hbc : SameTerms b c) :
    SameTerms a c where
  sessionId := hbc.sessionId.trans hab.sessionId
  initiatorUsername := hbc.initiatorUsername.trans hab.initiatorUsername
  receiverUsername := hbc.receiverUsername.trans hab.receiverUsername
  turnLimit := hbc.turnLimit.trans hab.turnLimit
  runtimeBudgetSeconds := hbc.runtimeBudgetSeconds.trans hab.runtimeBudgetSeconds
  artifactBytesBudget := hbc.artifactBytesBudget.trans hab.artifactBytesBudget
  costBudgetEstimate := hbc.costBudgetEstimate.trans hab.costBudgetEstimate
  createdAt := hbc.createdAt.trans hab.createdAt

/-- A stored session stays stored, with its terms and, unless it is spent, with
its cost. -/
def KeepsRow (spending : Prop) (db db' : Db) : Prop :=
  ∀ sid row, db.session? sid = some row → ∃ row', db'.session? sid = some row' ∧
    SameTerms row row' ∧ (¬spending → row'.cumulativeCostEstimate = row.cumulativeCostEstimate)

inductive RowChange (spending : Prop) (handing : String → Prop) (db db' : Db) (sid : String)
    (row : SessionRow) : SessionRow → Prop
  | same : RowChange spending handing db db' sid row row
  | status (status : Status) (now : Instant) :
      RowChange spending handing db db' sid row (setStatus status now row)
  /-- An envelope of the session is committed, and its event stored. -/
  | committed (envelope : SessionEnvelope) (status : Status) (now : Instant) (before : Db)
      (hstored : db.eventsOf sid ++ [eventRow before (envelopeEvent envelope now)] <+:
        db'.eventsOf sid) :
      RowChange spending handing db db' sid row (setStatus status now (acceptedRow envelope row))
  | bytes (n : Nat) : RowChange spending handing db db' sid row (addBytes n row)
  | cost (h : spending) : RowChange spending handing db db' sid row (addCost row)
  | agent (username agentId : String) (h : handing username) :
      RowChange spending handing db db' sid row
        (setAgent (decide (username = row.initiatorUsername)) agentId row)

section RowChange

variable {sid : String} {row row' : SessionRow}

theorem RowChange.of_update {sid' : String} {f : SessionRow → SessionRow}
    (hid : ∀ r, (f r).sessionId = r.sessionId)
    (hself : sid = sid' → RowChange spending handing db db' sid row (f row))
    (hrow : db.session? sid = some row) :
    ∃ row', (db.updateSession sid' f).session? sid = some row' ∧
      RowChange spending handing db db' sid row row' := by
  by_cases hsid : sid = sid'
  · refine ⟨f row, ?_, hself hsid⟩
    rw [← hsid, session?_updateSession_self hid, hrow]
    rfl
  · exact ⟨row, by rw [session?_updateSession_of_ne hid hsid, hrow], .same⟩

theorem RowChange.of_statusWritten {sid' : String} {status : Status} {now : Instant}
    (h : StatusWritten db sid' status now db') (hrow : db.session? sid = some row) :
    ∃ row', db'.session? sid = some row' ∧ RowChange spending handing db db' sid row row' := by
  rw [SameTables.session? h sid]
  exact RowChange.of_update (setStatus_sessionId status now) (fun _ => .status status now) hrow

theorem RowChange.of_move (h : Move commits db db') (hrow : db.session? sid = some row) :
    ∃ row', db'.session? sid = some row' ∧ RowChange spending handing db db' sid row row' := by
  have hsame : db'.session? sid = db.session? sid →
      ∃ row', db'.session? sid = some row' ∧ RowChange spending handing db db' sid row row' :=
    fun heq => ⟨row, heq.trans hrow, .same⟩
  cases h with
  | ingest hmove =>
      cases hmove with
      | expire hexp =>
          rcases hexp with heq | ⟨_, _, -, -, hw⟩
          · exact hsame (heq.session? sid)
          · exact RowChange.of_statusWritten hw hrow
      | @create _ _ _ envelope newRow _ _ _ hnone hcreates =>
          refine hsame (session?_addSession_of_ne ?_)
          rintro rfl
          rw [(newRow_of_creates hcreates).sessionId, hnone] at hrow
          cases hrow
      | @commit ctx _ base _ raw envelope stored state participants hext hnow henv haccepts
          hcommits =>
          by_cases hsid : sid = envelope.sessionId
          · subst hsid
            have hstored : stored = row := by
              cases haccepts.loaded with
              | created hnone _ _ _ =>
                  rw [hnone] at hrow
                  cases hrow
              | stored hrow' => exact Option.some.inj (hrow'.symm.trans hrow)
            subst hstored
            refine ⟨_, hcommits.session?_self haccepts.loaded.base_session?,
              .committed envelope _ _ base ?_⟩
            rw [← haccepts.loaded.base_eventsOf]
            rcases hcommits.eventsOf_self with heq | ⟨-, _, -, -, -, heq⟩
            · exact heq ▸ List.prefix_rfl
            · rw [heq]
              exact List.prefix_append ..
          · refine hsame ?_
            rw [hcommits.session?_of_ne hsid, haccepts.loaded.base_session?_of_ne hsid]
      | store hstores =>
          obtain ⟨n, hn⟩ := hstores.session? sid
          rw [hrow, Option.map_some] at hn
          exact ⟨addBytes n row, hn, .bytes n⟩
  | status _ _ _ _ hw => exact RowChange.of_statusWritten hw hrow
  | append _ _ happ => exact hsame (SameTables.session? happ sid)
  | quiet hquiet =>
      obtain ⟨_, hquiet⟩ := hquiet
      exact hsame (hquiet.session? sid)

theorem Change.rowChange (h : Change commits spending handing db db')
    (hrow : db.session? sid = some row) :
    ∃ row', db'.session? sid = some row' ∧ RowChange spending handing db db' sid row row' := by
  cases h with
  | move hmove => exact RowChange.of_move hmove hrow
  | queue queue => exact ⟨row, hrow, .same⟩
  | spend sid' hspend => exact RowChange.of_update addCost_sessionId (fun _ => .cost hspend) hrow
  | @handOff sid' agentId username row' hrow' hhanded =>
      refine RowChange.of_update (setAgent_sessionId _ agentId) (fun hsid => ?_) hrow
      rw [hsid, hrow'] at hrow
      cases hrow
      exact .agent username agentId hhanded

theorem sameTerms_acceptedRow (envelope : SessionEnvelope) (row : SessionRow) :
    SameTerms row (acceptedRow envelope row) ∧
      (acceptedRow envelope row).cumulativeCostEstimate = row.cumulativeCostEstimate := by
  unfold acceptedRow
  split
  · split
    · split
      · exact ⟨.refl row, rfl⟩
      · exact ⟨⟨rfl, rfl, rfl, rfl, rfl, rfl, rfl, rfl⟩, rfl⟩
    · exact ⟨.refl row, rfl⟩
  · exact ⟨.refl row, rfl⟩

theorem RowChange.sameTerms (h : RowChange spending handing db db' sid row row') :
    SameTerms row row' ∧ (¬spending → row'.cumulativeCostEstimate = row.cumulativeCostEstimate) := by
  cases h with
  | same => exact ⟨.refl row, fun _ => rfl⟩
  | status status now => exact ⟨⟨rfl, rfl, rfl, rfl, rfl, rfl, rfl, rfl⟩, fun _ => rfl⟩
  | committed envelope status now before hstored =>
      obtain ⟨hterms, hcost⟩ := sameTerms_acceptedRow envelope row
      exact ⟨hterms.trans ⟨rfl, rfl, rfl, rfl, rfl, rfl, rfl, rfl⟩, fun _ => hcost⟩
  | bytes n => exact ⟨⟨rfl, rfl, rfl, rfl, rfl, rfl, rfl, rfl⟩, fun _ => rfl⟩
  | cost h => exact ⟨⟨rfl, rfl, rfl, rfl, rfl, rfl, rfl, rfl⟩, fun hno => absurd h hno⟩
  | agent username agentId h =>
      cases decide (username = row.initiatorUsername) <;>
        exact ⟨⟨rfl, rfl, rfl, rfl, rfl, rfl, rfl, rfl⟩, fun _ => rfl⟩

end RowChange

theorem KeepsRow.of_change (h : Change commits spending handing db db') : KeepsRow spending db db' := by
  intro sid row hrow
  obtain ⟨row', hrow', hchange⟩ := h.rowChange hrow
  exact ⟨row', hrow', hchange.sameTerms⟩

theorem SameTerms.of_changes (h : Changes commits spending handing db db') {sid : String}
    {row : SessionRow} (hrow : db.session? sid = some row) :
    ∃ row', db'.session? sid = some row' ∧ SameTerms row row' := by
  induction h with
  | refl => exact ⟨row, hrow, .refl row⟩
  | tail _ hlast ih =>
      obtain ⟨row', hrow', hterms⟩ := ih
      obtain ⟨row'', hrow'', hterms', -⟩ := KeepsRow.of_change hlast sid row' hrow'
      exact ⟨row'', hrow'', hterms.trans hterms'⟩

/-! ### Calls of ingestion

Everything a node stores from an envelope it stores in a call of
`ingest_envelope`; which envelopes these can commit depends on the contexts and
bodies of the calls. -/

/-- Whatever one of these calls commits is in `commits`. -/
def Permits (commits : IngestContext → Db → SessionEnvelope → Prop)
    (calls : IngestContext → Fields → Prop) : Prop :=
  ∀ ctx raw, calls ctx raw → ∀ db under before envelope,
    Handles ctx db raw under before envelope → commits under before envelope

theorem permits_true (calls : IngestContext → Fields → Prop) :
    Permits (fun _ _ _ => True) calls :=
  fun _ _ _ _ _ _ _ _ => trivial

/-- A call in which an owner takes in an envelope of its own. `consulted` is the
`get_public_key_fn` the function was given, for those that take one. -/
structure OwnCall (sender : Sender) (consulted : Option (Json → Option PublicKey))
    (ctx : IngestContext) (raw : Fields) : Prop where
  ext : ctx.ext = sender.ext
  actor : rawActorUsername raw = .text sender.username
  key : ctx.getPublicKey (.text sender.username) =
      some (sender.ext.publicKeyOf sender.identityKey) ∨ consulted = some ctx.getPublicKey
  ownKey : ∀ key, ctx.ownerIdentityKey = some key → key = sender.identityKey

theorem OwnCall.ofSelf (sender : Sender) (consulted : Option (Json → Option PublicKey))
    (peerKey : Option PublicKey) (sid agentId contentHash : String) (sequence : Nat)
    (kind : MessageKind) (payload : Fields) :
    OwnCall sender consulted (selfContext sender peerKey)
      (signedEnvelope sender sid agentId contentHash sequence kind payload) where
  ext := rfl
  actor := rfl
  key := .inl (if_pos rfl)
  ownKey := fun _ h => by cases h

/-! ### The functions a node is made of -/

theorem ingestEnvelope_changes {calls : IngestContext → Fields → Prop}
    (hcalls : Permits commits calls) {ctx : IngestContext} {raw : Fields} (h : calls ctx raw)
    (db : Db) : Changes commits spending handing db (ingestEnvelope ctx db raw).db :=
  .of_moves (ingest_moves (hcalls ctx raw h db))

theorem nodeCommand_changes (ext : Externals) (db : Db) (sid : String) (command : NodeCommand)
    (now : Instant) :
    Changes commits spending handing db (applyNodeCommandTransition ext db sid command now).1 :=
  .single (.move (nodeCommand_move ..))

theorem enqueue_changes {row : QueueRow} (h : enqueue db row = .ok db') :
    Changes commits spending handing db db' := by
  unfold enqueue at h
  split at h
  · cases h
    exact .single (.queue db _)
  · cases h

theorem selfIngest_changes {calls : IngestContext → Fields → Prop}
    (hcalls : Permits commits calls) {ctx : IngestContext} {body : Fields} (hcall : calls ctx body)
    {exit : Except PyExc Unit} (h : selfIngest ctx db body = (db', exit)) :
    Changes commits spending handing db db' := by
  have hdb : (ingestEnvelope ctx db body).db = db' := by rw [← selfIngest_fst, h]
  rw [← hdb]
  exact ingestEnvelope_changes hcalls hcall db

section Sender

variable {sender : Sender} {consulted : Option (Json → Option PublicKey)}
  (hcalls : Permits commits (OwnCall sender consulted)) (db : Db) (sid : String)

theorem deliverMessage_changes (sender : Sender) (db : Db) (sid peer : String) (sequence : Nat)
    (kind : MessageKind) (body : Fields) :
    Changes commits spending handing db (deliverMessage sender db sid peer sequence kind body).db := by
  unfold deliverMessage
  simp only
  split
  · exact .refl
  split
  · exact .refl
  rename_i henqueue
  unfold enqueueIfAbsent at henqueue
  split at henqueue
  · cases henqueue
    exact .refl
  · exact enqueue_changes henqueue

include hcalls

theorem sendSessionMessage_changes (kind : MessageKind) (payload : Fields)
    (agentId : Option String) :
    Changes commits spending handing db (sendSessionMessage sender db sid kind payload agentId).db := by
  unfold sendSessionMessage
  split
  · exact .refl
  simp only
  split
  · exact .refl
  split
  · rename_i hself
    exact selfIngest_changes hcalls (.ofSelf ..) hself
  · rename_i hself
    exact (selfIngest_changes hcalls (.ofSelf ..) hself).trans (deliverMessage_changes ..)

theorem respondToSession_changes (decision : ResponseDecision) (agentId reason : Option String) :
    Changes commits spending handing db (respondToSession sender db sid decision agentId reason).db := by
  rw [respondToSession_eq]
  split
  · exact .refl
  · exact sendSessionMessage_changes hcalls ..

omit hcalls in
theorem deliverRequest_changes (sender : Sender) (db : Db) (sid peer : String) (body : Fields) :
    Changes commits spending handing db (deliverRequest sender db sid peer body).db := by
  rcases deliverRequest_cases sender db sid peer body with h | ⟨-, h⟩ | ⟨-, h | h, -⟩
  · rw [h]
    unfold requestFallback
    simp only
    split
    · exact nodeCommand_changes ..
    split
    · exact .refl
    · rename_i henqueue
      exact enqueue_changes henqueue
  · rw [h]
    exact nodeCommand_changes ..
  · rw [h]
  · rw [h]
    exact nodeCommand_changes ..

theorem dispatchSession_changes (request : Request) :
    Changes commits spending handing db (dispatchSession sender db request).db := by
  unfold dispatchSession
  simp only
  split
  · exact .refl
  split
  · exact .refl
  split
  · exact .refl
  split
  · rename_i hself
    exact selfIngest_changes hcalls (.ofSelf ..) hself
  · rename_i hself
    exact (selfIngest_changes hcalls (.ofSelf ..) hself).trans (deliverRequest_changes ..)

theorem cancelSession_changes (reason : String) :
    Changes commits spending handing db (cancelSession sender db sid reason).db := by
  unfold cancelSession
  split
  · exact .refl
  simp only
  split
  · exact .refl
  split
  · rename_i hself
    exact selfIngest_changes hcalls (.ofSelf ..) hself
  · rename_i hself
    exact selfIngest_changes hcalls (.ofSelf ..) hself

theorem sendArtifactOffer_changes (artifactId : String) :
    Changes commits spending handing db (sendArtifactOffer sender db sid artifactId).db := by
  -- the offer's context also has the owner's keys and the relay
  have hcall : ∀ peerKey agentId contentHash sequence payload,
      OwnCall sender consulted
        { selfContext sender peerKey with
          recipientX25519 := some sender.x25519Key
          ownerIdentityKey := some sender.identityKey
          relayUrl := sender.relayUrl }
        (signedEnvelope sender sid agentId contentHash sequence .artifactOffer payload) :=
    fun _ _ _ _ _ => ⟨rfl, rfl, .inl (if_pos rfl), fun _ h => (Option.some.inj h).symm⟩
  unfold sendArtifactOffer
  split
  · exact .refl
  split
  · exact .refl
  split
  · exact .refl
  simp only
  split
  · exact .refl
  split
  · exact .refl
  split
  · rename_i hself
    exact selfIngest_changes hcalls (hcall ..) hself
  · rename_i hself
    rw [deliverOffer_db]
    exact selfIngest_changes hcalls (hcall ..) hself

theorem announceChange_changes (agentId : Option String) (args : TagIn)
    (hgiven : args.getPublicKey = consulted) (payload : Fields) :
    Changes commits spending handing db (announceChange sender db sid agentId args payload).db := by
  unfold announceChange
  split
  · rename_i key _
    have hkeyed : Permits commits (OwnCall { sender with x25519Key := key } consulted) :=
      fun ctx raw hcall =>
        hcalls ctx raw ⟨hcall.ext, hcall.actor, hcall.key, hcall.ownKey⟩
    exact sendSessionMessage_changes hkeyed ..
  split
  · exact .refl
  rename_i contentHash _
  have hcall : OwnCall sender consulted (tagInContext sender args)
      (participantChanged sender sid agentId contentHash (nextSequence db sid sender.username)
        payload) := by
    refine ⟨rfl, rfl, ?_, fun _ h => by cases h⟩
    rw [← hgiven, tagInContext]
    cases args.getPublicKey with
    | none => exact .inl rfl
    | some f => exact .inr rfl
  simp only
  split <;> exact ingestEnvelope_changes hcalls hcall db

theorem tagInHandoff_changes (args : TagIn) (hgiven : args.getPublicKey = consulted)
    (hhanded : handing sender.username) :
    Changes commits spending handing db (tagInHandoff sender db sid args).db := by
  unfold tagInHandoff
  split
  · exact .refl
  split
  · exact .refl
  rename_i row hrow
  simp only
  split
  · exact .refl
  have hannounced : Changes commits spending handing db (announceChange sender db sid
      (agentColumn (isSenderSide sender row) row) args (handoffPackage sender.ext row.objective
        args.replacementAgentId (stateOf sender.ext row (db.eventsOf sid)).events)).db :=
    announceChange_changes hcalls db sid _ args hgiven _
  split
  · exact hannounced
  · obtain ⟨row', hrow', hterms⟩ := SameTerms.of_changes hannounced hrow
    have hside : isSenderSide sender row = decide (sender.username = row'.initiatorUsername) := by
      rw [isSenderSide, hterms.initiatorUsername]
    refine hannounced.tail ?_
    generalize announceChange sender db sid _ args _ = announced at hrow' ⊢
    rw [hside]
    exact .handOff _ sid _ _ hrow' hhanded

theorem ownerStatusEvent_changes {action : OwnerAction} {target : Status}
    (haction : action.target = .ok target) (statusEvent reason : String) :
    Changes commits spending handing db
      (ownerStatusEvent sender db sid action target statusEvent reason).db := by
  rcases ownerStatusEvent_cases sender db sid statusEvent reason haction with
    h | ⟨row, db1, hrow, hlive, hedge, hw, h | ⟨peerKey, agentId, contentHash, sequence, payload, h⟩⟩
  · rw [h]
  · rw [h]
    exact .single (.move (.status hrow hlive hedge (ownerAction_target_ne_accepted haction) hw))
  · rw [h]
    exact .head (.move (.status hrow hlive hedge (ownerAction_target_ne_accepted haction) hw))
      (ingestEnvelope_changes hcalls (.ofSelf ..) db1)

/-! ### Turns -/

variable (agentId : String) (turn : Turn) (hgiven : turn.getPublicKey = consulted)

include hgiven in
theorem sendTurnMessage_changes (peer : String) (kind : MessageKind) (content : String) :
    Changes commits spending handing db
      (sendTurnMessage sender sid agentId turn db peer kind content).db := by
  have hcall : ∀ contentHash sequence payload, OwnCall sender consulted (turnContext sender turn)
      (signedEnvelope sender sid agentId contentHash sequence kind payload) := by
    intro contentHash sequence payload
    refine ⟨rfl, rfl, ?_, fun _ h => by cases h⟩
    rw [← hgiven, turnContext]
    cases turn.getPublicKey with
    | none => exact .inl rfl
    | some f => exact .inr rfl
  unfold sendTurnMessage
  simp only
  split
  · exact .refl
  split
  · exact ingestEnvelope_changes hcalls (hcall ..) db
  split
  · exact ingestEnvelope_changes hcalls (hcall ..) db
  · rename_i henqueue
    exact (ingestEnvelope_changes hcalls (hcall ..) db).trans (enqueue_changes henqueue)

include hgiven in
/-- What follows an adapter call pays for no other. -/
theorem handleResponse_changes (card : AgentRow) (peer : String) :
    Changes commits spending handing db (handleResponse sender sid agentId turn db card peer).db := by
  rcases handleResponse_cases sender sid agentId turn db card peer with
    hmoves | ⟨db', kind, content, hmoves, -, heq⟩
  · exact Changes.of_moves hmoves
  · rw [heq]
    exact (Changes.of_moves hmoves).trans
      (sendTurnMessage_changes hcalls db' sid agentId turn hgiven ..)

theorem advanceSessionTurn_unspent (h : invocation? sender db sid = none) :
    Changes commits spending handing db (advanceSessionTurn sender db sid turn).db := by
  have hpause : ∀ reason, Changes commits spending handing db (pauseSession sender db sid reason).db :=
    fun reason => ownerStatusEvent_changes hcalls db sid rfl _ reason
  obtain ⟨e, heq⟩ | ⟨reason, heq⟩ := advanceSessionTurn_of_none h turn
  · rw [heq]
  · rw [heq]
    obtain hdb | hdb := exhaustedTurn_db sender db sid reason
    · rw [hdb]
      exact hpause reason
    · rw [hdb]
      exact (hpause reason).tail (.move (.audit ..))

include hgiven in
/-- What follows the payment of a turn spends nothing. -/
theorem advanceSessionTurn_spent {i : Invocation} (h : invocation? sender db sid = some i) :
    Changes commits spending handing (db.updateSession sid addCost)
      (advanceSessionTurn sender db sid turn).db := by
  rw [advanceSessionTurn_of_some h]
  exact handleResponse_changes hcalls _ sid _ turn hgiven ..

include hgiven in
theorem advanceSessionTurn_changes :
    Changes commits True handing db (advanceSessionTurn sender db sid turn).db := by
  cases h : invocation? sender db sid with
  | none => exact advanceSessionTurn_unspent hcalls db sid turn h
  | some i => exact .head (.spend db sid trivial) (advanceSessionTurn_spent hcalls db sid turn hgiven h)

end Sender

/-! ### Sweeps -/

theorem setDelivery_changes (db : Db) (queueId : String) (f : Delivery → Delivery) :
    Changes commits spending handing db (setDelivery db queueId f) := .single (.queue db _)

theorem retryRow_changes (sweep : Sweep) (db : Db) (row : QueueRow) (expiresAt : Option Instant) :
    Changes commits spending handing db (retryRow sweep db row expiresAt).db := by
  obtain ⟨f, h | ⟨command, h⟩⟩ := retryRow_db sweep db row expiresAt
  · rw [h]
    exact setDelivery_changes ..
  · rw [h]
    exact (setDelivery_changes ..).trans (nodeCommand_changes ..)

theorem retryRows_changes (sweep : Sweep) (db : Db) (rows : List (QueueRow × Option Instant)) :
    Changes commits spending handing db (retryRows sweep db rows).db := by
  induction rows generalizing db with
  | nil => exact .refl
  | cons item rows ih => exact (retryRow_changes sweep db item.1 item.2).trans (ih _)

/-! ### Whole runs -/

/-- Whatever a node does: operations, the owner's calls, sweeps of the queue and
handoffs. -/
inductive Activity
  | operation (op : Operation)
  | call (c : Call)
  | retryOutboundQueue (sweep : Sweep)
  | tagIn (sender : Sender) (sessionId : String) (args : TagIn)

def Activity.step (db : Db) : Activity → Db
  | .operation op => Node.step db op
  | .call c => (perform ⟨db, []⟩ c).db
  | .retryOutboundQueue sweep => (Transport.retryOutboundQueue sweep db).db
  | .tagIn sender sid args => (tagInHandoff sender db sid args).db

def Activity.calls : Activity → IngestContext → Fields → Prop
  | .operation (.ingest ctx raw), ctx', raw' | .call (.ingest ctx raw), ctx', raw' =>
      ctx' = ctx ∧ raw' = raw
  | .operation (.pause sender _ _), ctx, raw | .operation (.resume sender _ _), ctx, raw
  | .call (.dispatch sender _), ctx, raw | .call (.send sender _ _ _ _), ctx, raw
  | .call (.respond sender _ _ _ _), ctx, raw | .call (.cancel sender _ _), ctx, raw
  | .call (.pause sender _ _), ctx, raw | .call (.resume sender _ _), ctx, raw
  | .call (.offer sender _ _), ctx, raw => OwnCall sender none ctx raw
  | .call (.advance sender _ turn), ctx, raw => OwnCall sender turn.getPublicKey ctx raw
  | .tagIn sender _ args, ctx, raw => OwnCall sender args.getPublicKey ctx raw
  | .operation _, _, _ | .retryOutboundQueue _, _, _ => False

def Call.isTurn : Call → Bool
  | .advance _ _ _ => true
  | _ => false

/-- Nothing is spent outside a turn. -/
theorem perform_unspent (db : Db) (call : Call) (hturn : call.isTurn = false)
    (hcalls : Permits commits (Activity.call call).calls) :
    Changes commits spending handing db (perform ⟨db, []⟩ call).db := by
  cases call with
  | ingest ctx raw => exact ingestEnvelope_changes hcalls ⟨rfl, rfl⟩ db
  | dispatch sender request => exact dispatchSession_changes hcalls ..
  | send sender sid kind payload agentId => exact sendSessionMessage_changes hcalls ..
  | respond sender sid decision agentId reason => exact respondToSession_changes hcalls ..
  | cancel sender sid reason => exact cancelSession_changes hcalls ..
  | pause sender sid reason => exact ownerStatusEvent_changes hcalls db sid rfl _ reason
  | resume sender sid reason => exact ownerStatusEvent_changes hcalls db sid rfl _ reason
  | offer sender sid artifactId => exact sendArtifactOffer_changes hcalls ..
  | advance sender sid turn => cases hturn

theorem perform_changes (db : Db) (call : Call)
    (hcalls : Permits commits (Activity.call call).calls) :
    Changes commits True handing db (perform ⟨db, []⟩ call).db := by
  cases hturn : call.isTurn with
  | false => exact perform_unspent db call hturn hcalls
  | true =>
      cases call with
      | advance sender sid turn => exact advanceSessionTurn_changes hcalls db sid turn rfl
      | _ => cases hturn

theorem operation_changes (db : Db) (op : Operation)
    (hcalls : Permits commits (Activity.operation op).calls) :
    Changes commits spending handing db (step db op) := by
  cases op with
  | ingest ctx raw => exact ingestEnvelope_changes hcalls ⟨rfl, rfl⟩ db
  | nodeCommand ext sid command now => exact nodeCommand_changes ..
  | ownerCommand ext sid owner action now => exact .single (.move (ownerCommand_move ..))
  | pause sender sid reason => exact ownerStatusEvent_changes hcalls db sid rfl _ reason
  | resume sender sid reason => exact ownerStatusEvent_changes hcalls db sid rfl _ reason
  | decide ext args =>
      rcases decideApproval_cases ext db args with h | ⟨kind, h⟩
      · rw [step, h]
      · exact .tail (.single (.move (ownerCommand_move ..))) (.move (.quiet h))
  | append ext event => exact .single (.move (.appendLocal ext db rfl))

/-- In whose name an activity can replace an agent. -/
def Activity.hands : Activity → String → Prop
  | .tagIn sender _ _, username => username = sender.username
  | _, _ => False

theorem activity_changes (db : Db) (activity : Activity)
    (hcalls : Permits commits activity.calls)
    (hhands : ∀ username, activity.hands username → handing username) :
    Changes commits True handing db (activity.step db) := by
  cases activity with
  | operation op => exact operation_changes db op hcalls
  | call c => exact perform_changes db c hcalls
  | retryOutboundQueue sweep => exact retryRows_changes ..
  | tagIn sender sid args => exact tagInHandoff_changes hcalls db sid args rfl (hhands _ rfl)

/-- A property that every change keeps is kept by every run whose activities
commit and hand over nothing else. -/
theorem activities_keep_within {P : Db → Prop}
    (hchange : ∀ a b, P a → Change commits True handing a b → P b) {activities : List Activity}
    (hwithin : ∀ activity ∈ activities, Permits commits activity.calls ∧
      ∀ username, activity.hands username → handing username) (h : P db) :
    P (run Activity.step db activities) := by
  refine run_of_along (fun a activity ha hactivity => ?_) h (along_of_mem db hwithin)
  have hchain := activity_changes a activity hactivity.1 hactivity.2
  generalize activity.step a = b at hchain
  induction hchain with
  | refl => exact ha
  | tail _ hlast ih => exact hchange _ _ ih hlast

theorem activities_keep_of_permits {P : Db → Prop}
    (hchange : ∀ a b, P a → Change commits True (fun _ => True) a b → P b)
    {activities : List Activity}
    (hcalls : ∀ activity ∈ activities, Permits commits activity.calls) (h : P db) :
    P (run Activity.step db activities) :=
  activities_keep_within hchange (fun activity hmem => ⟨hcalls activity hmem, fun _ _ => trivial⟩) h

theorem activities_keep {P : Db → Prop}
    (hchange : ∀ a b, P a → Change (fun _ _ _ => True) True (fun _ => True) a b → P b) (h : P db)
    (activities : List Activity) : P (run Activity.step db activities) :=
  activities_keep_of_permits hchange (fun _ _ => permits_true _) h

/-! ### Sessions under a change -/

theorem Change.opened (h : Change commits spending handing db db') {sid : String} {row' : SessionRow}
    (hnone : db.session? sid = none) (hrow' : db'.session? sid = some row') :
    ∃ ctx raw envelope row, commits ctx db envelope ∧ verified? ctx db raw = some envelope ∧
      Creates ctx db envelope row ∧ envelope.sessionId = sid ∧ SameTerms row row' := by
  have hsame : (db'.session? sid).isSome = (db.session? sid).isSome → False := by
    rw [hnone, hrow']
    exact Bool.noConfusion
  have hwritten : ∀ {sid' status now}, StatusWritten db sid' status now db' → False := by
    intro sid' status now hw
    refine hsame ?_
    rw [SameTables.session? hw, isSome_session?_updateSession (setStatus_sessionId status now)]
  cases h with
  | move hmove =>
      cases hmove with
      | ingest hmove =>
          cases hmove with
          | expire hexp =>
              rcases hexp with heq | ⟨_, _, -, -, hw⟩
              · exact (hsame (by rw [heq.session?])).elim
              · exact (hwritten hw).elim
          | @create ctx _ raw envelope row _ henv hver hno hcreates =>
              have hid := (newRow_of_creates hcreates).sessionId
              by_cases hsid : sid = row.sessionId
              · rw [hsid, session?_addSession_self (by rw [hid, hno])] at hrow'
                cases hrow'
                exact ⟨ctx, raw, envelope, _, henv, hver, hcreates, by rw [hsid, hid], .refl _⟩
              · rw [session?_addSession_of_ne hsid] at hrow'
                exact (hsame (by rw [hrow', session?_addSession_of_ne hsid, hrow'])).elim
          | @commit ctx _ base _ raw envelope stored state participants _ _ henv haccepts
              hcommits =>
              by_cases hsid : sid = envelope.sessionId
              · subst hsid
                cases haccepts.loaded with
                | stored hrow =>
                    rw [hnone] at hrow
                    cases hrow
                | created _ _ hcreates _ =>
                    rw [hcommits.session?_self haccepts.loaded.base_session?] at hrow'
                    cases hrow'
                    refine ⟨ctx, raw, envelope, stored, henv, haccepts.verified, hcreates, rfl, ?_⟩
                    exact (sameTerms_acceptedRow envelope stored).1.trans
                      ⟨rfl, rfl, rfl, rfl, rfl, rfl, rfl, rfl⟩
              · refine (hsame ?_).elim
                rw [hcommits.session?_of_ne hsid, haccepts.loaded.base_session?_of_ne hsid]
          | store hstores =>
              obtain ⟨n, hn⟩ := hstores.session? sid
              exact (hsame (by rw [hn, Option.isSome_map])).elim
      | status _ _ _ _ hw => exact (hwritten hw).elim
      | append _ _ happ => exact (hsame (by rw [SameTables.session? happ]; rfl)).elim
      | quiet hquiet =>
          obtain ⟨_, hquiet⟩ := hquiet
          exact (hsame (by rw [hquiet.session?]; rfl)).elim
  | queue queue => exact (hsame rfl).elim
  | spend sid' _ => exact (hsame (isSome_session?_updateSession addCost_sessionId)).elim
  | handOff sid' agentId username hrow hhanded =>
      exact (hsame (isSome_session?_updateSession (setAgent_sessionId _ agentId))).elim

/-! ### The log under a change -/

theorem Change.mem_sessionEvents (h : Change commits spending handing db db') {event : SessionEventRow}
    (hmem : event ∈ db'.sessionEvents) (hseq : event.sequence.isSome = true) :
    event ∈ db.sessionEvents ∨
      ∃ ctx raw envelope base stored state participants before now row,
        commits ctx db envelope ∧
        Accepts ctx db raw envelope base stored state participants ∧
        event = eventRow before (envelopeEvent envelope now) ∧
        db'.session? envelope.sessionId = some row ∧ SameTerms stored row := by
  have hsame : db'.sessionEvents = db.sessionEvents → event ∈ db.sessionEvents :=
    fun heq => heq ▸ hmem
  have hwritten : ∀ {sid status now}, StatusWritten db sid status now db' →
      event ∈ db.sessionEvents := fun hw => by
    rw [SameTables.sessionEvents hw] at hmem
    exact hmem
  cases h with
  | move hmove =>
      cases hmove with
      | ingest hmove =>
          cases hmove with
          | expire hexp =>
              rcases hexp with heq | ⟨_, _, -, -, hw⟩
              · exact .inl (hsame heq.sessionEvents)
              · exact .inl (hwritten hw)
          | create _ _ _ _ _ => exact .inl hmem
          | @commit ctx _ base _ raw envelope stored state participants _ _ henv haccepts
              hcommits =>
              rcases mem_sessionEvents_of_commits hcommits hmem hseq with hold | ⟨before, heq⟩
              · rw [haccepts.loaded.base_sessionEvents] at hold
                exact .inl hold
              · have hrow := hcommits.session?_self haccepts.loaded.base_session?
                refine .inr ⟨ctx, raw, envelope, base, stored, state, participants, before, _, _,
                  henv, haccepts, heq, hrow, ?_⟩
                exact (sameTerms_acceptedRow envelope stored).1.trans
                  ⟨rfl, rfl, rfl, rfl, rfl, rfl, rfl, rfl⟩
          | store hstores => exact .inl (hsame hstores.sessionEvents)
      | status _ _ _ _ hw => exact .inl (hwritten hw)
      | append hnone _ happ =>
          rw [SameTables.sessionEvents happ] at hmem
          rcases List.mem_append.mp hmem with hold | hnew
          · exact .inl hold
          · rw [List.mem_singleton.mp hnew, eventRow, hnone] at hseq
            cases hseq
      | quiet hquiet =>
          obtain ⟨_, hquiet⟩ := hquiet
          exact .inl (hsame hquiet.sessionEvents)
  | queue queue => exact .inl hmem
  | spend sid _ => exact .inl hmem
  | handOff sid agentId username hrow hhanded => exact .inl hmem


theorem Change.logInvariant (h : LogInvariant db) (hchange : Change commits spending handing db db') :
    LogInvariant db' := by
  cases hchange with
  | move hmove => exact h.of_move hmove
  | queue queue => exact h.of_same (fun _ => rfl) fun _ hsome => hsome
  | spend sid _ =>
      refine h.of_same (fun _ => rfl) fun s hsome => ?_
      rw [isSome_session?_updateSession addCost_sessionId]
      exact hsome
  | handOff sid agentId username hrow hhanded =>
      refine h.of_same (fun _ => rfl) fun s hsome => ?_
      rw [isSome_session?_updateSession (setAgent_sessionId _ agentId)]
      exact hsome

/-- No change removes or alters an event. -/
theorem Change.sessionEvents_prefix (hchange : Change commits spending handing db db') :
    db.sessionEvents <+: db'.sessionEvents := by
  cases hchange with
  | move hmove => exact sessionEvents_prefix_of_move hmove
  | queue queue => exact List.prefix_rfl
  | spend sid _ => exact List.prefix_rfl
  | handOff sid agentId username hrow hhanded => exact List.prefix_rfl

theorem sessionEvents_prefix_activities (db : Db) (activities : List Activity) :
    db.sessionEvents <+: (run Activity.step db activities).sessionEvents :=
  activities_keep (P := fun db' => db.sessionEvents <+: db'.sessionEvents)
    (fun _ _ ha hchange => ha.trans hchange.sessionEvents_prefix) List.prefix_rfl activities

theorem logInvariant_activities {db : Db} (h : LogInvariant db) (activities : List Activity) :
    LogInvariant (run Activity.step db activities) :=
  activities_keep (fun _ _ ha hchange => hchange.logInvariant ha) h activities

end Kin.Node
