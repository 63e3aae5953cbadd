import Kin.Node.NothingLost
import Kin.Node.Refusal
import Kin.Pair.Opening

/-!
What a side sends. An operation that authors an envelope puts it on the network
exactly when the side's own node has accepted it, and then the envelope is
genuine; otherwise the session is as it was.
-/

namespace Kin.Pair

open Kin.Py Kin.Lib Kin.Schemas Kin.Session Kin.Storage Kin.Audit Kin.Node Kin.Transport

structure SendsFor (p : Parties) (me : Side) (sender : Sender) : Prop where
  ext : sender.ext = p.ext
  username : sender.username = p.name me
  key : sender.identityKey = p.key me

variable {p : Parties} {me : Side} {sender : Sender} {db db' : Db} {status : Status}
  {ledger : Ledger}

theorem SendsFor.knows (h : SendsFor p me sender) (peerKey : Option PublicKey) :
    Knows p me (selfContext sender peerKey) where
  ext := h.ext
  key := by
    change ownPublicKey sender peerKey (.text (p.name me)) = _
    have hown : asText (.text (p.name me)) = some (p.name me) := rfl
    rw [ownPublicKey, h.username, if_pos hown, h.ext, h.key, Parties.publicKey]

/-! ### What leaves the session alone -/

/-- Whatever leaves the session's row and events alone leaves the view alone. -/
theorem Holds.of_same (h : Holds p me db status ledger) (hidentity : db'.identity = db.identity)
    (hlog : LogInvariant db') (hsession : db'.session? p.sessionId = db.session? p.sessionId)
    (hevents : db'.eventsOf p.sessionId = db.eventsOf p.sessionId) :
    Holds p me db' status ledger where
  identity := by
    rw [Db.myUsername, hidentity]
    exact h.identity
  log := hlog
  row := by
    rw [hsession, hevents]
    exact h.row

theorem Absent.of_same (h : Absent p me db) (hidentity : db'.identity = db.identity)
    (hlog : LogInvariant db') (hsession : db'.session? p.sessionId = db.session? p.sessionId) :
    Absent p me db' where
  identity := by
    rw [Db.myUsername, hidentity]
    exact h.identity
  log := hlog
  session := by
    rw [hsession]
    exact h.session

theorem logInvariant_of_sameTables (h : LogInvariant db) (hsame : SameTables db db') :
    LogInvariant db' :=
  h.of_same hsame.eventsOf fun sid hsome => by
    rw [hsame.session?]
    exact hsome

theorem Holds.of_sameTables (h : Holds p me db status ledger) (hsame : SameTables db db') :
    Holds p me db' status ledger :=
  h.of_same hsame.identity (logInvariant_of_sameTables h.log hsame) (hsame.session? _)
    (hsame.eventsOf _)

theorem Holds.of_enqueue (h : Holds p me db status ledger) {row : QueueRow}
    (henqueue : enqueue db row = .ok db') : Holds p me db' status ledger := by
  unfold enqueue at henqueue
  split at henqueue
  · cases henqueue
    exact ⟨h.identity, ⟨h.log.sequenced, h.log.stored⟩, h.row⟩
  · cases henqueue

theorem Holds.of_enqueueIfAbsent (h : Holds p me db status ledger) {row : QueueRow}
    (henqueue : enqueueIfAbsent db row = .ok db') : Holds p me db' status ledger := by
  unfold enqueueIfAbsent at henqueue
  split at henqueue
  · cases henqueue
    exact h
  · exact h.of_enqueue henqueue

/-- A node command along an edge of the matrix moves the status. -/
theorem Holds.command (h : Holds p me db status ledger) (ext : Externals) (now : Instant)
    (command : NodeCommand) {target : Status} (htarget : command.target = some target)
    (hedge : isValidTransition status target = true) :
    Holds p me (applyNodeCommandTransition ext db p.sessionId command now).1 target ledger := by
  obtain ⟨row, hstored, hrow, rfl, rfl⟩ := h.row
  rcases applyNodeCommandTransition_cases ext db p.sessionId command now with
    ⟨row', target', hr, ht, -, hw, -⟩ | ⟨-, -, hno⟩
  · rw [htarget] at ht
    cases ht
    rw [hstored] at hr
    cases hr
    refine ⟨?_, h.log.of_statusWritten hw, setStatus target now row, ?_,
      ⟨hrow.sessionId, hrow.initiator, hrow.receiver⟩, rfl, ?_⟩
    · rw [Db.myUsername, SameTables.identity hw]
      exact h.identity
    · rw [hw.session?, session?_updateSession_self (fun _ => setStatus_sessionId _ _ _), hstored]
      rfl
    · rw [hw.eventsOf]
      rfl
  · rw [hno row target hstored htarget] at hedge
    cases hedge

/-! ### Messages -/

/-- A message that was accepted here is put on the network, and what follows
leaves the session alone. -/
theorem deliverMessage_sent (p : Parties) (me : Side) (sender : Sender) (db : Db)
    (sid peer : String) (sequence : Nat) (kind : MessageKind) (body : Fields) :
    ∃ t, (deliverMessage sender db sid peer sequence kind body).sent = some t ∧
      t.envelope = body ∧ ∀ status ledger, Holds p me db status ledger →
        Holds p me (deliverMessage sender db sid peer sequence kind body).db status ledger := by
  unfold deliverMessage
  simp only
  split
  · exact ⟨_, rfl, rfl, fun _ _ h => h⟩
  split
  · exact ⟨_, rfl, rfl, fun _ _ h => h⟩
  · rename_i henqueue
    exact ⟨_, rfl, rfl, fun _ _ h => h.of_enqueueIfAbsent henqueue⟩

/-- What an operation of a side does to its session: nothing, or it puts a
genuine envelope on the network that the side's own node has accepted, and that
is no offer. -/
inductive Sends (p : Parties) (me : Side) (db : Db) (result : LocalResult) : Prop
  | silent (hsent : result.sent = none)
      (hholds : ∀ status ledger, Holds p me db status ledger → Holds p me result.db status ledger)
      (habsent : Absent p me db → Absent p me result.db)
  | sent {t : Transmission} {ctx : IngestContext} {envelope : SessionEnvelope}
      (hsent : result.sent = some t) (hstored : (db.session? p.sessionId).isSome = true)
      (hgenuine : Genuine p me t.envelope envelope)
      (htakes : Takes ctx db t.envelope envelope) (hplain : envelope.kind ≠ .artifactOffer)
      (hholds : ∀ status ledger, Holds p me (ingestEnvelope ctx db t.envelope).db status ledger →
        Holds p me result.db status ledger)

theorem Sends.unchanged (e : PyExc) : Sends p me db { db, exit := .error e } :=
  .silent rfl (fun _ _ h => h) fun h => h

theorem Sends.refused {db' : Db} {e : PyExc} (hsame : SameTables db db') :
    Sends p me db { db := db', exit := .error e } :=
  .silent rfl (fun _ _ h => h.of_sameTables hsame) fun h =>
    h.of_same hsame.identity (logInvariant_of_sameTables h.log hsame) (hsame.session? _)

/-- `send_session_message`. -/
theorem sends_message (hsender : SendsFor p me sender) (hidentity : db.myUsername = p.name me)
    (hlog : LogInvariant db) (htimely : Timely p db sender.now) {kind : MessageKind}
    (hkind : kind ≠ .artifactOffer) (payload : Fields) (agentId : Option String) :
    Sends p me db (sendSessionMessage sender db p.sessionId kind payload agentId) := by
  unfold sendSessionMessage
  cases hrow : db.session? p.sessionId with
  | none => exact .unchanged _
  | some row =>
  simp only
  cases hhash : computeContentHash sender.ext payload with
  | none => exact .unchanged _
  | some contentHash =>
  simp only
  generalize hbody : signedEnvelope sender p.sessionId (textOr agentId sender.username) contentHash
    (nextSequence db p.sessionId sender.username) kind payload = body
  have hknows := hsender.knows (db.resolvePeerContactInfo (peerOf sender row)).2.2
  have hread : ∀ {ctx : IngestContext} {envelope : SessionEnvelope},
      verified? ctx db body = some envelope → envelope.sessionId = p.sessionId ∧
        envelope.kind = kind ∧ envelope.sequence = nextSequence db p.sessionId sender.username ∧
        envelope.actorUsername = p.name me := by
    intro ctx envelope hver
    rw [← hbody] at hver
    obtain ⟨hsid, henvelope, hseq, hactor⟩ := verified_signedEnvelope hver
    exact ⟨hsid, henvelope, hseq, hactor.trans hsender.username⟩
  have hactor : rawActorUsername body = .text db.myUsername := by
    rw [hidentity, ← hsender.username, ← hbody]
    rfl
  have hbodySid : rawSessionId body = .text p.sessionId := by
    rw [← hbody]
    rfl
  rcases selfIngest_cases (selfContext sender (db.resolvePeerContactInfo (peerOf sender row)).2.2)
      hbodySid hactor htimely
      (fun envelope hver => by
        obtain ⟨hsid, -, hseq, hname⟩ := hread hver
        rw [hsid, hname, hseq, hsender.username]
        exact storedEvent?_next hlog (nextSequence_eq hlog _ _))
      (fun envelope _ hnone => by
        rw [hrow] at hnone
        cases hnone) with
    ⟨e, db', hself, hsame⟩ | ⟨envelope, hself, htakes⟩
  · rw [hself]
    exact .refused hsame
  · rw [hself]
    obtain ⟨base, stored, state, participants, haccepts⟩ := id htakes
    obtain ⟨hsid, henvelope, -, hname⟩ := hread haccepts.verified
    have hgenuine := genuine_of_verified haccepts.verified hknows hsid hname
    obtain ⟨t, hsent, rfl, hholds⟩ := deliverMessage_sent p me sender
      (ingestEnvelope _ db body).db p.sessionId (peerOf sender row)
      (nextSequence db p.sessionId sender.username) kind body
    exact .sent hsent (by rw [hrow]; rfl) hgenuine htakes (henvelope ▸ hkind) hholds

theorem kind_of_responseMessage {db : Db} {decision : ResponseDecision}
    {agentId reason : Option String} {kind : MessageKind} {payload : Fields}
    (h : responseMessage db decision agentId reason = some (kind, payload)) :
    kind ≠ .artifactOffer := by
  cases decision with
  | accept =>
      simp only [responseMessage, Option.bind_eq_bind, Option.bind_eq_some_iff] at h
      obtain ⟨card, -, h⟩ := h
      split at h
      · cases h
      · cases h
        decide
  | decline | clarify =>
      cases h
      decide
  | unknown name => cases h

/-- `respond_to_session` is refused, or a message. -/
theorem sends_response (hsender : SendsFor p me sender) (hidentity : db.myUsername = p.name me)
    (hlog : LogInvariant db) (htimely : Timely p db sender.now) (decision : ResponseDecision)
    (agentId reason : Option String) :
    Sends p me db (respondToSession sender db p.sessionId decision agentId reason) := by
  rw [respondToSession_eq]
  split
  · exact .unchanged _
  · rename_i hmessage
    exact sends_message hsender hidentity hlog htimely (kind_of_responseMessage hmessage) _ _

/-! ### The request -/

/-- The statuses of a request at the initiator. -/
def awaiting (status : Status) : Prop := status = .sent ∨ status = .queued ∨ status = .delivered

/-- A request that is not answered from 400 to 499 is put on the network and
leaves the session `sent`, `queued` or `delivered`. -/
theorem deliverRequest_sent (h : Holds p me db .sent ledger)
    (hanswer : ∀ endpoint body, (sender.http.post endpoint body).clientError = none)
    (peer : String) (body : Fields) :
    ∃ t s, (deliverRequest sender db p.sessionId peer body).sent = some t ∧ t.envelope = body ∧
      awaiting s ∧ Holds p me (deliverRequest sender db p.sessionId peer body).db s ledger := by
  rcases deliverRequest_cases sender db p.sessionId peer body with
    heq | ⟨hclient, -⟩ | ⟨-, hdb, relay, hsent⟩
  · rw [heq, requestFallback]
    split
    · refine ⟨_, .queued, rfl, rfl, .inr (.inl rfl), ?_⟩
      exact h.command sender.ext sender.now .markQueued rfl rfl
    split
    · exact ⟨_, .sent, rfl, rfl, .inl rfl, h⟩
    · rename_i henqueue
      exact ⟨_, .sent, rfl, rfl, .inl rfl, h.of_enqueue henqueue⟩
  · refine absurd ?_ hclient
    rw [answerOf]
    cases endpointOf sender db peer with
    | none => rfl
    | some endpoint => exact hanswer endpoint body
  · rcases hdb with hdb | hdb
    · rw [hdb]
      exact ⟨_, .sent, hsent, rfl, .inl rfl, h⟩
    · rw [hdb]
      refine ⟨_, .delivered, hsent, rfl, .inr (.inr rfl), ?_⟩
      exact h.command sender.ext sender.now .markDelivered rfl rfl

/-- What `dispatch_session` does: nothing, or the initiator holds the session and
the request is on the network. -/
theorem Absent.dispatch (h : Absent p .initiator db) (hsender : SendsFor p .initiator sender)
    {request : Request} (hsid : request.sessionId = p.sessionId)
    (hpeer : request.peerUsername = p.name .receiver)
    (hanswer : ∀ endpoint body, (sender.http.post endpoint body).clientError = none) :
    ((dispatchSession sender db request).sent = none ∧
      Absent p .initiator (dispatchSession sender db request).db) ∨
    ∃ t s ledger, (dispatchSession sender db request).sent = some t ∧ awaiting s ∧
      Asks p t.envelope ledger ∧
      Holds p .initiator (dispatchSession sender db request).db s ledger := by
  unfold dispatchSession
  simp only
  split
  · exact .inl ⟨rfl, h⟩
  split
  · exact .inl ⟨rfl, h⟩
  split
  · exact .inl ⟨rfl, h⟩
  rename_i contentHash hhash
  rw [hsid, hpeer]
  generalize hpayload : requestPayload request (request.maxTurns.getD 12) = payload
  generalize hbody : signedEnvelope sender p.sessionId request.senderAgentId contentHash 1
    .taskRequest payload = body
  generalize hctx : selfContext sender
    (db.resolvePeerContactInfo (p.name .receiver)).2.2 = ctx
  have hknows : Knows p .initiator ctx := hctx ▸ hsender.knows _
  have hread : ∀ {envelope : SessionEnvelope}, verified? ctx db body = some envelope →
      envelope.sessionId = p.sessionId ∧ envelope.sequence = 1 ∧
        envelope.actorUsername = p.name .initiator ∧
        envelope.payload.getD "peer_username" (.text "") = .text (p.name .receiver) := by
    intro envelope hver
    have hraw := payload_of_validateEnvelope (validateEnvelope_of_verified hver)
    rw [← hbody] at hver hraw
    obtain ⟨henvelope, -, hseq, hactor⟩ := verified_signedEnvelope hver
    have hfields : payload = envelope.payload := Json.obj.inj (Option.some.inj hraw)
    refine ⟨henvelope, hseq, hactor.trans hsender.username, ?_⟩
    rw [← hfields, ← hpayload, ← hpeer]
    rfl
  have hbodySid : rawSessionId body = .text p.sessionId := by
    rw [← hbody]
    rfl
  have hactor : rawActorUsername body = .text db.myUsername := by
    rw [h.identity, ← hsender.username, ← hbody]
    rfl
  rcases selfIngest_cases ctx hbodySid hactor
      (fun row hrow => by
        rw [h.session] at hrow
        cases hrow)
      (fun envelope hver => by
        obtain ⟨henvelope, hseq, -⟩ := hread hver
        refine storedEvent?_next h.log ?_
        rw [sequencesOf, henvelope, h.eventsOf]
        exact hseq)
      (fun envelope hver _ => by
        obtain ⟨-, hseq, hname, hreceiver⟩ := hread hver
        refine ⟨?_, hseq⟩
        rw [receiverOf, if_pos (hname.trans h.identity.symm), hreceiver]
        rfl) with
    ⟨e, db', hself, hsame⟩ | ⟨envelope, hself, htakes⟩
  · rw [hself]
    exact .inl ⟨rfl, h.of_same hsame.identity (logInvariant_of_sameTables h.log hsame)
      (hsame.session? _)⟩
  · right
    rw [hself]
    obtain ⟨base, stored, state, participants, haccepts⟩ := id htakes
    obtain ⟨henvelope, -, hname, hreceiver⟩ := hread haccepts.verified
    obtain ⟨ledger, hasks, hholds⟩ := h.opens hknows htakes henvelope hname hreceiver
    obtain ⟨t, s, hsent, rfl, hs, hholds'⟩ :=
      deliverRequest_sent hholds hanswer (p.name .receiver) body
    exact ⟨t, s, ledger, hsent, hs, hasks, hholds'⟩

end Kin.Pair
