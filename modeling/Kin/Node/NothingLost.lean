import Kin.Node.Authorship
import Kin.Node.TurnMoves

/-!
No envelope is lost by its author, as long as every call keeps what it signs.
Custody is carried through the calls one by one: each is a self-ingestion with
quiet changes before it and a hand-over after it.
-/

namespace Kin.Node

open Kin.Py Kin.Lib Kin.Schemas Kin.Session Kin.Storage Kin.Audit Kin.Artifacts Kin.Policy
  Kin.Transport

/-! ### Steps beside the log -/

/-- The queue loses no row, and custody is kept wherever the bodies are. -/
structure Neutral (db db' : Db) : Prop where
  rows : ∀ row ∈ db.outboundEnvelopeQueue.rows, row ∈ db'.outboundEnvelopeQueue.rows
  custody : ∀ kept, Custody kept db → Custody kept db'

theorem Neutral.refl (db : Db) : Neutral db db := ⟨fun _ h => h, fun _ h => h⟩

theorem neutral_nodeCommand (ext : Externals) (db : Db) (sid : String) (command : NodeCommand)
    (now : Instant) : Neutral db (applyNodeCommandTransition ext db sid command now).1 := by
  rcases applyNodeCommandTransition_cases ext db sid command now with
    ⟨row, target, -, -, -, hw, -⟩ | ⟨hsame, -, -⟩
  · refine ⟨fun row hrow => ?_, fun kept h => h.of_statusWritten hw⟩
    rw [SameTables.outboundEnvelopeQueue hw]
    exact hrow
  · refine ⟨fun row hrow => ?_, fun kept h => h.of_sameTables hsame⟩
    rw [hsame.outboundEnvelopeQueue]
    exact hrow

/-- An insert that succeeds adds the row and nothing else. -/
theorem enqueue_ok {db db' : Db} {row : QueueRow} (h : enqueue db row = .ok db') :
    Neutral db db' ∧ row ∈ db'.outboundEnvelopeQueue.rows := by
  unfold enqueue OutboundQueue.insert? at h
  split at h
  · rename_i q hq
    cases h
    split at hq
    · cases hq
      refine ⟨⟨fun r hr => List.mem_append_left _ hr, fun kept hkept => ?_⟩,
        List.mem_append_right _ List.mem_cons_self⟩
      exact hkept.of_same rfl rfl fun _ hsome => hsome
    · cases hq
  · cases h

theorem enqueue_of_free {sender : Sender} {db : Db} {sid peer : String} {sequence : Nat}
    (h : QueueFree sender db sid peer sequence) (kind : MessageKind) (body : Fields) :
    ∃ db', enqueue db (pendingRow sender sid peer sequence kind body) = .ok db' := by
  have hfree : db.outboundEnvelopeQueue.hasId
        (pendingRow sender sid peer sequence kind body).queueId = false ∧
      db.outboundEnvelopeQueue.hasEnvelope
        (pendingRow sender sid peer sequence kind body).envelopeKey = false := h
  simp only [enqueue, OutboundQueue.insert?, dif_pos hfree]
  exact ⟨_, rfl⟩

/-! ### Handing over -/

section HandOver

variable {w : World} {db db' : Db} {sent : Option Transmission} {body : Fields} {sender : Sender}
  {peer sid : String}

theorem Held.next (h : Held w body) (sent : Option Transmission)
    (hrows : ∀ row ∈ w.db.outboundEnvelopeQueue.rows, row ∈ db'.outboundEnvelopeQueue.rows) :
    Held (w.next db' sent) body := by
  rcases h with ⟨t, ht, h⟩ | ⟨row, hrow, h⟩
  · exact .inl ⟨t, List.mem_append_left _ ht, h⟩
  · exact .inr ⟨row, hrows row hrow, h⟩

theorem held_of_sent {t : Transmission} (hbody : t.envelope = body)
    (h : accepted? t.direct = true ∨ accepted? t.relay = true) : Held (w.next db (some t)) body :=
  .inl ⟨t, List.mem_append_right _ List.mem_cons_self, hbody, h⟩

theorem held_of_queued {row : QueueRow} (hrow : row ∈ db.outboundEnvelopeQueue.rows)
    (hbody : row.envelope = body) : Held (w.next db sent) body :=
  .inr ⟨row, hrow, hbody⟩

theorem resolvePeerContactInfo_congr (h : db'.contacts = db.contacts) (peer : String) :
    db'.resolvePeerContactInfo peer = db.resolvePeerContactInfo peer := by
  rw [Db.resolvePeerContactInfo, h, Db.resolvePeerContactInfo]

theorem answerOf_congr (h : db'.contacts = db.contacts) :
    answerOf sender db' peer body = answerOf sender db peer body := by
  rw [answerOf, endpointOf, resolvePeerContactInfo_congr h, answerOf, endpointOf]

theorem viaRelay_congr (h : db'.contacts = db.contacts) (delivered : Bool) :
    viaRelay sender db' peer body delivered = viaRelay sender db peer body delivered := by
  rw [viaRelay, recipientKeyOf, resolvePeerContactInfo_congr h, viaRelay, recipientKeyOf]

theorem reaches_congr (h : db'.contacts = db.contacts) :
    Reaches sender db' peer body ↔ Reaches sender db peer body := by
  rw [Reaches, answerOf_congr h, viaRelay_congr h, Reaches]

theorem queueFree_congr {sequence : Nat}
    (h : db'.outboundEnvelopeQueue = db.outboundEnvelopeQueue) :
    QueueFree sender db' sid peer sequence ↔ QueueFree sender db sid peer sequence := by
  rw [QueueFree, h, QueueFree]

/-- An operation that ingests a body of the owner and then does something neutral
keeps custody, if the body was refused or is held in the end. -/
theorem custody_of_own {ctx : IngestContext} (h : Custody (Held w) w.db)
    (hactor : rawActorUsername body = .text w.db.myUsername)
    (hneutral : Neutral (ingestEnvelope ctx w.db body).db db')
    (hheld : Refuses ctx w.db body ∨ Held (w.next db' sent) body) :
    Custody (Held (w.next db' sent)) db' := by
  have hqueue := (ingestEnvelope_outside ctx w.db body).2.2
  have hbefore : Custody (Held (w.next db' sent)) w.db :=
    h.mono fun b hb => hb.next sent fun row hrow => hneutral.rows row (by rw [hqueue]; exact hrow)
  exact hneutral.custody _ (hbefore.of_own hactor hheld)

/-- Nothing is lost when the body is refused. -/
theorem custody_of_refused {ctx : IngestContext} {exit : Except PyExc Unit}
    (h : Custody (Held w) w.db) (hactor : rawActorUsername body = .text w.db.myUsername)
    (hself : selfIngest ctx w.db body = (db, exit)) (hrefuses : Refuses ctx w.db body) :
    Custody (Held (w.next db none)) db := by
  have hdb : (ingestEnvelope ctx w.db body).db = db := by rw [← selfIngest_fst, hself]
  exact custody_of_own h hactor (by rw [hdb]; exact .refl db) (.inl hrefuses)

theorem custody_of_raised {ctx : IngestContext} {e : PyExc} (h : Custody (Held w) w.db)
    (hactor : rawActorUsername body = .text w.db.myUsername)
    (hself : selfIngest ctx w.db body = (db, .error e)) : Custody (Held (w.next db none)) db :=
  custody_of_refused h hactor hself (refuses_of_selfIngest hactor hself)

/-- After self-ingestion, `deliver` has to hold the body wherever contacts and
queue are the same as before. -/
theorem custody_of_delivered {ctx : IngestContext} {deliver : Db → LocalResult}
    (h : Custody (Held w) w.db) (hactor : rawActorUsername body = .text w.db.myUsername)
    (hself : selfIngest ctx w.db body = (db, .ok ())) (hneutral : ∀ db, Neutral db (deliver db).db)
    (hheld : Refuses ctx w.db body ∨ ∀ db, db.contacts = w.db.contacts →
      db.outboundEnvelopeQueue = w.db.outboundEnvelopeQueue →
      Held (w.next (deliver db).db (deliver db).sent) body) :
    Custody (Held (w.next (deliver db).db (deliver db).sent)) (deliver db).db := by
  have hdb : (ingestEnvelope ctx w.db body).db = db := by rw [← selfIngest_fst, hself]
  obtain ⟨-, hcontacts, hqueue⟩ := ingestEnvelope_outside ctx w.db body
  rw [hdb] at hcontacts hqueue
  exact custody_of_own h hactor (by rw [hdb]; exact hneutral db)
    (hheld.imp_right fun hdeliver => hdeliver db hcontacts hqueue)

/-- What the owner signs is the owner's. -/
theorem rawActorUsername_signedEnvelope (h : sender.username = db.myUsername)
    (sid agentId contentHash : String) (sequence : Nat) (kind : MessageKind) (payload : Fields) :
    rawActorUsername (signedEnvelope sender sid agentId contentHash sequence kind payload) =
      .text db.myUsername := by
  rw [← h]
  rfl

theorem custody_unchanged (h : Custody (Held w) w.db) : Custody (Held (w.next w.db none)) w.db :=
  h.mono fun _ hb => hb.next none fun _ hrow => hrow

end HandOver

/-! ### Messages -/

section Message

variable {w : World} {sender : Sender} {sid peer : String} {sequence : Nat} {kind : MessageKind}
  {body : Fields} {db : Db}

theorem neutral_deliverMessage (sender : Sender) (db : Db) (sid peer : String) (sequence : Nat)
    (kind : MessageKind) (body : Fields) :
    Neutral db (deliverMessage sender db sid peer sequence kind body).db := by
  unfold deliverMessage
  simp only
  split
  · exact .refl db
  split
  · exact .refl db
  rename_i db' henqueue
  unfold enqueueIfAbsent at henqueue
  split at henqueue
  · cases henqueue
    exact .refl db
  · exact (enqueue_ok henqueue).1

theorem held_deliverMessage
    (h : Reaches sender db peer body ∨ QueueFree sender db sid peer sequence) :
    Held (w.next (deliverMessage sender db sid peer sequence kind body).db
      (deliverMessage sender db sid peer sequence kind body).sent) body := by
  unfold deliverMessage
  simp only
  split
  · rename_i hsent
    exact held_of_sent rfl (by simpa using hsent)
  rename_i hsent
  simp only [Bool.or_eq_true, not_or, Bool.not_eq_true] at hsent
  have hfree : QueueFree sender db sid peer sequence := by
    refine h.resolve_left fun hreaches => ?_
    rcases hreaches with hdirect | hrelay
    · rw [answerOf, hsent.1] at hdirect
      cases hdirect
    · rw [hsent.1, hrelay] at hsent
      cases hsent.2
  obtain ⟨db', henqueue⟩ := enqueue_of_free hfree kind body
  have habsent : enqueueIfAbsent db (pendingRow sender sid peer sequence kind body) = .ok db' := by
    rw [enqueueIfAbsent, if_neg, henqueue]
    change ¬db.outboundEnvelopeQueue.hasEnvelope (sid, sequence, peer) = true
    rw [hfree.2]
    exact Bool.false_ne_true
  rw [habsent]
  exact held_of_queued (enqueue_ok henqueue).2 rfl

theorem custody_message {payload : Fields} {agentId : Option String} (h : Custody (Held w) w.db)
    (howner : sender.username = w.db.myUsername)
    (hkept : MessageKept sender w.db sid kind payload agentId) :
    Custody (Held (w.next (sendSessionMessage sender w.db sid kind payload agentId).db
      (sendSessionMessage sender w.db sid kind payload agentId).sent))
      (sendSessionMessage sender w.db sid kind payload agentId).db := by
  unfold sendSessionMessage
  split
  · exact custody_unchanged h
  rename_i row hrow
  simp only
  split
  · exact custody_unchanged h
  rename_i contentHash hhash
  have hactor := rawActorUsername_signedEnvelope howner sid (textOr agentId sender.username)
    contentHash (nextSequence w.db sid sender.username) kind payload
  split
  · rename_i hself
    exact custody_of_raised h hactor hself
  · rename_i hself
    refine custody_of_delivered h hactor hself (fun db => neutral_deliverMessage ..)
      ((hkept row contentHash hrow hhash).imp_right ?_)
    intro hheld db hcontacts hqueue
    refine held_deliverMessage ?_
    rw [reaches_congr hcontacts, queueFree_congr hqueue]
    exact hheld

/-- A response is refused without a trace, or sent as its message. -/
theorem respondToSession_eq (sender : Sender) (db : Db) (sid : String) (decision : ResponseDecision)
    (agentId reason : Option String) :
    respondToSession sender db sid decision agentId reason =
      match responseMessage db decision agentId reason with
      | none => { db, exit := .error .valueError }
      | some (kind, payload) => sendSessionMessage sender db sid kind payload
          (some (textOr agentId sender.username)) := by
  cases decision with
  | accept =>
      unfold respondToSession responseMessage
      simp only
      cases hcard : (Db.given agentId).bind fun a => (db.getCard a).map (a, ·) with
      | none => rfl
      | some card =>
          simp only [Option.bind_eq_bind, Option.bind_some]
          split <;> rfl
  | decline => rfl
  | clarify => rfl
  | unknown name => rfl

end Message

/-! ### Requests, offers and what is not sent -/

section Request

variable {w : World} {sender : Sender} {db : Db} {sid peer : String} {body : Fields}

/-- What `dispatch_session` does with a request that was not delivered directly. -/
def requestFallback (sender : Sender) (db : Db) (sid peer : String) (body : Fields) : LocalResult :=
  let sent := some
    { envelope := body, direct := answerOf sender db peer body,
      relay := viaRelay sender db peer body false }
  if accepted? (viaRelay sender db peer body false) then
    { db := (applyNodeCommandTransition sender.ext db sid .markQueued sender.now).1
      exit := .ok ()
      sent }
  else
    match enqueue db (pendingRow sender sid peer 1 .taskRequest body) with
    | .error e => { db, exit := .error e, sent }
    | .ok db => { db, exit := .ok (), sent }

theorem neutral_requestFallback (sender : Sender) (db : Db) (sid peer : String) (body : Fields) :
    Neutral db (requestFallback sender db sid peer body).db := by
  unfold requestFallback
  simp only
  split
  · exact neutral_nodeCommand ..
  · split
    · exact .refl db
    · rename_i henqueue
      exact (enqueue_ok henqueue).1

theorem held_requestFallback
    (h : accepted? (viaRelay sender db peer body false) = true ∨ QueueFree sender db sid peer 1) :
    Held (w.next (requestFallback sender db sid peer body).db
      (requestFallback sender db sid peer body).sent) body := by
  unfold requestFallback
  simp only
  split
  · rename_i hrelay
    exact held_of_sent rfl (.inr hrelay)
  · rename_i hrelay
    obtain ⟨db', henqueue⟩ := enqueue_of_free (h.resolve_left hrelay) .taskRequest body
    rw [henqueue]
    exact held_of_queued (enqueue_ok henqueue).2 rfl

theorem accepted?_of_status {code : Nat} (text : String) (ack : Option AckStatus) (h : code = 200) :
    accepted? (some (.response code text ack)) = true := by
  simp [accepted?, HttpResult.isOk, h]

/-- A request is answered from 400 to 499, or with 200, or goes on to the relay
and the queue. -/
theorem deliverRequest_cases (sender : Sender) (db : Db) (sid peer : String) (body : Fields) :
    deliverRequest sender db sid peer body = requestFallback sender db sid peer body ∨
    ((answerOf sender db peer body).bind HttpResult.clientError ≠ none ∧
      (deliverRequest sender db sid peer body).db =
        (applyNodeCommandTransition sender.ext db sid .markFailed sender.now).1) ∨
    (accepted? (answerOf sender db peer body) = true ∧
      ((deliverRequest sender db sid peer body).db = db ∨
        (deliverRequest sender db sid peer body).db =
          (applyNodeCommandTransition sender.ext db sid .markDelivered sender.now).1) ∧
      ∃ relay, (deliverRequest sender db sid peer body).sent =
        some { envelope := body, direct := answerOf sender db peer body, relay }) := by
  unfold deliverRequest requestFallback answerOf
  simp only
  generalize (endpointOf sender db peer).map (fun e => sender.http.post e body) = answer
  split
  · rename_i code text ack
    by_cases hcode : code = 200
    · have hok := accepted?_of_status text ack hcode
      rw [if_pos hcode]
      split
      · exact .inr (.inr ⟨hok, .inl rfl, none, rfl⟩)
      · exact .inr (.inr ⟨hok, .inr rfl, _, rfl⟩)
      · exact .inl rfl
    · rw [if_neg hcode]
      split
      · rename_i hclient
        exact .inr (.inl ⟨Option.ne_none_iff_isSome.mpr hclient, rfl⟩)
      · exact .inl rfl
  · exact .inl rfl

theorem neutral_deliverRequest (sender : Sender) (db : Db) (sid peer : String) (body : Fields) :
    Neutral db (deliverRequest sender db sid peer body).db := by
  rcases deliverRequest_cases sender db sid peer body with h | ⟨-, h⟩ | ⟨-, h | h, -⟩
  · rw [h]
    exact neutral_requestFallback ..
  · rw [h]
    exact neutral_nodeCommand ..
  · rw [h]
    exact .refl db
  · rw [h]
    exact neutral_nodeCommand ..

theorem held_deliverRequest
    (hanswer : (answerOf sender db peer body).bind HttpResult.clientError = none)
    (h : Reaches sender db peer body ∨ QueueFree sender db sid peer 1) :
    Held (w.next (deliverRequest sender db sid peer body).db
      (deliverRequest sender db sid peer body).sent) body := by
  rcases deliverRequest_cases sender db sid peer body with
    hres | ⟨hclient, -⟩ | ⟨hok, -, relay, hsent⟩
  · rw [hres]
    rcases h with (hdirect | hrelay) | hfree
    · -- the fallback also records the direct answer
      have hsent : ∃ relay, (requestFallback sender db sid peer body).sent =
          some { envelope := body, direct := answerOf sender db peer body, relay } := by
        unfold requestFallback
        simp only
        split
        · exact ⟨_, rfl⟩
        · split <;> exact ⟨_, rfl⟩
      obtain ⟨relay, hsent⟩ := hsent
      rw [hsent]
      exact held_of_sent rfl (.inl hdirect)
    · exact held_requestFallback (.inl hrelay)
    · exact held_requestFallback (.inr hfree)
  · exact absurd hanswer hclient
  · rw [hsent]
    exact held_of_sent rfl (.inl hok)

theorem custody_request {request : Request} (h : Custody (Held w) w.db)
    (howner : sender.username = w.db.myUsername) (hkept : RequestKept sender w.db request) :
    Custody (Held (w.next (dispatchSession sender w.db request).db
      (dispatchSession sender w.db request).sent)) (dispatchSession sender w.db request).db := by
  unfold dispatchSession
  simp only
  split
  · exact custody_unchanged h
  split
  · exact custody_unchanged h
  split
  · exact custody_unchanged h
  rename_i contentHash hhash
  have hactor := rawActorUsername_signedEnvelope howner request.sessionId request.senderAgentId
    contentHash 1 .taskRequest (requestPayload request (request.maxTurns.getD 12))
  split
  · rename_i hself
    exact custody_of_raised h hactor hself
  · rename_i hself
    refine custody_of_delivered h hactor hself (fun db => neutral_deliverRequest ..)
      ((hkept contentHash hhash).imp_right ?_)
    rintro ⟨hanswer, hheld⟩ db hcontacts hqueue
    refine held_deliverRequest ?_ ?_
    · rw [answerOf_congr hcontacts]
      exact hanswer
    · rw [reaches_congr hcontacts, queueFree_congr hqueue]
      exact hheld

theorem custody_cancel {reason : String} (h : Custody (Held w) w.db)
    (howner : sender.username = w.db.myUsername) (hkept : CancelKept sender w.db sid reason) :
    Custody (Held (w.next (cancelSession sender w.db sid reason).db
      (cancelSession sender w.db sid reason).sent)) (cancelSession sender w.db sid reason).db := by
  unfold cancelSession
  split
  · exact custody_unchanged h
  rename_i row hrow
  simp only
  split
  · exact custody_unchanged h
  rename_i contentHash hhash
  have hactor := rawActorUsername_signedEnvelope howner sid (textOr row.senderAgentId sender.username)
    contentHash (nextSequence w.db sid sender.username) .cancel [(.text "reason", .text reason)]
  split
  · rename_i hself
    exact custody_of_raised h hactor hself
  · rename_i hself
    exact custody_of_refused h hactor hself (hkept row contentHash hrow hhash)

theorem ownerStatusEvent_sent (sender : Sender) (db : Db) (sid : String) (action : OwnerAction)
    (target : Status) (statusEvent reason : String) :
    (ownerStatusEvent sender db sid action target statusEvent reason).sent = none := by
  unfold ownerStatusEvent
  split
  · rfl
  simp only
  split
  · rfl
  split
  · rfl
  split <;> rfl

theorem custody_statusEvent {action : OwnerAction} {target : Status} {statusEvent reason : String}
    (h : Custody (Held w) w.db) (howner : sender.username = w.db.myUsername)
    (hkept : StatusEventKept sender w.db sid action target statusEvent reason) :
    Custody (Held (w.next (ownerStatusEvent sender w.db sid action target statusEvent reason).db
      none)) (ownerStatusEvent sender w.db sid action target statusEvent reason).db := by
  unfold ownerStatusEvent
  split
  · exact custody_unchanged h
  rename_i state hstate
  simp only
  split
  · exact custody_unchanged h
  rename_i hsuccess
  -- the status is written before the event is signed
  let w' : World := ⟨statusUpdated sender w.db sid action target, w.sent⟩
  have hw : StatusWritten w.db sid target sender.now w'.db := sameTables_writeAuditEvent ..
  have h' : Custody (Held w') w'.db := h.of_statusWritten hw
  split
  · exact custody_unchanged h'
  rename_i contentHash hhash
  have hrefuses := hkept state contentHash hstate (by simpa using hsuccess) hhash
  have howner' : sender.username = w'.db.myUsername := howner
  have hactor := rawActorUsername_signedEnvelope howner' sid
    (((state.participants.get? sender.username).map (·.agentId)).getD sender.username) contentHash
    (nextSequence w'.db sid sender.username) .statusEvent
    [(.text "status_event", .text statusEvent), (.text "reason", .text reason)]
  have hafter : Custody (Held (w'.next (ingestEnvelope _ w'.db _).db none)) _ :=
    custody_of_own h' hactor (.refl _) (.inl hrefuses)
  split
  · exact hafter
  · exact hafter

theorem deliverOffer_db (sender : Sender) (db : Db) (peer : String) (body : Fields) :
    (deliverOffer sender db peer body).db = db := by
  unfold deliverOffer
  simp only
  split
  · split
    · split <;> rfl
    · rfl
  · rfl

/-- An offer is handed over directly or by the relay. -/
theorem held_deliverOffer (h : Reaches sender db peer body) :
    Held (w.next (deliverOffer sender db peer body).db (deliverOffer sender db peer body).sent)
      body := by
  unfold deliverOffer Reaches answerOf at *
  simp only
  generalize (endpointOf sender db peer).map (fun e => sender.http.post e body) = answer at h ⊢
  split
  · rename_i code text ack
    by_cases hcode : code = 200
    · have hok := accepted?_of_status text ack hcode
      rw [if_pos hcode]
      split <;> exact held_of_sent rfl (.inl hok)
    · rw [if_neg hcode]
      exact held_of_sent rfl h
  · exact held_of_sent rfl h

theorem custody_offer {artifactId : String} (h : Custody (Held w) w.db)
    (howner : sender.username = w.db.myUsername) (hkept : OfferKept sender w.db sid artifactId) :
    Custody (Held (w.next (sendArtifactOffer sender w.db sid artifactId).db
      (sendArtifactOffer sender w.db sid artifactId).sent))
      (sendArtifactOffer sender w.db sid artifactId).db := by
  unfold sendArtifactOffer
  split
  · exact custody_unchanged h
  rename_i state hstate
  split
  · exact custody_unchanged h
  rename_i art hart
  split
  · exact custody_unchanged h
  simp only
  split
  · exact custody_unchanged h
  rename_i recipientKey hkey
  split
  · exact custody_unchanged h
  rename_i contentHash hhash
  have hactor := rawActorUsername_signedEnvelope howner sid
    (((state.participants.get? sender.username).map (·.agentId)).getD sender.username) contentHash
    (nextSequence w.db sid sender.username) .artifactOffer (offerPayload sender art recipientKey)
  split
  · rename_i hself
    exact custody_of_raised h hactor hself
  · rename_i hself
    refine custody_of_delivered h hactor hself
      (fun db => by rw [deliverOffer_db]; exact .refl db)
      ((hkept state art recipientKey contentHash hstate hart hkey hhash).imp_right ?_)
    intro hreaches db hcontacts _
    exact held_deliverOffer ((reaches_congr hcontacts).mpr hreaches)

end Request

/-! ### Turns -/

structure Quiet (db db' : Db) : Prop where
  identity : db'.identity = db.identity
  queue : db'.outboundEnvelopeQueue = db.outboundEnvelopeQueue
  next : ∀ sid actor, nextSequence db' sid actor = nextSequence db sid actor
  custody : ∀ kept, Custody kept db → Custody kept db'

namespace Quiet

theorem refl (db : Db) : Quiet db db := ⟨rfl, rfl, fun _ _ => rfl, fun _ h => h⟩

theorem trans {a b c : Db} (hab : Quiet a b) (hbc : Quiet b c) : Quiet a c where
  identity := hbc.identity.trans hab.identity
  queue := hbc.queue.trans hab.queue
  next sid actor := (hbc.next sid actor).trans (hab.next sid actor)
  custody kept h := hbc.custody kept (hab.custody kept h)

theorem of_same {db db' : Db} (hidentity : db'.identity = db.identity)
    (hqueue : db'.outboundEnvelopeQueue = db.outboundEnvelopeQueue)
    (hevents : db'.sessionEvents = db.sessionEvents)
    (hsessions : ∀ sid, (db.session? sid).isSome = true → (db'.session? sid).isSome = true) :
    Quiet db db' where
  identity := hidentity
  queue := hqueue
  next sid actor := by rw [nextSequence, Db.eventsOf, hevents, nextSequence, Db.eventsOf]
  custody kept h := h.of_same hevents hidentity hsessions

theorem of_sameTables {db db' : Db} (h : SameTables db db') : Quiet db db' :=
  of_same h.identity h.outboundEnvelopeQueue h.sessionEvents fun sid hsome => by
    rw [h.session?]
    exact hsome

theorem updateSession (db : Db) (sid : String) {f : SessionRow → SessionRow}
    (hf : ∀ row, (f row).sessionId = row.sessionId) : Quiet db (db.updateSession sid f) :=
  of_same rfl rfl rfl fun _ hsome => by
    rw [isSome_session?_updateSession hf]
    exact hsome

theorem of_statusWritten {db db' : Db} {sid : String} {status : Status} {now : Instant}
    (h : StatusWritten db sid status now db') : Quiet db db' :=
  (updateSession db sid fun _ => setStatus_sessionId _ _ _).trans (of_sameTables h)

/-- An event without a sequence takes no number. -/
theorem of_appended {db db' : Db} {ev : NewEvent} (hseq : ev.sequence = none)
    (hrow : (db.session? ev.sessionId).isSome = true) (happ : Appended db ev db') :
    Quiet db db' where
  identity := by rw [SameTables.identity happ]; rfl
  queue := by rw [SameTables.outboundEnvelopeQueue happ]; rfl
  next sid actor := by
    rw [nextSequence, SameTables.eventsOf happ, nextSequence]
    by_cases hsid : sid = ev.sessionId
    · rw [hsid, eventsOf_addEvent_self, List.filter_append, List.filterMap_append]
      have hnew : (([eventRow db ev] : List SessionEventRow).filter
          fun e => e.actorUsername == actor).filterMap (·.sequence) = [] := by
        rw [List.filterMap_eq_nil_iff]
        intro e he
        rw [List.mem_singleton.mp (List.mem_of_mem_filter he), eventRow, hseq]
      rw [hnew, List.append_nil]
    · rw [eventsOf_addEvent_of_ne db ev hsid]
  custody kept h := h.of_appended hseq hrow happ

/-- A move that commits no envelope. -/
theorem of_move {db db' : Db} (h : Move (fun _ _ _ => False) db db') : Quiet db db' := by
  cases h with
  | ingest hmove =>
      cases hmove with
      | expire hexp =>
          rcases hexp with hsame | ⟨sid, row, -, -, hw⟩
          · exact of_sameTables hsame
          · exact of_statusWritten hw
      | create _ henv _ _ _ => exact henv.elim
      | commit _ _ henv _ _ => exact henv.elim
      | store hstores =>
          obtain ⟨artifacts, n, hsame⟩ := hstores
          have hartifacts : Quiet db (db.withArtifacts artifacts) :=
            of_same rfl rfl rfl fun _ hsome => hsome
          exact hartifacts.trans ((updateSession _ _ (addBytes_sessionId n)).trans
            (of_sameTables hsame))
  | status hrow hlive hedge hne hw => exact of_statusWritten hw
  | append hseq hrow happ => exact of_appended hseq hrow happ
  | quiet hsame =>
      obtain ⟨approvals, hsame⟩ := hsame
      have happrovals : Quiet db { db with approvals } := of_same rfl rfl rfl fun _ hsome => hsome
      exact happrovals.trans (of_sameTables hsame)

theorem of_moves {db db' : Db} (h : Relation.ReflTransGen (Move fun _ _ _ => False) db db') :
    Quiet db db' := by
  induction h with
  | refl => exact refl db
  | tail _ hlast ih => exact ih.trans (of_move hlast)

end Quiet

section Turn

variable {w : World} {sender : Sender} {sid agentId : String} {turn : Turn}

/-- Quiet changes of the node do not matter to what is held. -/
theorem custody_of_quiet {db : Db} (h : Custody (Held w) w.db) (hquiet : Quiet w.db db) :
    Custody (Held (w.next db none)) db :=
  hquiet.custody _ (h.mono fun _ hb => hb.next none fun row hrow => by
    rw [hquiet.queue]
    exact hrow)

theorem custody_sendTurnMessage {peer content : String} {kind : MessageKind}
    (h : Custody (Held w) w.db) (howner : sender.username = w.db.myUsername)
    (hfree : QueueFree sender w.db sid peer (nextSequence w.db sid sender.username)) :
    Custody (Held (w.next (sendTurnMessage sender sid agentId turn w.db peer kind content).db none))
      (sendTurnMessage sender sid agentId turn w.db peer kind content).db := by
  unfold sendTurnMessage
  simp only
  split
  · exact custody_unchanged h
  rename_i contentHash hhash
  have hactor := rawActorUsername_signedEnvelope howner sid agentId contentHash
    (nextSequence w.db sid sender.username) kind [(.text "content", .text content)]
  split
  · rename_i e hexit
    refine custody_of_own h hactor (.refl _) (.inl fun envelope htakes => ?_)
    obtain ⟨ack, hack, -⟩ := (ingestEnvelope_of_own hactor).2 ⟨envelope, htakes⟩
    rw [hack] at hexit
    cases hexit
  rename_i ack hexit
  have hqueue := (ingestEnvelope_outside (turnContext sender turn) w.db
    (signedEnvelope sender sid agentId contentHash (nextSequence w.db sid sender.username) kind
      [(.text "content", .text content)])).2.2
  obtain ⟨db1, henqueue⟩ := enqueue_of_free ((queueFree_congr hqueue).mpr hfree) kind
    (signedEnvelope sender sid agentId contentHash (nextSequence w.db sid sender.username) kind
      [(.text "content", .text content)])
  rw [henqueue]
  obtain ⟨hneutral, hmem⟩ := enqueue_ok henqueue
  exact custody_of_own h hactor hneutral (.inr (held_of_queued hmem rfl))

theorem QueueFree.of_quiet {db db' : Db} {peer : String}
    (h : QueueFree sender db sid peer (nextSequence db sid sender.username)) (hquiet : Quiet db db') :
    QueueFree sender db' sid peer (nextSequence db' sid sender.username) := by
  rw [hquiet.next, queueFree_congr hquiet.queue]
  exact h

theorem World.next_next (w : World) (db db' : Db) (sent : Option Transmission) :
    (w.next db none).next db' sent = w.next db' sent := by
  simp [World.next]

/-- Every stage before the message is quiet. -/
theorem custody_handleResponse {db : Db} {card : AgentRow} {peer : String}
    (h : Custody (Held w) w.db) (howner : sender.username = w.db.myUsername)
    (hquiet : Quiet w.db db)
    (hfree : turn.response.message.isSome = true →
      QueueFree sender w.db sid peer (nextSequence w.db sid sender.username)) :
    Custody (Held (w.next (handleResponse sender sid agentId turn db card peer).db none))
      (handleResponse sender sid agentId turn db card peer).db := by
  rcases handleResponse_cases sender sid agentId turn db card peer with
    hmoves | ⟨db', kind, content, hmoves, hmessage, heq⟩
  · exact custody_of_quiet h (hquiet.trans (.of_moves hmoves))
  · rw [heq]
    have hquiet' := hquiet.trans (.of_moves hmoves)
    have hbefore : Custody (Held (w.next db' none)) (w.next db' none).db :=
      custody_of_quiet h hquiet'
    have howner' : sender.username = (w.next db' none).db.myUsername := by
      rw [howner, Db.myUsername, ← hquiet'.identity]
      rfl
    rw [← World.next_next w db']
    exact custody_sendTurnMessage hbefore howner' ((hfree (by rw [hmessage]; rfl)).of_quiet hquiet')

theorem custody_advance (h : Custody (Held w) w.db) (howner : sender.username = w.db.myUsername)
    (hkept : TurnKept sender w.db sid turn) :
    Custody (Held (w.next (advanceSessionTurn sender w.db sid turn).db none))
      (advanceSessionTurn sender w.db sid turn).db := by
  unfold advanceSessionTurn
  split
  · exact custody_unchanged h
  rename_i row hrow
  have hcase := hkept row hrow
  simp only
  split
  · exact custody_unchanged h
  split
  · exact custody_unchanged h
  split
  · exact custody_unchanged h
  split
  · exact custody_unchanged h
  · rename_i reason hreason
    rw [hreason] at hcase
    have hpause := custody_statusEvent h howner hcase
    split
    · exact hpause
    · rw [← World.next_next w (pauseSession sender w.db sid reason).db]
      exact custody_of_quiet hpause (.of_move (.audit ..))
  · rename_i hreason
    rw [hreason] at hcase
    exact custody_handleResponse h howner (.updateSession w.db sid fun _ => rfl) hcase

end Turn

/-! ### Bodies of the peer -/

theorem handleOffer_accept {ctx : IngestContext} {db : Db} {raw : Fields} {committed : Committed}
    {t : Transmission} (h : (handleOffer ctx db raw committed).accept = some t) :
    t = sendAccept ctx (handleOffer ctx db raw committed).db committed.envelope.actorUsername
      t.envelope := by
  unfold handleOffer at h ⊢
  simp only at h ⊢
  split at h
  · cases h
  · cases h
  split at h
  · cases h
  split at h
  · cases h
  split at h
  · cases h
  · cases h
    rfl

theorem sendAccept_congr {ctx : IngestContext} {db db' : Db} (h : db'.contacts = db.contacts)
    (peer : String) (body : Fields) : sendAccept ctx db' peer body = sendAccept ctx db peer body := by
  rw [sendAccept, resolvePeerContactInfo_congr h, sendAccept]

/-- The automatic acceptance is offered to the sender of the ingested offer. -/
theorem accept_of_ingestEnvelope {ctx : IngestContext} {db db' : Db} {raw : Fields}
    {committed : Committed} {t : Transmission}
    (hcommit : ingestCommit ctx db raw = (db', .ok committed))
    (hoffer : isPeerOffer db' committed.envelope = true)
    (h : (ingestEnvelope ctx db raw).accept = some t) :
    t = sendAccept ctx db committed.envelope.actorUsername t.envelope := by
  have hres : ingestEnvelope ctx db raw = handleOffer ctx db' raw committed := by
    simp [ingestEnvelope, hcommit, hoffer]
  have hcontacts := (ingestEnvelope_outside ctx db raw).2.1
  rw [hres] at h hcontacts
  have ht := handleOffer_accept h
  rw [sendAccept_congr hcontacts] at ht
  exact ht

theorem custody_ingest {w : World} {ctx : IngestContext} {raw : Fields}
    (h : Custody (Held w) w.db) (hkept : BodyKept ctx w.db raw) :
    Custody (Held (w.next (ingestEnvelope ctx w.db raw).db (ingestEnvelope ctx w.db raw).accept))
      (ingestEnvelope ctx w.db raw).db := by
  have hqueue := (ingestEnvelope_outside ctx w.db raw).2.2
  have hbefore : Custody (Held (w.next (ingestEnvelope ctx w.db raw).db
      (ingestEnvelope ctx w.db raw).accept)) w.db :=
    h.mono fun b hb => hb.next _ fun row hrow => by rw [hqueue]; exact hrow
  refine hbefore.of_ingestEnvelope (fun envelope htakes hactor => ?_)
    fun db' committed signed hcommit hoffer hsigned => ?_
  · obtain ⟨db', hcommit⟩ := htakes.commits
    exact absurd hactor (hkept _ _ hcommit).1
  · have hkind : committed.envelope.kind = .artifactOffer := by
      simp only [isPeerOffer, Bool.and_eq_true, beq_iff_eq] at hoffer
      exact hoffer.1
    refine ((hkept _ _ hcommit).2 hkind signed hsigned).imp_right fun hreached t ht hbody => ?_
    rw [← hbody, ← accept_of_ingestEnvelope hcommit hoffer ht] at hreached
    rw [ht, ← hbody]
    exact held_of_sent rfl hreached

/-! ### Whole runs -/

theorem custody_perform (w : World) (call : Call) (h : Custody (Held w) w.db)
    (hkeeps : Keeps w call) : Custody (Held (perform w call)) (perform w call).db := by
  obtain ⟨howner, hkept⟩ := hkeeps
  cases call with
  | ingest ctx raw => exact custody_ingest h hkept
  | dispatch sender request => exact custody_request h (howner sender rfl) hkept
  | send sender sid kind payload agentId => exact custody_message h (howner sender rfl) hkept
  | respond sender sid decision agentId reason =>
      change Custody (Held (w.next (respondToSession sender w.db sid decision agentId reason).db
        (respondToSession sender w.db sid decision agentId reason).sent))
        (respondToSession sender w.db sid decision agentId reason).db
      rw [respondToSession_eq]
      cases hmessage : responseMessage w.db decision agentId reason with
      | none => exact custody_unchanged h
      | some message => exact custody_message h (howner sender rfl) (hkept _ _ hmessage)
  | cancel sender sid reason => exact custody_cancel h (howner sender rfl) hkept
  | pause sender sid reason =>
      change Custody (Held (w.next (pauseSession sender w.db sid reason).db
        (pauseSession sender w.db sid reason).sent)) (pauseSession sender w.db sid reason).db
      rw [pauseSession, ownerStatusEvent_sent]
      exact custody_statusEvent h (howner sender rfl) hkept
  | resume sender sid reason =>
      change Custody (Held (w.next (resumeSession sender w.db sid reason).db
        (resumeSession sender w.db sid reason).sent)) (resumeSession sender w.db sid reason).db
      rw [resumeSession, ownerStatusEvent_sent]
      exact custody_statusEvent h (howner sender rfl) hkept
  | offer sender sid artifactId => exact custody_offer h (howner sender rfl) hkept
  | advance sender sid turn => exact custody_advance h (howner sender rfl) hkept

theorem custody_fresh (identity : Option String) (contacts : List ContactRow)
    (agents : List AgentRow) :
    Custody (Held (World.fresh identity contacts agents)) (World.fresh identity contacts agents).db where
  log := logInvariant_fresh identity contacts agents
  covered _ hmem _ _ := by cases hmem

/-- On a sequenced log, the owner's numbers below the next one are those of the
stored events. -/
theorem exists_event_of_lt {db : Db} (h : LogInvariant db) {sid actor : String} {n : Nat}
    (hpos : 1 ≤ n) (hlt : n < nextSequence db sid actor) :
    ∃ event ∈ db.sessionEvents, event.sessionId = sid ∧ event.actorUsername = actor ∧
      event.sequence = some n := by
  have hnumbers : sequencesOf db sid actor = List.range' 1 (sequencesOf db sid actor).length :=
    (h.sequenced sid).numbered actor
  rw [nextSequence_eq h] at hlt
  have hmem : n ∈ sequencesOf db sid actor := by
    rw [hnumbers, List.mem_range'_1]
    omega
  obtain ⟨event, hevent, hseq⟩ := List.mem_filterMap.mp hmem
  obtain ⟨hof, hactor⟩ := List.mem_filter.mp hevent
  obtain ⟨hevents, hsid⟩ := List.mem_filter.mp hof
  exact ⟨event, hevents, by simpa using hsid, by simpa using hactor, hseq⟩

theorem nothingLost_of_custody {w : World} (h : Custody (Held w) w.db) : NothingLost w where
  covered := h.covered
  gapless sid n hpos hlt := by
    obtain ⟨event, hmem, hsid, hactor, hseq⟩ := exists_event_of_lt h.log hpos hlt
    obtain ⟨body, hheld, envelope, hvalid, hesid, heactor, heseq, -⟩ :=
      h.covered event hmem hactor (by rw [hseq]; rfl)
    refine ⟨body, envelope, hheld, hvalid, hesid ▸ hsid, heactor ▸ hactor, ?_⟩
    rw [hseq] at heseq
    exact (Option.some.inj heseq).symm

namespace Sample

open Kin.Transport.Sample

/-- `alice` asks `bob` while nobody is reachable. -/
def dispatched : Call :=
  .dispatch (sender "alice")
    { sessionId := "s1", peerUsername := "bob", senderAgentId := "scout", receiverAgentId := "bot",
      mode := .ask, goal := "hello" }

/-- `bob`'s acceptance. -/
def accepted : Call :=
  .ingest context (envelope "s1" "bob" "bot" 1 .acceptance [(.text "accepting_agent_id", .text "bot")])

/-- `alice`'s node before anything happened. -/
def aliceWorld : World := World.fresh (some "alice") [] []

/-- What the sample comes to, decided together. -/
theorem aliceWorld_facts :
    (perform aliceWorld dispatched).db.myUsername ≠ "bob" ∧
      (run perform aliceWorld [dispatched, accepted]).db.status? "s1" = some .active ∧
      let w := run perform aliceWorld
        [dispatched, accepted, .cancel (sender "alice") "s1" "User cancelled session"]
      (∃ event ∈ w.db.sessionEvents, event.actorUsername = w.db.myUsername ∧
        event.sequence = some 2) ∧
      (∀ t ∈ w.sent, ¬(accepted? t.direct = true ∨ accepted? t.relay = true)) ∧
      ∀ row ∈ w.db.outboundEnvelopeQueue.rows,
        (validateEnvelope row.envelope).map (·.sequence) = some 1 := by
  decide +kernel

theorem dispatched_keeps : Keeps aliceWorld dispatched := by
  refine ⟨fun s hs => ?_, fun contentHash _ => .inr ⟨rfl, .inr (And.intro rfl rfl)⟩⟩
  cases hs
  rfl

theorem accepted_keeps : Keeps (perform aliceWorld dispatched) accepted := by
  refine ⟨fun s hs => (by cases hs), fun db' committed hcommit => ?_⟩
  obtain ⟨_, _, _, _, haccepts⟩ := takes_of_committed hcommit
  have hread := readFrom_of_verified haccepts.verified
  have hactor : Json.text "bob" = .text committed.envelope.actorUsername := hread.actorUsername
  have hkind : Json.text MessageKind.acceptance.value = .text committed.envelope.kind.value :=
    hread.kind
  simp only [Json.str.injEq, PyStr.text.injEq, MessageKind.value_inj] at hactor hkind
  refine ⟨?_, fun hoffer => ?_⟩
  · rw [← hactor]
    exact aliceWorld_facts.1.symm
  · rw [← hkind] at hoffer
    cases hoffer

end Sample

end Kin.Node
