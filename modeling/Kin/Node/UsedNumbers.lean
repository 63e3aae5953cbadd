import Kin.Node.Budget
import Kin.Node.NextEnvelope

/-!
Numbers of queued envelopes. Whatever a node queues outside a turn, it ingested before, and
was not turned down: the envelope's number is used up in the log. So the next number of the
owner is free in the queue.
-/

namespace Kin.Node

open Kin.Py Kin.Lib Kin.Schemas Kin.Session Kin.Storage Kin.Audit Kin.Artifacts Kin.Policy
  Kin.Transport

/-- Every queued envelope carries a number that the owner has used. -/
def Backed (owner : String) (db : Db) : Prop :=
  ∀ row ∈ db.outboundEnvelopeQueue.rows, row.sequence < nextSequence db row.sessionId owner

/-- The log grows, and the queue by envelopes under used numbers only. -/
structure Queues (owner : String) (db db' : Db) : Prop where
  log : db.sessionEvents <+: db'.sessionEvents
  rows : ∀ row ∈ db'.outboundEnvelopeQueue.rows,
    (∃ old ∈ db.outboundEnvelopeQueue.rows, old.envelopeKey = row.envelopeKey) ∨
      row.sequence < nextSequence db' row.sessionId owner

variable {owner : String} {db db' : Db}

theorem Backed.of_queues (h : Backed owner db) (hqueues : Queues owner db db') :
    Backed owner db' := by
  intro row hrow
  rcases hqueues.rows row hrow with ⟨old, hold, hkey⟩ | hused
  · simp only [QueueRow.envelopeKey, Prod.mk.injEq] at hkey
    have hlt := h old hold
    rw [hkey.1, hkey.2.1] at hlt
    exact lt_of_lt_of_le hlt (nextSequence_mono hqueues.log _ _)
  · exact hused

namespace Queues

theorem refl (owner : String) (db : Db) : Queues owner db db :=
  ⟨List.prefix_rfl, fun row hrow => .inl ⟨row, hrow, rfl⟩⟩

theorem trans {a b c : Db} (hab : Queues owner a b) (hbc : Queues owner b c) :
    Queues owner a c where
  log := hab.log.trans hbc.log
  rows row hrow := by
    rcases hbc.rows row hrow with ⟨mid, hmid, hkey⟩ | hused
    · rcases hab.rows mid hmid with ⟨old, hold, hkey'⟩ | hused
      · exact .inl ⟨old, hold, hkey'.trans hkey⟩
      · simp only [QueueRow.envelopeKey, Prod.mk.injEq] at hkey
        rw [hkey.1, hkey.2.1] at hused
        exact .inr (lt_of_lt_of_le hused (nextSequence_mono hbc.log _ _))
    · exact .inr hused

theorem of_same (hlog : db.sessionEvents <+: db'.sessionEvents)
    (hqueue : db'.outboundEnvelopeQueue = db.outboundEnvelopeQueue) : Queues owner db db' where
  log := hlog
  rows row hrow := by
    rw [hqueue] at hrow
    exact .inl ⟨row, hrow, rfl⟩

end Queues

theorem queue_of_move {envelopes : IngestContext → Db → SessionEnvelope → Prop}
    (h : Move envelopes db db') : db'.outboundEnvelopeQueue = db.outboundEnvelopeQueue := by
  cases h with
  | ingest hmove => exact hmove.outside.2
  | status _ _ _ _ hwritten =>
      rw [SameTables.outboundEnvelopeQueue hwritten]
      rfl
  | append _ _ happended =>
      rw [SameTables.outboundEnvelopeQueue happended]
      rfl
  | quiet hquiet =>
      obtain ⟨_, hsame⟩ := hquiet
      exact hsame.outboundEnvelopeQueue

theorem tables_of_moves {envelopes : IngestContext → Db → SessionEnvelope → Prop}
    (h : Relation.ReflTransGen (Move envelopes) db db') :
    db.sessionEvents <+: db'.sessionEvents ∧
      db'.outboundEnvelopeQueue = db.outboundEnvelopeQueue := by
  induction h with
  | refl => exact ⟨List.prefix_rfl, rfl⟩
  | tail _ hlast ih =>
      exact ⟨ih.1.trans (sessionEvents_prefix_of_move hlast), (queue_of_move hlast).trans ih.2⟩

theorem queues_of_moves {envelopes : IngestContext → Db → SessionEnvelope → Prop}
    (h : Relation.ReflTransGen (Move envelopes) db db') : Queues owner db db' :=
  .of_same (tables_of_moves h).1 (tables_of_moves h).2

theorem queues_ingestEnvelope (ctx : IngestContext) (db : Db) (raw : Fields) :
    Queues owner db (ingestEnvelope ctx db raw).db :=
  .of_same (sessionEvents_prefix_ingestEnvelope ctx db raw) (ingestEnvelope_outside ctx db raw).2.2

theorem queues_enqueue {row : QueueRow} (h : enqueue db row = .ok db')
    (hused : row.sequence < nextSequence db row.sessionId owner) : Queues owner db db' := by
  unfold enqueue OutboundQueue.insert? at h
  split at h
  · rename_i queue hqueue
    cases h
    split at hqueue
    · cases hqueue
      refine ⟨List.prefix_rfl, fun other hother => ?_⟩
      rcases List.mem_append.mp hother with hold | hnew
      · exact .inl ⟨other, hold, rfl⟩
      · rw [List.mem_singleton.mp hnew]
        exact .inr hused
    · cases hqueue
  · cases h

/-- A body that is answered without a rejection has used its number. -/
theorem used_of_answered {ctx : IngestContext} {raw : Fields} {sid actor : String} {n : Nat}
    (hsid : rawSessionId raw = .text sid) (hactor : rawActorUsername raw = .text actor)
    (hseq : rawSequence raw = .int n) {ack : TransportAcknowledgement}
    (hexit : (ingestEnvelope ctx db raw).exit = .ok ack) (hstatus : ack.status ≠ .rejected) :
    n < nextSequence (ingestEnvelope ctx db raw).db sid actor := by
  obtain ⟨envelope, hread, event, hmem, hesid, heactor, heseq⟩ :=
    exists_event_of_answered hexit hstatus
  rw [hread.sessionId] at hsid
  rw [hread.actorUsername] at hactor
  rw [hread.sequence] at hseq
  cases hsid
  cases hactor
  cases hseq
  exact lt_nextSequence hmem hesid heactor heseq

/-! ### The owner's sends -/

section Sends

variable {sender : Sender} {sid peer : String}

theorem queues_selfIngest {ctx : IngestContext} {body : Fields} {exit : Except PyExc Unit}
    (h : selfIngest ctx db body = (db', exit)) : Queues owner db db' := by
  have hdb : (ingestEnvelope ctx db body).db = db' := by rw [← selfIngest_fst, h]
  rw [← hdb]
  exact queues_ingestEnvelope ctx db body

theorem used_of_selfIngest {ctx : IngestContext} {agentId contentHash : String} {n : Nat}
    {kind : MessageKind} {payload : Fields}
    (h : selfIngest ctx db (signedEnvelope sender sid agentId contentHash n kind payload) =
      (db', .ok ())) : n < nextSequence db' sid sender.username := by
  have hdb : (ingestEnvelope ctx db
      (signedEnvelope sender sid agentId contentHash n kind payload)).db = db' := by
    rw [← selfIngest_fst, h]
  rw [← hdb]
  unfold selfIngest at h
  dsimp only at h
  split at h
  · cases h
  rename_i ack hexit
  split at h
  · cases h
  · rename_i hstatus
    exact used_of_answered rfl rfl rfl hexit hstatus

theorem queues_deliverMessage {n : Nat} (kind : MessageKind) (body : Fields)
    (hused : n < nextSequence db sid sender.username) :
    Queues sender.username db (deliverMessage sender db sid peer n kind body).db := by
  unfold deliverMessage
  dsimp only
  split
  · exact .refl _ db
  split
  · exact .refl _ db
  rename_i henqueue
  unfold enqueueIfAbsent at henqueue
  split at henqueue
  · cases henqueue
    exact .refl _ db
  · exact queues_enqueue henqueue hused

theorem queues_sendSessionMessage (db : Db) (kind : MessageKind) (payload : Fields)
    (agentId : Option String) :
    Queues sender.username db (sendSessionMessage sender db sid kind payload agentId).db := by
  unfold sendSessionMessage
  split
  · exact .refl _ db
  dsimp only
  split
  · exact .refl _ db
  split
  · rename_i hself
    exact queues_selfIngest hself
  · rename_i hself
    exact (queues_selfIngest hself).trans
      (queues_deliverMessage kind _ (used_of_selfIngest hself))

theorem queues_respondToSession (db : Db) (decision : ResponseDecision)
    (agentId reason : Option String) :
    Queues sender.username db (respondToSession sender db sid decision agentId reason).db := by
  rw [respondToSession_eq]
  split
  · exact .refl _ db
  · exact queues_sendSessionMessage ..

theorem queues_nodeCommand (ext : Externals) (db : Db) (command : NodeCommand) (now : Instant) :
    Queues owner db (applyNodeCommandTransition ext db sid command now).1 := by
  have hmoves : Relation.ReflTransGen (Move fun _ _ _ => False) db
      (applyNodeCommandTransition ext db sid command now).1 := .single (nodeCommand_move ..)
  exact queues_of_moves hmoves

theorem queues_requestFallback (body : Fields) (hused : 1 < nextSequence db sid sender.username) :
    Queues sender.username db (requestFallback sender db sid peer body).db := by
  unfold requestFallback
  dsimp only
  split
  · exact queues_nodeCommand ..
  split
  · exact .refl _ db
  · rename_i henqueue
    exact queues_enqueue henqueue hused

theorem queues_deliverRequest (body : Fields) (hused : 1 < nextSequence db sid sender.username) :
    Queues sender.username db (deliverRequest sender db sid peer body).db := by
  rcases deliverRequest_cases sender db sid peer body with h | ⟨-, h⟩ | ⟨-, h | h, -⟩
  · rw [h]
    exact queues_requestFallback body hused
  · rw [h]
    exact queues_nodeCommand ..
  · rw [h]
    exact .refl _ db
  · rw [h]
    exact queues_nodeCommand ..

theorem queues_dispatchSession (db : Db) (request : Request) :
    Queues sender.username db (dispatchSession sender db request).db := by
  unfold dispatchSession
  dsimp only
  split
  · exact .refl _ db
  split
  · exact .refl _ db
  split
  · exact .refl _ db
  split
  · rename_i hself
    exact queues_selfIngest hself
  · rename_i hself
    exact (queues_selfIngest hself).trans (queues_deliverRequest _ (used_of_selfIngest hself))

theorem queues_cancelSession (db : Db) (reason : String) :
    Queues owner db (cancelSession sender db sid reason).db := by
  unfold cancelSession
  split
  · exact .refl owner db
  dsimp only
  split
  · exact .refl owner db
  split
  · rename_i hself
    exact queues_selfIngest hself
  · rename_i hself
    exact queues_selfIngest hself

theorem queues_sendArtifactOffer (db : Db) (artifactId : String) :
    Queues owner db (sendArtifactOffer sender db sid artifactId).db := by
  unfold sendArtifactOffer
  split
  · exact .refl owner db
  split
  · exact .refl owner db
  split
  · exact .refl owner db
  dsimp only
  split
  · exact .refl owner db
  split
  · exact .refl owner db
  split
  · rename_i hself
    exact queues_selfIngest hself
  · rename_i hself
    rw [deliverOffer_db]
    exact queues_selfIngest hself

theorem queues_tagInHandoff (db : Db) (args : TagIn) :
    Queues sender.username db (tagInHandoff sender db sid args).db := by
  have hannounce : ∀ (agentId : Option String) (payload : Fields),
      Queues sender.username db (announceChange sender db sid agentId args payload).db := by
    intro agentId payload
    unfold announceChange
    split
    · exact queues_sendSessionMessage ..
    split
    · exact .refl _ db
    dsimp only
    split
    · exact queues_ingestEnvelope ..
    · exact queues_ingestEnvelope ..
  unfold tagInHandoff
  split
  · exact .refl _ db
  split
  · exact .refl _ db
  dsimp only
  split
  · exact .refl _ db
  split
  · exact hannounce ..
  · exact (hannounce _ _).trans (.of_same List.prefix_rfl rfl)

end Sends

theorem queues_retryRow (sweep : Sweep) (db : Db) (row : QueueRow) (expiresAt : Option Instant) :
    Queues owner db (retryRow sweep db row expiresAt).db := by
  have hset : ∀ f, Queues owner db (setDelivery db row.queueId f) := by
    intro f
    refine ⟨List.prefix_rfl, fun other hother => .inl ?_⟩
    obtain ⟨old, hold, rfl⟩ := List.mem_map.mp hother
    refine ⟨old, hold, ?_⟩
    split <;> rfl
  obtain ⟨f, h | ⟨command, h⟩⟩ := retryRow_db sweep db row expiresAt
  · rw [h]
    exact hset f
  · rw [h]
    exact (hset f).trans (queues_nodeCommand ..)

theorem queues_retryRows (sweep : Sweep) (db : Db) (rows : List (QueueRow × Option Instant)) :
    Queues owner db (retryRows sweep db rows).db := by
  induction rows generalizing db with
  | nil => exact .refl owner db
  | cons item rows ih => exact (queues_retryRow sweep db item.1 item.2).trans (ih _)

end Kin.Node
