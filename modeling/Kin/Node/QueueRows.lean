import Kin.Node.Activity

/-!
The rows of the outbound queue. A call of the owner only adds pending rows. A sweep adds none,
keeps the envelope of each, and takes a row for delivered or relayed only when the peer or the
relay has accepted its envelope in this sweep.
-/

namespace Kin.Node

open Kin.Py Kin.Lib Kin.Schemas Kin.Session Kin.Storage Kin.Audit Kin.Transport

variable {db db' db'' : Db}

/-! ### Calls -/

structure AddsPending (db db' : Db) : Prop where
  rows : ∀ row ∈ db'.outboundEnvelopeQueue.rows,
    row ∈ db.outboundEnvelopeQueue.rows ∨ row.delivery.state = .pending

namespace AddsPending

theorem of_queue (h : db'.outboundEnvelopeQueue = db.outboundEnvelopeQueue) : AddsPending db db' where
  rows row hrow := by
    rw [h] at hrow
    exact .inl hrow

theorem refl (db : Db) : AddsPending db db := of_queue rfl

theorem trans (h : AddsPending db db') (h' : AddsPending db' db'') : AddsPending db db'' where
  rows row hrow := by
    rcases h'.rows row hrow with hold | hpending
    · exact h.rows row hold
    · exact .inr hpending

theorem of_quiet (h : Quiet db db') : AddsPending db db' := of_queue h.queue

theorem ingest (ctx : IngestContext) (db : Db) (raw : Fields) :
    AddsPending db (ingestEnvelope ctx db raw).db := of_queue (ingestEnvelope_outside ctx db raw).2.2

theorem selfIngest {ctx : IngestContext} {body : Fields} {exit : Except PyExc Unit}
    (h : Transport.selfIngest ctx db body = (db', exit)) : AddsPending db db' := by
  have hdb : (ingestEnvelope ctx db body).db = db' := by rw [← selfIngest_fst, h]
  rw [← hdb]
  exact ingest ctx db body

theorem nodeCommand (ext : Externals) (db : Db) (sid : String) (command : NodeCommand)
    (now : Instant) : AddsPending db (applyNodeCommandTransition ext db sid command now).1 :=
  of_queue (nodeCommand_frame ext db sid command now).1

theorem enqueue {row : QueueRow} (h : Transport.enqueue db row = .ok db')
    (hpending : row.delivery.state = .pending) : AddsPending db db' := by
  unfold Transport.enqueue OutboundQueue.insert? at h
  split at h
  · rename_i q hq
    cases h
    split at hq
    · cases hq
      refine ⟨fun row' hrow' => ?_⟩
      rcases List.mem_append.mp hrow' with hold | hnew
      · exact .inl hold
      · rw [List.mem_singleton.mp hnew]
        exact .inr hpending
    · cases hq
  · cases h

end AddsPending

section Calls

variable (sender : Sender) (db : Db) (sid : String)

theorem addsPending_message (kind : MessageKind) (payload : Fields) (agentId : Option String) :
    AddsPending db (sendSessionMessage sender db sid kind payload agentId).db := by
  unfold sendSessionMessage
  split
  · exact .refl db
  simp only
  split
  · exact .refl db
  split
  · rename_i hself
    exact .selfIngest hself
  · rename_i hself
    refine (AddsPending.selfIngest hself).trans ?_
    unfold deliverMessage
    simp only
    split
    · exact .refl _
    split
    · exact .refl _
    rename_i henqueue
    unfold enqueueIfAbsent at henqueue
    split at henqueue
    · cases henqueue
      exact .refl _
    · exact .enqueue henqueue rfl

theorem addsPending_deliverRequest (peer : String) (body : Fields) :
    AddsPending db (deliverRequest sender db sid peer body).db := by
  rcases deliverRequest_cases sender db sid peer body with h | ⟨-, h⟩ | ⟨-, h | h, -⟩
  · rw [h]
    unfold requestFallback
    simp only
    split
    · exact .nodeCommand ..
    split
    · exact .refl db
    · rename_i henqueue
      exact .enqueue henqueue rfl
  · rw [h]
    exact .nodeCommand ..
  · rw [h]
    exact .refl db
  · rw [h]
    exact .nodeCommand ..

theorem addsPending_dispatch (request : Request) :
    AddsPending db (dispatchSession sender db request).db := by
  unfold dispatchSession
  simp only
  split
  · exact .refl db
  split
  · exact .refl db
  split
  · exact .refl db
  split
  · rename_i hself
    exact .selfIngest hself
  · rename_i hself
    exact (AddsPending.selfIngest hself).trans (addsPending_deliverRequest ..)

theorem addsPending_cancel (reason : String) :
    AddsPending db (cancelSession sender db sid reason).db := by
  unfold cancelSession
  split
  · exact .refl db
  simp only
  split
  · exact .refl db
  split
  · rename_i hself
    exact .selfIngest hself
  · rename_i hself
    exact .selfIngest hself

theorem addsPending_offer (artifactId : String) :
    AddsPending db (sendArtifactOffer sender db sid artifactId).db := by
  unfold sendArtifactOffer
  split
  · exact .refl db
  split
  · exact .refl db
  split
  · exact .refl db
  simp only
  split
  · exact .refl db
  split
  · exact .refl db
  split
  · rename_i hself
    exact .selfIngest hself
  · rename_i hself
    rw [deliverOffer_db]
    exact .selfIngest hself

theorem addsPending_statusEvent {action : OwnerAction} {target : Status}
    (haction : action.target = .ok target) (statusEvent reason : String) :
    AddsPending db (ownerStatusEvent sender db sid action target statusEvent reason).db := by
  rcases ownerStatusEvent_cases sender db sid statusEvent reason haction with
    h | ⟨row, db1, -, -, -, hw, h | ⟨peerKey, agentId, contentHash, sequence, payload, h⟩⟩
  · rw [h]
    exact .refl db
  · rw [h]
    exact .of_quiet (.of_statusWritten hw)
  · rw [h]
    exact (AddsPending.of_quiet (.of_statusWritten hw)).trans (.ingest ..)

theorem addsPending_turn (turn : Turn) : AddsPending db (advanceSessionTurn sender db sid turn).db := by
  cases hinvocation : invocation? sender db sid with
  | none =>
      have hpause : ∀ reason, AddsPending db (pauseSession sender db sid reason).db :=
        fun reason => addsPending_statusEvent sender db sid rfl _ reason
      obtain ⟨e, heq⟩ | ⟨reason, heq⟩ := advanceSessionTurn_of_none hinvocation turn
      · rw [heq]
        exact .refl db
      · rw [heq]
        obtain hdb | hdb := exhaustedTurn_db sender db sid reason
        · rw [hdb]
          exact hpause reason
        · rw [hdb]
          exact (hpause reason).trans (.of_quiet (.of_move (.audit ..)))
  | some i =>
      rw [advanceSessionTurn_of_some hinvocation]
      have hspent : AddsPending db (db.updateSession sid addCost) :=
        .of_quiet (.updateSession db sid fun _ => rfl)
      refine hspent.trans ?_
      rcases handleResponse_cases sender sid i.agentId turn (db.updateSession sid addCost) i.card
        (peerOf sender i.row) with hmoves | ⟨db', kind, content, hmoves, -, heq⟩
      · exact .of_quiet (.of_moves hmoves)
      · rw [heq]
        refine (AddsPending.of_quiet (.of_moves hmoves)).trans ?_
        unfold sendTurnMessage
        simp only
        split
        · exact .refl db'
        split
        · exact .ingest ..
        split
        · exact .ingest ..
        · rename_i henqueue
          exact (AddsPending.ingest ..).trans (.enqueue henqueue rfl)

end Calls

/-- The owner's calls add pending rows to the queue, and change none. -/
theorem addsPending_perform (w : World) (call : Call) : AddsPending w.db (perform w call).db := by
  cases call with
  | ingest ctx raw => exact .ingest ctx w.db raw
  | dispatch sender request => exact addsPending_dispatch sender w.db request
  | send sender sid kind payload agentId => exact addsPending_message ..
  | respond sender sid decision agentId reason =>
      show AddsPending w.db (respondToSession sender w.db sid decision agentId reason).db
      rw [respondToSession_eq]
      split
      · exact .refl w.db
      · exact addsPending_message ..
  | cancel sender sid reason => exact addsPending_cancel sender w.db sid reason
  | pause sender sid reason => exact addsPending_statusEvent sender w.db sid rfl _ reason
  | resume sender sid reason => exact addsPending_statusEvent sender w.db sid rfl _ reason
  | offer sender sid artifactId => exact addsPending_offer sender w.db sid artifactId
  | advance sender sid turn => exact addsPending_turn sender w.db sid turn

/-! ### Sweeps -/

/-- What becomes of a row in a sweep that makes these offers. -/
structure Swept (offers : List Offer) (row row' : QueueRow) : Prop where
  queueId : row'.queueId = row.queueId
  envelope : row'.envelope = row.envelope
  delivered : row'.delivery.state = .delivered → row.delivery.state = .delivered ∨
    ∃ o ∈ offers, o.row.envelope = row.envelope ∧ accepted? o.direct = true
  relayed : row'.delivery.state = .relayed → row.delivery.state = .relayed ∨
    ∃ o ∈ offers, o.row.envelope = row.envelope ∧ accepted? o.relay = true

structure RowsSwept (offers : List Offer) (db db' : Db) : Prop where
  kept : ∀ row ∈ db.outboundEnvelopeQueue.rows,
    ∃ row' ∈ db'.outboundEnvelopeQueue.rows, Swept offers row row'
  added : ∀ row' ∈ db'.outboundEnvelopeQueue.rows,
    ∃ row ∈ db.outboundEnvelopeQueue.rows, Swept offers row row'

section Sweep

variable {offers offers' : List Offer} {row row' row'' : QueueRow} {sweep : Sweep}
  {expiresAt : Option Instant}

theorem Swept.refl (offers : List Offer) (row : QueueRow) : Swept offers row row :=
  ⟨rfl, rfl, .inl, .inl⟩

theorem Swept.trans (h : Swept offers row row') (h' : Swept offers' row' row'') :
    Swept (offers ++ offers') row row'' where
  queueId := h'.queueId.trans h.queueId
  envelope := h'.envelope.trans h.envelope
  delivered hstate := by
    rcases h'.delivered hstate with hbefore | ⟨o, ho, henvelope, haccepted⟩
    · rcases h.delivered hbefore with hold | ⟨o, ho, hoffer⟩
      · exact .inl hold
      · exact .inr ⟨o, List.mem_append_left _ ho, hoffer⟩
    · exact .inr ⟨o, List.mem_append_right _ ho, henvelope.trans h.envelope, haccepted⟩
  relayed hstate := by
    rcases h'.relayed hstate with hbefore | ⟨o, ho, henvelope, haccepted⟩
    · rcases h.relayed hbefore with hold | ⟨o, ho, hoffer⟩
      · exact .inl hold
      · exact .inr ⟨o, List.mem_append_left _ ho, hoffer⟩
    · exact .inr ⟨o, List.mem_append_right _ ho, henvelope.trans h.envelope, haccepted⟩

theorem RowsSwept.of_queue (offers : List Offer)
    (h : db'.outboundEnvelopeQueue = db.outboundEnvelopeQueue) : RowsSwept offers db db' where
  kept row hrow := ⟨row, by rw [h]; exact hrow, .refl offers row⟩
  added row hrow := ⟨row, by rw [← h]; exact hrow, .refl offers row⟩

theorem RowsSwept.trans (h : RowsSwept offers db db') (h' : RowsSwept offers' db' db'') :
    RowsSwept (offers ++ offers') db db'' where
  kept row hrow := by
    obtain ⟨row', hrow', hswept⟩ := h.kept row hrow
    obtain ⟨row'', hrow'', hswept'⟩ := h'.kept row' hrow'
    exact ⟨row'', hrow'', hswept.trans hswept'⟩
  added row'' hrow'' := by
    obtain ⟨row', hrow', hswept'⟩ := h'.added row'' hrow''
    obtain ⟨row, hrow, hswept⟩ := h.added row' hrow'
    exact ⟨row, hrow, hswept.trans hswept'⟩

/-- Writing the delivery columns of one row. -/
theorem rowsSwept_setDelivery {queueId : String} {f : Delivery → Delivery}
    (h : ∀ row ∈ db.outboundEnvelopeQueue.rows, row.queueId = queueId →
      Swept offers row { row with delivery := f row.delivery }) :
    RowsSwept offers db (setDelivery db queueId f) := by
  have hrow : ∀ row ∈ db.outboundEnvelopeQueue.rows, Swept offers row
      (if row.queueId = queueId then { row with delivery := f row.delivery } else row) := by
    intro row hrow
    split
    · rename_i hid
      exact h row hrow hid
    · exact .refl offers row
  refine ⟨fun row hmem => ⟨_, List.mem_map_of_mem hmem, hrow row hmem⟩, ?_⟩
  intro row' hmem'
  obtain ⟨row, hmem, rfl⟩ := List.mem_map.mp hmem'
  exact ⟨row, hmem, hrow row hmem⟩

def StillQueued (db : Db) (row : QueueRow) : Prop :=
  ∀ row' ∈ db.outboundEnvelopeQueue.rows, row'.queueId = row.queueId → row'.envelope = row.envelope

theorem StillQueued.swept (h : StillQueued db row) (hswept : RowsSwept offers db db') :
    StillQueued db' row := by
  intro row' hrow' hid
  obtain ⟨row₀, hrow₀, hrowSwept⟩ := hswept.added row' hrow'
  rw [hrowSwept.envelope]
  exact h row₀ hrow₀ (hrowSwept.queueId.symm.trans hid)

@[simp] theorem state_noteError (result : Option HttpResult) (d : Delivery) :
    (noteError result d).state = d.state := by
  unfold noteError
  split <;> rfl

/-- One row: it is taken for delivered or relayed when its offer was accepted. -/
theorem rowsSwept_retryRow (hqueued : StillQueued db row) :
    RowsSwept (retryRow sweep db row expiresAt).offers db (retryRow sweep db row expiresAt).db := by
  have hcommand : ∀ {offers : List Offer} {f : Delivery → Delivery} (command : NodeCommand),
      RowsSwept offers db (setDelivery db row.queueId f) →
      RowsSwept offers db (applyNodeCommandTransition sweep.ext (setDelivery db row.queueId f)
        row.sessionId command sweep.now).1 := by
    intro offers f command hset
    have hqueue := (nodeCommand_frame sweep.ext (setDelivery db row.queueId f) row.sessionId command
      sweep.now).1
    exact ⟨by rw [hqueue]; exact hset.kept, by rw [hqueue]; exact hset.added⟩
  -- a state that says nothing of an acceptance
  have hother : ∀ (offers : List Offer) (f : Delivery → Delivery),
      (∀ d, (f d).state ≠ .delivered ∧ (f d).state ≠ .relayed ∨ (f d).state = d.state) →
      RowsSwept offers db (setDelivery db row.queueId f) := by
    intro offers f hf
    refine rowsSwept_setDelivery fun row' _ _ => ⟨rfl, rfl, fun hstate => ?_, fun hstate => ?_⟩
    · rcases hf row'.delivery with hne | hsame
      · exact absurd hstate hne.1
      · exact .inl (hsame.symm.trans hstate)
    · rcases hf row'.delivery with hne | hsame
      · exact absurd hstate hne.2
      · exact .inl (hsame.symm.trans hstate)
  unfold retryRow
  simp only
  split
  · exact hother _ _ fun d => .inl ⟨by simp [setState], by simp [setState]⟩
  split
  · exact hcommand _ (hother _ _ fun d => .inl ⟨by simp [setState], by simp [setState]⟩)
  split
  · rename_i haccepted
    refine hcommand _ (rowsSwept_setDelivery fun row' hrow' hid => ⟨rfl, rfl, fun _ => ?_, ?_⟩)
    · exact .inr ⟨_, List.mem_singleton_self _, (hqueued row' hrow' hid).symm, haccepted⟩
    · intro hstate
      cases hstate
  split
  · exact hcommand _ (hother _ _ fun d => .inl ⟨by simp, by simp⟩)
  split
  · rename_i haccepted
    refine rowsSwept_setDelivery fun row' hrow' hid => ⟨rfl, rfl, ?_, fun _ => ?_⟩
    · intro hstate
      cases hstate
    · exact .inr ⟨_, List.mem_singleton_self _, (hqueued row' hrow' hid).symm, haccepted⟩
  · exact hother _ _ fun d => .inr (by simp [postpone])

theorem rowsSwept_retryRows (rows : List (QueueRow × Option Instant))
    (hqueued : ∀ item ∈ rows, StillQueued db item.1) :
    RowsSwept (retryRows sweep db rows).offers db (retryRows sweep db rows).db := by
  induction rows generalizing db with
  | nil => exact .of_queue _ rfl
  | cons item rows ih =>
      have hfirst : RowsSwept _ db (retryRow sweep db item.1 item.2).db :=
        rowsSwept_retryRow (hqueued item List.mem_cons_self)
      refine hfirst.trans (ih fun later hlater => ?_)
      exact (hqueued later (List.mem_cons_of_mem _ hlater)).swept hfirst

theorem rowsSwept_retryOutboundQueue (sweep : Sweep) (db : Db) :
    RowsSwept (retryOutboundQueue sweep db).offers db (retryOutboundQueue sweep db).db := by
  refine rowsSwept_retryRows _ fun item hitem row' hrow' hid => ?_
  obtain ⟨row, hrow, rfl⟩ := List.mem_map.mp hitem
  have hsame : row' = row := List.inj_on_of_nodup_map db.outboundEnvelopeQueue.primaryKey hrow'
    (mem_due.mp hrow).1 hid
  rw [hsame]

end Sweep

end Kin.Node
