import Kin.Transport.Outbound

/-!
`retry_outbound_queue` of `kin/transport/v11.py`: one sweep over the pending rows
whose `next_retry_at` has come, in whatever order SQLite returns them. A row of a
terminal session is abandoned, a row of an overdue one expires; any other row is
offered to the peer and then to the relay, and waits for a longer time if both
fail.
-/

namespace Kin.Transport

open Kin.Py Kin.Lib Kin.Schemas Kin.Session Kin.Storage Kin.Audit

/-- The arguments of `retry_outbound_queue`, with the order in which the query
returns its rows. -/
structure Sweep where
  ext : Externals
  now : Instant
  http : Http
  ownerUsername : Option String := none
  ownerX25519 : Option PrivateKey := none
  relayUrl : Option String := none
  order : List QueueRow → List QueueRow := id
  order_perm : ∀ rows, (order rows).Perm rows := by exact fun rows => List.Perm.refl rows

/-- An envelope put on the network, with the database it was offered from. -/
structure Offer where
  row : QueueRow
  before : Db
  direct : Option HttpResult
  relay : Option HttpResult

structure SweepResult where
  db : Db
  offers : List Offer := []
  delivered : Nat := 0
  failed : Nat := 0

/-! ### One row -/

/-- `UPDATE outbound_envelope_queue SET ... WHERE queue_id = ?`. -/
def setDelivery (db : Db) (queueId : String) (f : Delivery → Delivery) : Db :=
  { db with outboundEnvelopeQueue := db.outboundEnvelopeQueue.update queueId f }

/-- The state column alone. -/
def setState (state : DeliveryState) (d : Delivery) : Delivery := { d with state }

/-- `last_error`, when the call ended in a `RequestError`. -/
def noteError (result : Option HttpResult) (d : Delivery) : Delivery :=
  match result with
  | some (.requestError text) => { d with lastError := some text }
  | _ => d

/-- `min(3600, 10 * 2 ** (new_attempts - 1))`. -/
def backoffSeconds (newAttempts : Nat) : Nat := min 3600 (10 * 2 ^ (newAttempts - 1))

def postpone (now : Instant) (attempts : Nat) (d : Delivery) : Delivery :=
  { d with
    attemptCount := attempts + 1
    nextRetryAt := isoNow (now.addSeconds (backoffSeconds (attempts + 1))) }

def sweepRelay (sweep : Sweep) (db : Db) (row : QueueRow) : Option HttpResult :=
  if (Db.given sweep.relayUrl).isSome = true ∧ (Db.given sweep.ownerUsername).isSome = true ∧
      (Db.given sweep.ownerX25519).isSome = true ∧
      (db.resolvePeerContactInfo row.recipientUsername).2.1.isSome = true then
    some (sweep.http.relay row.recipientUsername row.envelope)
  else none

/-- The body of the loop: what becomes of one row. `expiresAt` was read with the
row. -/
def retryRow (sweep : Sweep) (db : Db) (row : QueueRow) (expiresAt : Option Instant) :
    SweepResult :=
  let command := fun db c =>
    (applyNodeCommandTransition sweep.ext db row.sessionId c sweep.now).1
  if (db.status? row.sessionId).any isTerminalState then
    { db := setDelivery db row.queueId (setState .abandoned) }
  else if expiresAt.any (fun e => decide (e ≤ sweep.now)) then
    { db := command (setDelivery db row.queueId (setState .expired)) .markExpired }
  else
  let endpoint := Db.given (db.resolvePeerContactInfo row.recipientUsername).1
  let direct := endpoint.map fun e => sweep.http.post e row.envelope
  if accepted? direct then
    { db := command (setDelivery db row.queueId (setState .delivered)) .markDelivered
      offers := [⟨row, db, direct, none⟩]
      delivered := 1 }
  else
  match direct.bind HttpResult.clientError with
  | some text =>
      { db := command (setDelivery db row.queueId
          fun d => { d with state := .failed, lastError := some text }) .markFailed
        offers := [⟨row, db, direct, none⟩]
        failed := 1 }
  | none =>
  let relay := sweepRelay sweep db row
  let offers := [⟨row, db, direct, relay⟩]
  if accepted? relay then
    { db := setDelivery db row.queueId (setState .relayed ∘ noteError direct), offers, delivered := 1 }
  else
    { db := setDelivery db row.queueId
        (postpone sweep.now row.delivery.attemptCount ∘ noteError relay ∘ noteError direct)
      offers }

/-! ### A sweep -/

/-- `delivery_state = 'pending' AND next_retry_at <= ?`, with the join on
sessions. -/
def isDue (db : Db) (now : Instant) (row : QueueRow) : Bool :=
  decide (row.delivery.state = .pending) && decide (row.delivery.nextRetryAt ≤ isoNow now) &&
    (db.session? row.sessionId).isSome

def dueRows (db : Db) (now : Instant) : List QueueRow :=
  db.outboundEnvelopeQueue.rows.filter (isDue db now)

/-- `s.expires_at` of a row's session. -/
def expiryOf (db : Db) (row : QueueRow) : Option Instant :=
  (db.session? row.sessionId).bind (·.expiresAt)

def retryRows (sweep : Sweep) : Db → List (QueueRow × Option Instant) → SweepResult
  | db, [] => { db }
  | db, (row, expiresAt) :: rows =>
      let first := retryRow sweep db row expiresAt
      let rest := retryRows sweep first.db rows
      { db := rest.db
        offers := first.offers ++ rest.offers
        delivered := first.delivered + rest.delivered
        failed := first.failed + rest.failed }

def retryOutboundQueue (sweep : Sweep) (db : Db) : SweepResult :=
  retryRows sweep db
    ((sweep.order (dueRows db sweep.now)).map fun row => (row, expiryOf db row))

/-! ### The queue as a table -/

def delivery? (db : Db) (queueId : String) : Option Delivery :=
  (Rows.lookup QueueRow.queueId db.outboundEnvelopeQueue.rows queueId).map (·.delivery)

theorem delivery?_setDelivery_self (db : Db) (id : String) (f : Delivery → Delivery) :
    delivery? (setDelivery db id f) id = (delivery? db id).map f := by
  have hlookup : Rows.lookup QueueRow.queueId (setDelivery db id f).outboundEnvelopeQueue.rows id =
      (Rows.lookup QueueRow.queueId db.outboundEnvelopeQueue.rows id).map
        fun r => { r with delivery := f r.delivery } :=
    Rows.lookup_modify_self fun _ => rfl
  rw [delivery?, hlookup, delivery?, Option.map_map, Option.map_map]
  rfl

theorem delivery?_setDelivery_of_ne (db : Db) {id id' : String} (f : Delivery → Delivery)
    (h : id' ≠ id) : delivery? (setDelivery db id f) id' = delivery? db id' := by
  have hlookup : Rows.lookup QueueRow.queueId (setDelivery db id f).outboundEnvelopeQueue.rows id' =
      Rows.lookup QueueRow.queueId db.outboundEnvelopeQueue.rows id' :=
    Rows.lookup_modify_of_ne (fun _ => rfl) h
  rw [delivery?, hlookup, delivery?]

theorem lookup_of_mem {db : Db} {row : QueueRow} (h : row ∈ db.outboundEnvelopeQueue.rows) :
    Rows.lookup QueueRow.queueId db.outboundEnvelopeQueue.rows row.queueId = some row :=
  Rows.lookup_of_mem_nodup db.outboundEnvelopeQueue.primaryKey h

theorem delivery?_of_mem {db : Db} {row : QueueRow} (h : row ∈ db.outboundEnvelopeQueue.rows) :
    delivery? db row.queueId = some row.delivery := by
  rw [delivery?, lookup_of_mem h]
  rfl

/-! ### What a sweep leaves alone -/

/-- The contacts are the same, and every terminal session is still in its
terminal state. -/
structure Sweeps (db db' : Db) : Prop where
  contacts : db'.contacts = db.contacts
  terminal : ∀ sid, (db.status? sid).any isTerminalState = true → db'.status? sid = db.status? sid

theorem Sweeps.refl (db : Db) : Sweeps db db := ⟨rfl, fun _ _ => rfl⟩

theorem Sweeps.trans {a b c : Db} (hab : Sweeps a b) (hbc : Sweeps b c) : Sweeps a c where
  contacts := hbc.contacts.trans hab.contacts
  terminal sid h := by
    have hb := hab.terminal sid h
    rw [hbc.terminal sid (by rw [hb]; exact h), hb]

theorem sweeps_setDelivery (db : Db) (id : String) (f : Delivery → Delivery) :
    Sweeps db (setDelivery db id f) := ⟨rfl, fun _ _ => rfl⟩

/-- A node command leaves the queue, the contacts, other sessions and terminal
sessions alone. -/
theorem nodeCommand_frame (ext : Externals) (db : Db) (sid : String) (command : NodeCommand)
    (now : Instant) :
    (applyNodeCommandTransition ext db sid command now).1.outboundEnvelopeQueue =
      db.outboundEnvelopeQueue ∧
    Sweeps db (applyNodeCommandTransition ext db sid command now).1 ∧
    ∀ sid' ≠ sid, (applyNodeCommandTransition ext db sid command now).1.status? sid' =
      db.status? sid' := by
  rcases applyNodeCommandTransition_cases ext db sid command now with
    ⟨row, target, hrow, -, hvalid, hw, -⟩ | ⟨hsame, -, -⟩
  · have hother : ∀ sid' ≠ sid, (applyNodeCommandTransition ext db sid command now).1.status? sid' =
        db.status? sid' := by
      intro sid' hne
      rw [Db.status?, SameTables.session? hw,
        session?_updateSession_of_ne (fun _ => setStatus_sessionId _ _ _) hne, Db.status?]
    refine ⟨by rw [SameTables.outboundEnvelopeQueue hw]; rfl,
      ⟨by rw [SameTables.contacts hw]; rfl, fun sid' hterm => ?_⟩, hother⟩
    by_cases hsid : sid' = sid
    · subst hsid
      rw [Db.status?, hrow] at hterm
      rw [isValidTransition_of_terminal (by simpa using hterm)] at hvalid
      cases hvalid
    · exact hother sid' hsid
  · exact ⟨hsame.outboundEnvelopeQueue,
      ⟨hsame.contacts, fun sid' _ => by rw [Db.status?, hsame.session?, Db.status?]⟩,
      fun sid' _ => by rw [Db.status?, hsame.session?, Db.status?]⟩

/-- One row: its own delivery columns are written, and at most one node command
follows. -/
theorem retryRow_db (sweep : Sweep) (db : Db) (row : QueueRow) (expiresAt : Option Instant) :
    ∃ f, (retryRow sweep db row expiresAt).db = setDelivery db row.queueId f ∨
      ∃ command, (retryRow sweep db row expiresAt).db = (applyNodeCommandTransition sweep.ext
        (setDelivery db row.queueId f) row.sessionId command sweep.now).1 := by
  unfold retryRow
  simp only
  split
  · exact ⟨_, .inl rfl⟩
  split
  · exact ⟨_, .inr ⟨_, rfl⟩⟩
  split
  · exact ⟨_, .inr ⟨_, rfl⟩⟩
  split
  · exact ⟨_, .inr ⟨_, rfl⟩⟩
  split
  · exact ⟨_, .inl rfl⟩
  · exact ⟨_, .inl rfl⟩

theorem retryRow_frame (sweep : Sweep) (db : Db) (row : QueueRow) (expiresAt : Option Instant) :
    (∃ f, (retryRow sweep db row expiresAt).db.outboundEnvelopeQueue =
      (setDelivery db row.queueId f).outboundEnvelopeQueue) ∧
    Sweeps db (retryRow sweep db row expiresAt).db ∧
    ∀ sid ≠ row.sessionId, (retryRow sweep db row expiresAt).db.status? sid = db.status? sid := by
  obtain ⟨f, h | ⟨command, h⟩⟩ := retryRow_db sweep db row expiresAt
  · rw [h]
    exact ⟨⟨f, rfl⟩, sweeps_setDelivery db row.queueId f, fun _ _ => rfl⟩
  · rw [h]
    obtain ⟨hqueue, hframe, hother⟩ := nodeCommand_frame sweep.ext (setDelivery db row.queueId f)
      row.sessionId command sweep.now
    exact ⟨⟨f, hqueue⟩, (sweeps_setDelivery db row.queueId f).trans hframe, hother⟩

theorem retryRow_delivery?_of_ne (sweep : Sweep) (db : Db) (row : QueueRow)
    (expiresAt : Option Instant) {id : String} (h : id ≠ row.queueId) :
    delivery? (retryRow sweep db row expiresAt).db id = delivery? db id := by
  obtain ⟨f, hf⟩ := (retryRow_frame sweep db row expiresAt).1
  rw [delivery?, hf, ← delivery?, delivery?_setDelivery_of_ne db f h]

/-- An offer is made for a row of a session that is neither terminal nor
overdue. -/
structure OfferedFrom (sweep : Sweep) (o : Offer) (expiresAt : Option Instant) : Prop where
  live : (o.before.status? o.row.sessionId).any isTerminalState = false
  timely : expiresAt.any (fun e => decide (e ≤ sweep.now)) = false
  direct : o.direct =
    (Db.given (o.before.resolvePeerContactInfo o.row.recipientUsername).1).map
      fun e => sweep.http.post e o.row.envelope

theorem mem_offers_retryRow {sweep : Sweep} {db : Db} {row : QueueRow} {expiresAt : Option Instant}
    {o : Offer} (h : o ∈ (retryRow sweep db row expiresAt).offers) :
    o.row = row ∧ o.before = db ∧ OfferedFrom sweep o expiresAt := by
  unfold retryRow at h
  simp only at h
  split at h
  · cases h
  rename_i hlive
  split at h
  · cases h
  rename_i htimely
  have hoffer : ∀ relay, o = ⟨row, db, (Db.given (db.resolvePeerContactInfo
      row.recipientUsername).1).map fun e => sweep.http.post e row.envelope, relay⟩ →
      o.row = row ∧ o.before = db ∧ OfferedFrom sweep o expiresAt := by
    rintro relay rfl
    exact ⟨rfl, rfl, by simpa using hlive, by simpa using htimely, rfl⟩
  split at h
  · exact hoffer _ (List.mem_singleton.mp h)
  split at h
  · exact hoffer _ (List.mem_singleton.mp h)
  split at h
  · exact hoffer _ (List.mem_singleton.mp h)
  · exact hoffer _ (List.mem_singleton.mp h)

theorem retryRows_sweeps (sweep : Sweep) (db : Db) (rows : List (QueueRow × Option Instant)) :
    Sweeps db (retryRows sweep db rows).db := by
  induction rows generalizing db with
  | nil => exact .refl db
  | cons item rows ih => exact (retryRow_frame sweep db item.1 item.2).2.1.trans (ih _)

/-- Every offer of a sweep is one of a fetched row, made from a database the
sweep went through. -/
theorem mem_offers_retryRows {sweep : Sweep} {db : Db} {rows : List (QueueRow × Option Instant)}
    {o : Offer} (h : o ∈ (retryRows sweep db rows).offers) :
    ∃ expiresAt, (o.row, expiresAt) ∈ rows ∧ Sweeps db o.before ∧ OfferedFrom sweep o expiresAt := by
  induction rows generalizing db with
  | nil => cases h
  | cons item rows ih =>
      rcases List.mem_append.mp h with hfirst | hrest
      · obtain ⟨hrow, hbefore, hoffered⟩ := mem_offers_retryRow hfirst
        refine ⟨item.2, ?_, hbefore ▸ .refl db, hoffered⟩
        rw [hrow]
        exact List.mem_cons_self
      · obtain ⟨expiresAt, hmem, hframe, hoffered⟩ := ih hrest
        exact ⟨expiresAt, List.mem_cons_of_mem _ hmem,
          (retryRow_frame sweep db item.1 item.2).2.1.trans hframe, hoffered⟩

/-- A row that was not fetched is not written. -/
theorem retryRows_delivery?_of_not_mem (sweep : Sweep) (db : Db)
    (rows : List (QueueRow × Option Instant)) {id : String}
    (h : ∀ item ∈ rows, item.1.queueId ≠ id) :
    delivery? (retryRows sweep db rows).db id = delivery? db id := by
  induction rows generalizing db with
  | nil => rfl
  | cons item rows ih =>
      have hrest := ih (retryRow sweep db item.1 item.2).db fun i hi =>
        h i (List.mem_cons_of_mem _ hi)
      rw [retryRow_delivery?_of_ne _ _ _ _ (Ne.symm (h item List.mem_cons_self))] at hrest
      exact hrest

theorem mem_due {sweep : Sweep} {db : Db} {row : QueueRow} :
    row ∈ sweep.order (dueRows db sweep.now) ↔
      row ∈ db.outboundEnvelopeQueue.rows ∧ isDue db sweep.now row = true := by
  rw [(sweep.order_perm _).mem_iff, dueRows, List.mem_filter]

/-- A fetched row is fetched once. -/
theorem nodup_due (sweep : Sweep) (db : Db) :
    ((sweep.order (dueRows db sweep.now)).map (·.queueId)).Nodup := by
  rw [((sweep.order_perm _).map _).nodup_iff]
  exact db.outboundEnvelopeQueue.primaryKey.sublist (List.filter_sublist.map _)

end Kin.Transport
