import Kin.Node.OrderCheck
import Kin.Transport.Retry

/-!
Order of a sweep. The query selects every row whose own backoff has run out, so
a row can be offered while an earlier envelope of the same session still waits,
and a failed attempt does not hold back the rows after it. An earlier envelope
that is no longer pending need not have arrived either: the relay may still hold
it. Only a queue in which every due row is the first pending one of its session
and recipient, and whose recipients have every lower number, is safe.
-/

namespace Kin.Transport

open Kin.Py Kin.Lib Kin.Schemas Kin.Session Kin.Storage Kin.Audit

/-- `p` is pending for the session and recipient of `r`, with a lower sequence. -/
def isAhead (p r : QueueRow) : Bool :=
  decide (p.delivery.state = .pending) && decide (p.sessionId = r.sessionId) &&
    decide (p.recipientUsername = r.recipientUsername) && decide (p.sequence < r.sequence)

/-- Every envelope put to the peer has the pending ones ahead of it delivered. -/
def InOrder (db : Db) (offers : List Offer) : Prop :=
  ∀ o ∈ offers, o.direct.isSome = true → ∀ p ∈ db.outboundEnvelopeQueue.rows,
    isAhead p o.row = true → (delivery? o.before p.queueId).map (·.state) = some .delivered

/-! ### The recipients -/

/-- A recipient as an envelope finds it. -/
structure Peer where
  ctx : IngestContext
  db : Db
  log : Node.LogInvariant db

/-- The status code of `process_v11_session_envelope`. -/
def statusCode (ack : TransportAcknowledgement) : Nat :=
  if ack.status = .rejected then
    match ack.errorCode with
    | some .invalidSignature | some .publicKeyNotFound => 401
    | some .unpairedSender | some .unauthorizedActor | some .unauthorizedAgent
    | some .unauthorizedRoleAction => 403
    | some .duplicateSequence | some .outOfOrderSequence | some .invalidStateTransition
    | some .terminalStateImmutable => 409
    | _ => 400
  else 200

/-- `process_v11_session_envelope`; `text` is the dumped acknowledgement. An
exception is another answer. -/
def processV11SessionEnvelope (peer : Peer) (body : Fields) (text : String) : Option HttpResult :=
  match (ingestEnvelope peer.ctx peer.db body).exit with
  | .ok ack => some (.response (statusCode ack) text (some ack.status))
  | .error _ => none

/-- The answer to the envelope is that of the recipient at this endpoint, who
calls it out of order. -/
def RefusedForOrder (peers : String → Fields → Peer) (o : Offer) : Prop :=
  ∃ endpoint ∈ Db.given (o.before.resolvePeerContactInfo o.row.recipientUsername).1,
    Node.OrderRefused (peers endpoint o.row.envelope).ctx (peers endpoint o.row.envelope).db
      o.row.envelope ∧
    ∃ text, o.direct.isSome = true ∧
      o.direct = processV11SessionEnvelope (peers endpoint o.row.envelope) o.row.envelope text

/-- A sweep at `now`, in any order of the rows and under any answers, keeps the
order, and fails no row, nor its session, for a recipient's order check. -/
def OrderPreserved (ext : Externals) (peers : String → Fields → Peer) (db : Db) (now : Instant) :
    Prop :=
  ∀ sweep : Sweep, sweep.ext = ext → sweep.now = now →
    InOrder db (retryOutboundQueue sweep db).offers ∧
    ∀ o ∈ (retryOutboundQueue sweep db).offers, RefusedForOrder peers o →
      (delivery? (retryOutboundQueue sweep db).db o.row.queueId).map (·.state) ≠ some .failed ∧
      (retryOutboundQueue sweep db).db.status? o.row.sessionId ≠ some .failed

/-! ### The rows of a sweep -/

/-- The row is going to be offered: it is due, its session is neither terminal
nor overdue, and the recipient has an endpoint. -/
def isOfferable (db : Db) (now : Instant) (row : QueueRow) : Bool :=
  isDue db now row && !(db.status? row.sessionId).any isTerminalState &&
    !(expiryOf db row).any (fun e => decide (e ≤ now)) &&
    (Db.given (db.resolvePeerContactInfo row.recipientUsername).1).isSome

/-- No row is going to be offered to a recipient that gets to its order and
misses a lower number. -/
def LowerNumbersArrived (peers : String → Fields → Peer) (db : Db) (now : Instant) : Prop :=
  ∀ row ∈ db.outboundEnvelopeQueue.rows, isOfferable db now row = true →
    ∀ endpoint ∈ Db.given (db.resolvePeerContactInfo row.recipientUsername).1,
      ∀ envelope, verified? (peers endpoint row.envelope).ctx (peers endpoint row.envelope).db
        row.envelope = some envelope →
      Node.Admissible (peers endpoint row.envelope).ctx (peers endpoint row.envelope).db envelope →
      ¬Node.Early (peers endpoint row.envelope).db envelope

/-- Some row is going to be offered while another is pending ahead of it. -/
def overtakes (db : Db) (now : Instant) : Bool :=
  db.outboundEnvelopeQueue.rows.any fun r =>
    isOfferable db now r && db.outboundEnvelopeQueue.rows.any fun p => isAhead p r

theorem resolvePeerContactInfo_of_sweeps {db db' : Db} (h : Sweeps db db') (username : String) :
    db'.resolvePeerContactInfo username = db.resolvePeerContactInfo username := by
  rw [Db.resolvePeerContactInfo, h.contacts, Db.resolvePeerContactInfo]

/-- What a sweep puts to the peer was offerable when it began: a terminal session
stays terminal. -/
theorem isOfferable_of_mem_offers {sweep : Sweep} {db : Db} {o : Offer}
    (h : o ∈ (retryOutboundQueue sweep db).offers) (hdirect : o.direct.isSome = true) :
    o.row ∈ db.outboundEnvelopeQueue.rows ∧ isOfferable db sweep.now o.row = true := by
  obtain ⟨expiresAt, hmem, hframe, hoffered⟩ := mem_offers_retryRows h
  obtain ⟨row, hrow, heq⟩ := List.mem_map.mp hmem
  simp only [Prod.mk.injEq] at heq
  obtain ⟨rfl, rfl⟩ := heq
  obtain ⟨hqueue, hdue⟩ := mem_due.mp hrow
  have hlive : (db.status? o.row.sessionId).any isTerminalState = false := by
    by_contra hterm
    have hterm : (db.status? o.row.sessionId).any isTerminalState = true := by simpa using hterm
    have hlive := hoffered.live
    rw [hframe.terminal _ hterm, hterm] at hlive
    cases hlive
  have hendpoint := hdirect
  rw [hoffered.direct, Option.isSome_map, resolvePeerContactInfo_of_sweeps hframe] at hendpoint
  refine ⟨hqueue, ?_⟩
  simp only [isOfferable, hdue, hlive, hoffered.timely, hendpoint, Bool.not_false, Bool.and_self]

theorem inOrder_of_not_overtakes {sweep : Sweep} {db : Db} (h : overtakes db sweep.now = false) :
    InOrder db (retryOutboundQueue sweep db).offers := by
  intro o ho hdirect p hp hahead
  obtain ⟨hrow, hofferable⟩ := isOfferable_of_mem_offers ho hdirect
  have hr := List.any_eq_false.mp h o.row hrow
  simp only [hofferable, Bool.true_and, List.any_eq_true, not_exists, not_and] at hr
  exact absurd hahead (hr p hp)

theorem not_refusedForOrder {peers : String → Fields → Peer} {sweep : Sweep} {db : Db} {o : Offer}
    (h : LowerNumbersArrived peers db sweep.now)
    (ho : o ∈ (retryOutboundQueue sweep db).offers) : ¬RefusedForOrder peers o := by
  rintro ⟨endpoint, hendpoint, hrefused, text, hdirect, -⟩
  obtain ⟨hrow, hofferable⟩ := isOfferable_of_mem_offers ho hdirect
  obtain ⟨expiresAt, -, hframe, -⟩ := mem_offers_retryRows ho
  rw [resolvePeerContactInfo_of_sweeps hframe] at hendpoint
  obtain ⟨envelope, hver, hadmissible, hearly⟩ :=
    (Node.orderRefused_iff (peers endpoint o.row.envelope).log).mp hrefused
  exact h o.row hrow hofferable endpoint hendpoint envelope hver hadmissible hearly

/-! ### When nobody answers -/

def unreachable : Http where
  post _ _ := .requestError "unreachable"
  relay _ _ := .requestError "unreachable"

theorem accepted?_sweepRelay_unreachable {sweep : Sweep} (h : sweep.http = unreachable) (db : Db)
    (row : QueueRow) : accepted? (sweepRelay sweep db row) = false := by
  unfold sweepRelay
  split
  · rw [h]
    rfl
  · rfl

theorem noteError_state (result : Option HttpResult) (d : Delivery) :
    (noteError result d).state = d.state := by
  unfold noteError
  split <;> rfl

/-- Without answers a row is postponed: no session moves and no state changes. -/
theorem retryRow_unreachable {sweep : Sweep} (hhttp : sweep.http = unreachable) {db : Db}
    {row : QueueRow} {expiresAt : Option Instant}
    (hlive : (db.status? row.sessionId).any isTerminalState = false)
    (htimely : expiresAt.any (fun e => decide (e ≤ sweep.now)) = false) :
    ∃ f, (retryRow sweep db row expiresAt).db = setDelivery db row.queueId f ∧
      (∀ d, (f d).state = d.state) ∧
      ∃ o, (retryRow sweep db row expiresAt).offers = [o] ∧ o.row = row ∧ o.before = db ∧
        o.direct.isSome = (Db.given (db.resolvePeerContactInfo row.recipientUsername).1).isSome := by
  have hdirect : ∀ endpoint : Option String,
      accepted? (endpoint.map fun e => sweep.http.post e row.envelope) = false ∧
      (endpoint.map fun e => sweep.http.post e row.envelope).bind HttpResult.clientError = none := by
    intro endpoint
    rw [hhttp]
    cases endpoint <;> exact ⟨rfl, rfl⟩
  have hrelay := accepted?_sweepRelay_unreachable hhttp db row
  unfold retryRow
  simp only [hlive, htimely, (hdirect _).1, (hdirect _).2, hrelay, Bool.false_eq_true, if_false]
  refine ⟨_, rfl, fun d => ?_, _, rfl, rfl, rfl, Option.isSome_map⟩
  simp only [Function.comp, postpone, noteError_state]

/-- Another row's turn without answers leaves the session where it is, and a pending
row of it pending. -/
theorem retryRow_unreachable_keeps {sweep : Sweep} (hhttp : sweep.http = unreachable)
    {sid : String} {p row : QueueRow} {expiry : Option Instant} {db : Db}
    (hlive : (db.status? sid).any isTerminalState = false)
    (htimely : row.sessionId = sid → expiry.any (fun e => decide (e ≤ sweep.now)) = false)
    (hid : row.queueId = p.queueId → row.sessionId = sid)
    (hstate : (delivery? db p.queueId).map (·.state) = some .pending) :
    (retryRow sweep db row expiry).db.status? sid = db.status? sid ∧
      (delivery? (retryRow sweep db row expiry).db p.queueId).map (·.state) = some .pending := by
  by_cases hown : row.sessionId = sid
  · obtain ⟨f, hdb, hf, -⟩ := retryRow_unreachable hhttp (by rw [hown]; exact hlive) (htimely hown)
    refine ⟨by rw [hdb]; rfl, ?_⟩
    by_cases hsame : p.queueId = row.queueId
    · rw [hdb, hsame, delivery?_setDelivery_self, Option.map_map]
      rw [hsame] at hstate
      rw [← hstate]
      congr 1
      funext d
      exact hf d
    · rw [hdb, delivery?_setDelivery_of_ne db f hsame]
      exact hstate
  · refine ⟨(retryRow_frame sweep db row expiry).2.2 sid (Ne.symm hown), ?_⟩
    rw [retryRow_delivery?_of_ne sweep db row expiry fun h => hown (hid h.symm)]
    exact hstate

/-- Along a sweep without answers every row of a live session is offered while
the other rows of that session are where they were. -/
theorem retryRows_unreachable (sweep : Sweep) (hhttp : sweep.http = unreachable) {sid : String}
    {p : QueueRow} (rows : List (QueueRow × Option Instant)) {db : Db}
    (hlive : (db.status? sid).any isTerminalState = false)
    (htimely : ∀ item ∈ rows, item.1.sessionId = sid →
      item.2.any (fun e => decide (e ≤ sweep.now)) = false)
    (hid : ∀ item ∈ rows, item.1.queueId = p.queueId → item.1.sessionId = sid)
    (hstate : (delivery? db p.queueId).map (·.state) = some .pending)
    {r : QueueRow} {expiresAt : Option Instant} (hr : (r, expiresAt) ∈ rows)
    (hsid : r.sessionId = sid)
    (hendpoint : (Db.given (db.resolvePeerContactInfo r.recipientUsername).1).isSome = true) :
    ∃ o ∈ (retryRows sweep db rows).offers, o.row = r ∧ o.direct.isSome = true ∧
      (delivery? o.before p.queueId).map (·.state) = some .pending := by
  induction rows generalizing db with
  | nil => cases hr
  | cons item rows ih =>
      obtain ⟨row, expiry⟩ := item
      rcases List.mem_cons.mp hr with heq | hmem
      · cases heq
        obtain ⟨f, -, -, o, hoffers, hrow, hbefore, hdirect⟩ := retryRow_unreachable hhttp
          (by rw [hsid]; exact hlive) (htimely _ List.mem_cons_self hsid)
        refine ⟨o, ?_, hrow, by rw [hdirect]; exact hendpoint, by rw [hbefore]; exact hstate⟩
        rw [retryRows, hoffers]
        exact List.mem_append_left _ List.mem_cons_self
      · obtain ⟨hstatus, hpending⟩ := retryRow_unreachable_keeps hhttp hlive
          (htimely _ List.mem_cons_self) (hid _ List.mem_cons_self) hstate
        obtain ⟨o, ho, hrest⟩ := ih (by rw [hstatus]; exact hlive)
          (fun i hi => htimely i (List.mem_cons_of_mem _ hi))
          (fun i hi => hid i (List.mem_cons_of_mem _ hi)) hpending hmem
          (by
            rw [resolvePeerContactInfo_of_sweeps (retryRow_frame sweep db row expiry).2.1]
            exact hendpoint)
        exact ⟨o, List.mem_append_right _ ho, hrest⟩

theorem not_orderPreserved_of_overtakes {ext : Externals} {peers : String → Fields → Peer} {db : Db}
    {now : Instant} (h : overtakes db now = true) : ¬OrderPreserved ext peers db now := by
  intro hpreserved
  obtain ⟨r, hr, hboth⟩ := List.any_eq_true.mp h
  rw [Bool.and_eq_true] at hboth
  obtain ⟨hofferable, hahead⟩ := hboth
  obtain ⟨p, hp, hahead⟩ := List.any_eq_true.mp hahead
  simp only [isOfferable, Bool.and_eq_true, Bool.not_eq_true'] at hofferable
  obtain ⟨⟨⟨hdue, hlive⟩, htimely⟩, hendpoint⟩ := hofferable
  have hpair := hahead
  simp only [isAhead, Bool.and_eq_true, decide_eq_true_eq] at hpair
  obtain ⟨⟨⟨hpending, hsid⟩, -⟩, -⟩ := hpair
  let sweep : Sweep := { ext, now, http := unreachable }
  have hexpiry : ∀ row : QueueRow, row.sessionId = r.sessionId → expiryOf db row = expiryOf db r := by
    intro row hrow
    rw [expiryOf, hrow, expiryOf]
  obtain ⟨o, ho, hrow, hdirect, hstate⟩ := retryRows_unreachable sweep rfl
    ((sweep.order (dueRows db now)).map fun row => (row, expiryOf db row)) hlive
    (by
      intro item hitem hown
      obtain ⟨row, -, rfl⟩ := List.mem_map.mp hitem
      rw [hexpiry row hown]
      exact htimely)
    (by
      intro item hitem hown
      obtain ⟨row, hrow, rfl⟩ := List.mem_map.mp hitem
      have hlookup := lookup_of_mem (mem_due.mp hrow).1
      rw [show row.queueId = p.queueId from hown, lookup_of_mem hp] at hlookup
      cases hlookup
      exact hsid)
    (by rw [delivery?_of_mem hp, Option.map_some, hpending])
    (List.mem_map.mpr ⟨r, mem_due.mpr ⟨hr, hdue⟩, rfl⟩) rfl hendpoint
  have hdelivered := (hpreserved sweep rfl rfl).1 o ho hdirect p hp (by rw [hrow]; exact hahead)
  rw [hstate] at hdelivered
  cases hdelivered

/-! ### When a recipient misses a lower number -/

/-- The recipients answer what they refuse for its order; nothing else is
answered. -/
def refusals (peers : String → Fields → Peer) : Http where
  post endpoint body :=
    if Node.OrderRefused (peers endpoint body).ctx (peers endpoint body).db body then
      .response 409 "" (some .rejected)
    else .requestError "unreachable"
  relay _ _ := .requestError "unreachable"

theorem processV11SessionEnvelope_of_orderRefused {peer : Peer} {body : Fields}
    (h : Node.OrderRefused peer.ctx peer.db body) (text : String) :
    processV11SessionEnvelope peer body text = some (.response 409 text (some .rejected)) := by
  obtain ⟨ack, hack, hstatus, hcode⟩ := h
  simp only [processV11SessionEnvelope, hack, statusCode, hstatus, hcode, if_true]

theorem retryRow_of_orderRefused {peers : String → Fields → Peer} (sweep : Sweep)
    (hhttp : sweep.http = refusals peers) {db : Db} {row : QueueRow} {expiresAt : Option Instant}
    (hlive : (db.status? row.sessionId).any isTerminalState = false)
    (htimely : expiresAt.any (fun e => decide (e ≤ sweep.now)) = false) {endpoint : String}
    (hendpoint : endpoint ∈ Db.given (db.resolvePeerContactInfo row.recipientUsername).1)
    (hrefused : Node.OrderRefused (peers endpoint row.envelope).ctx
      (peers endpoint row.envelope).db row.envelope) :
    RefusedForOrder peers ⟨row, db, some (.response 409 "" (some .rejected)), none⟩ ∧
    (retryRow sweep db row expiresAt).offers =
      [⟨row, db, some (.response 409 "" (some .rejected)), none⟩] ∧
    (retryRow sweep db row expiresAt).db.outboundEnvelopeQueue =
      (setDelivery db row.queueId fun d =>
        { d with state := .failed, lastError := some "" }).outboundEnvelopeQueue := by
  have hdirect : (Db.given (db.resolvePeerContactInfo row.recipientUsername).1).map
      (fun e => sweep.http.post e row.envelope) = some (.response 409 "" (some .rejected)) := by
    rw [Option.mem_def.mp hendpoint, hhttp, Option.map_some]
    exact congrArg some (if_pos hrefused)
  refine ⟨⟨endpoint, hendpoint, hrefused, "", rfl,
    (processV11SessionEnvelope_of_orderRefused hrefused "").symm⟩, ?_⟩
  unfold retryRow
  simp only [hlive, htimely, hdirect, Bool.false_eq_true, if_false]
  refine ⟨rfl, ?_⟩
  exact (nodeCommand_frame _ _ _ _ _).1

/-- The fetched rows with this one first. -/
theorem exists_first_of_mem {row : QueueRow} {rows : List QueueRow} (h : row ∈ rows) :
    ∃ order : List QueueRow → List QueueRow, (∀ rows', (order rows').Perm rows') ∧
      ∃ rest, order rows = row :: rest := by
  classical
  refine ⟨fun rows' => if row ∈ rows' then row :: rows'.erase row else rows', fun rows' => ?_,
    rows.erase row, if_pos h⟩
  dsimp only
  split
  · exact (List.perm_cons_erase ‹_›).symm
  · exact .refl _

theorem not_orderPreserved_of_missing {ext : Externals} {peers : String → Fields → Peer} {db : Db}
    {now : Instant} (h : ¬LowerNumbersArrived peers db now) :
    ¬OrderPreserved ext peers db now := by
  intro hpreserved
  refine h fun row hrow hofferable endpoint hendpoint envelope hver hadmissible hearly => ?_
  have hrefused := (Node.orderRefused_iff (peers endpoint row.envelope).log).mpr
    ⟨envelope, hver, hadmissible, hearly⟩
  simp only [isOfferable, Bool.and_eq_true, Bool.not_eq_true'] at hofferable
  obtain ⟨⟨⟨hdue, hlive⟩, htimely⟩, -⟩ := hofferable
  obtain ⟨order, hperm, rest, hfirst⟩ :=
    exists_first_of_mem (List.mem_filter.mpr ⟨hrow, hdue⟩ : row ∈ dueRows db now)
  let sweep : Sweep := { ext, now, http := refusals peers, order, order_perm := hperm }
  obtain ⟨hfor, hoffers, hqueue⟩ := retryRow_of_orderRefused sweep rfl hlive htimely
    hendpoint hrefused
  have hfetched : sweep.order (dueRows db sweep.now) = row :: rest := hfirst
  have hsweep : retryOutboundQueue sweep db = retryRows sweep db ((row, expiryOf db row) ::
      rest.map fun r => (r, expiryOf db r)) := by
    rw [retryOutboundQueue, hfetched, List.map_cons]
  refine ((hpreserved sweep rfl rfl).2 _ ?_ hfor).1 ?_
  · rw [hsweep, retryRows, hoffers]
    exact List.mem_append_left _ List.mem_cons_self
  · -- no later row has this id
    have hnodup := nodup_due sweep db
    rw [hfetched, List.map_cons, List.nodup_cons] at hnodup
    have hkept : delivery? (retryRows sweep (retryRow sweep db row (expiryOf db row)).db
        (rest.map fun r => (r, expiryOf db r))).db row.queueId =
        delivery? (retryRow sweep db row (expiryOf db row)).db row.queueId := by
      refine retryRows_delivery?_of_not_mem _ _ _ fun item hitem heq => ?_
      obtain ⟨r, hr, rfl⟩ := List.mem_map.mp hitem
      exact hnodup.1 (List.mem_map.mpr ⟨r, hr, heq⟩)
    rw [hsweep, retryRows, hkept, delivery?, hqueue, ← delivery?, delivery?_setDelivery_self,
      delivery?_of_mem hrow]
    rfl

/-- A sweep keeps the order of the queue and fails nothing for it, whatever the
answers and the order of the rows, exactly when no row is going to be offered
with another pending ahead, or to a recipient that misses a lower number. -/
theorem orderPreserved_iff (ext : Externals) (peers : String → Fields → Peer) (db : Db)
    (now : Instant) :
    OrderPreserved ext peers db now ↔
      overtakes db now = false ∧ LowerNumbersArrived peers db now := by
  constructor
  · intro hpreserved
    refine ⟨?_, ?_⟩
    · by_contra h
      exact not_orderPreserved_of_overtakes (by simpa using h) hpreserved
    · by_contra h
      exact not_orderPreserved_of_missing h hpreserved
  · rintro ⟨hovertakes, harrived⟩ sweep - rfl
    exact ⟨inOrder_of_not_overtakes hovertakes,
      fun o ho hrefused => absurd hrefused (not_refusedForOrder harrived ho)⟩

/-- An envelope of `bob` that waits for `alice` until `nextRetryAt`. -/
def waitingRow (queueId : String) (sequence attempts : Nat) (nextRetryAt : String) : QueueRow where
  queueId := queueId
  sessionId := "s1"
  sequence := sequence
  recipientUsername := "alice"
  envelopeKind := .proposal
  envelope := []
  delivery := { state := .pending, attemptCount := attempts, nextRetryAt, lastError := none }

/-- Sequence 2 has been tried three times and waits 40 seconds; sequence 3 was
tried once, and its 10 seconds are over. -/
def backoffDb : Db :=
  { (ingestEnvelope Sample.context Sample.bobDb
      (Sample.envelope "s1" "alice" "scout" 1 .taskRequest Sample.request)).db with
    contacts := [⟨"alice", some "http://alice", none, none, true⟩]
    outboundEnvelopeQueue :=
      ⟨[waitingRow "q2" 2 3 (isoNow (Sample.time.addSeconds 40)),
        waitingRow "q3" 3 1 (isoNow Sample.time)], by decide, by decide⟩ }

/-- The recipient before anything has reached it. -/
def unreached : Peer where
  ctx := Sample.context
  db := Db.fresh (some "alice") [] []
  log := Node.logInvariant_fresh _ _ _

theorem later_sequence_overtakes :
    ¬OrderPreserved Sample.externals (fun _ _ => unreached) backoffDb Sample.time :=
  not_orderPreserved_of_overtakes (by decide +kernel)

end Kin.Transport
