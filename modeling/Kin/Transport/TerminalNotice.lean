import Kin.Transport.Retry

/-!
The last message of a session in the queue. Self-ingestion of a final result, a
decline or a cancellation makes the local session terminal before the envelope is
queued, and a sweep abandons the rows of terminal sessions before it offers
anything.
-/

namespace Kin.Transport

open Kin.Py Kin.Lib Kin.Schemas Kin.Session Kin.Storage Kin.Audit

/-- Sweeps one after another, with everything they put on the network. -/
def runSweeps : Db → List Sweep → Db × List Offer
  | db, [] => (db, [])
  | db, sweep :: sweeps =>
      let result := retryOutboundQueue sweep db
      let rest := runSweeps result.db sweeps
      (rest.1, result.offers ++ rest.2)

/-- The row is not abandoned by the sweeps, unless one of them offered it to the
peer or the relay. -/
def NoticeKept (db : Db) (queueId : String) (sweeps : List Sweep) : Prop :=
  (delivery? (runSweeps db sweeps).1 queueId).map (·.state) = some .abandoned →
    ∃ o ∈ (runSweeps db sweeps).2, o.row.queueId = queueId ∧
      (o.direct.isSome = true ∨ o.relay.isSome = true)

/-! ### One sweep -/

section Sweep

variable {sweep : Sweep} {db : Db}

theorem retryRows_abandons (sweep : Sweep) {row : QueueRow}
    {rows : List (QueueRow × Option Instant)} {expiresAt : Option Instant}
    (hterm : (db.status? row.sessionId).any isTerminalState = true)
    (hrow : (row, expiresAt) ∈ rows) (hnodup : (rows.map (·.1.queueId)).Nodup) :
    delivery? (retryRows sweep db rows).db row.queueId =
      (delivery? db row.queueId).map (setState .abandoned) := by
  induction rows generalizing db with
  | nil => cases hrow
  | cons item rows ih =>
      rw [List.map_cons, List.nodup_cons] at hnodup
      rcases List.mem_cons.mp hrow with heq | hmem
      · subst heq
        have hfirst : (retryRow sweep db row expiresAt).db =
            setDelivery db row.queueId (setState .abandoned) := by
          simp only [retryRow, hterm, if_true]
        have hrest := retryRows_delivery?_of_not_mem sweep
          (retryRow sweep db row expiresAt).db rows fun i hi h =>
            hnodup.1 (List.mem_map.mpr ⟨i, hi, h⟩)
        rw [retryRows]
        simp only
        rw [hrest, hfirst, delivery?_setDelivery_self]
      · have hne : row.queueId ≠ item.1.queueId := fun h =>
          hnodup.1 (h ▸ List.mem_map_of_mem hmem)
        have hframe := (retryRow_frame sweep db item.1 item.2).2.1
        have hrest := ih (by rw [hframe.terminal _ hterm]; exact hterm) hmem hnodup.2
        rw [retryRow_delivery?_of_ne sweep db item.1 item.2 hne] at hrest
        exact hrest

theorem nodup_fetched (sweep : Sweep) (db : Db) :
    (((sweep.order (dueRows db sweep.now)).map fun row => (row, expiryOf db row)).map
      (·.1.queueId)).Nodup := by
  rw [List.map_map]
  exact nodup_due sweep db

theorem retryOutboundQueue_sweeps (sweep : Sweep) (db : Db) :
    Sweeps db (retryOutboundQueue sweep db).db :=
  retryRows_sweeps sweep db _

def Owned (db : Db) (queueId sid : String) : Prop :=
  ∀ q ∈ db.outboundEnvelopeQueue.rows, q.queueId = queueId → q.sessionId = sid

theorem owned_retryRows {id sid : String} (rows : List (QueueRow × Option Instant))
    (h : Owned db id sid) : Owned (retryRows sweep db rows).db id sid := by
  induction rows generalizing db with
  | nil => exact h
  | cons item rows ih =>
      refine ih ?_
      obtain ⟨f, hf⟩ := (retryRow_frame sweep db item.1 item.2).1
      intro q hq hid
      rw [hf] at hq
      obtain ⟨q', hq', rfl⟩ := List.mem_map.mp hq
      have hcolumns : ∀ q : QueueRow, (if q.queueId = item.1.queueId then
          { q with delivery := f q.delivery } else q).queueId = q.queueId ∧
          (if q.queueId = item.1.queueId then { q with delivery := f q.delivery }
            else q).sessionId = q.sessionId := by
        intro q
        split <;> exact ⟨rfl, rfl⟩
      rw [(hcolumns q').1] at hid
      rw [(hcolumns q').2]
      exact h q' hq' hid

theorem owned_retryOutboundQueue {id sid : String} (sweep : Sweep) (h : Owned db id sid) :
    Owned (retryOutboundQueue sweep db).db id sid :=
  owned_retryRows _ h

theorem not_offered_of_terminal {id sid : String} (hown : Owned db id sid)
    (hterm : (db.status? sid).any isTerminalState = true) {o : Offer}
    (ho : o ∈ (retryOutboundQueue sweep db).offers) : o.row.queueId ≠ id := by
  intro hid
  obtain ⟨expiresAt, hmem, hframe, hoffered⟩ := mem_offers_retryRows ho
  obtain ⟨r, hr, heq⟩ := List.mem_map.mp hmem
  cases heq
  have hsid := hown o.row (mem_due.mp hr).1 hid
  have hlive := hoffered.live
  rw [hsid, hframe.terminal sid hterm, hterm] at hlive
  cases hlive

/-- A row whose time has not come, or that is not pending, is left alone. -/
theorem retryOutboundQueue_keeps {id : String} {d : Delivery} (hd : delivery? db id = some d)
    (h : ¬(d.state = .pending ∧ d.nextRetryAt ≤ isoNow sweep.now)) :
    delivery? (retryOutboundQueue sweep db).db id = some d := by
  rw [retryOutboundQueue, retryRows_delivery?_of_not_mem, hd]
  rintro item hitem rfl
  obtain ⟨r, hr, rfl⟩ := List.mem_map.mp hitem
  obtain ⟨hmem, hdue⟩ := mem_due.mp hr
  rw [delivery?_of_mem hmem] at hd
  cases hd
  simp only [isDue, Bool.and_eq_true, decide_eq_true_eq] at hdue
  exact h hdue.1

theorem retryOutboundQueue_abandons {id sid : String} {d : Delivery} (hown : Owned db id sid)
    (hterm : (db.status? sid).any isTerminalState = true) (hd : delivery? db id = some d)
    (hpending : d.state = .pending) (hdue : d.nextRetryAt ≤ isoNow sweep.now) :
    delivery? (retryOutboundQueue sweep db).db id = some (setState .abandoned d) := by
  obtain ⟨r, hr, hrd⟩ := Option.map_eq_some_iff.mp hd
  have hmem := Rows.mem_of_lookup hr
  have hid := Rows.key_of_lookup hr
  have hsid := hown r hmem hid
  have hstored : (db.session? r.sessionId).isSome = true := by
    rw [hsid]
    rw [Db.status?] at hterm
    cases hs : db.session? sid with
    | none => simp [hs] at hterm
    | some _ => rfl
  have hfetched : r ∈ sweep.order (dueRows db sweep.now) := by
    refine mem_due.mpr ⟨hmem, ?_⟩
    rw [← hrd] at hpending hdue
    simp [isDue, hpending, hdue, hstored]
  have habandoned := retryRows_abandons sweep (by rw [hsid]; exact hterm)
    (List.mem_map.mpr ⟨r, hfetched, rfl⟩) (nodup_fetched sweep db)
  rw [hid, hd] at habandoned
  exact habandoned

end Sweep

/-! ### Sequences of sweeps -/

section Run

variable {id sid : String} {d : Delivery}

theorem runSweeps_not_offered {db : Db} (hown : Owned db id sid)
    (hterm : (db.status? sid).any isTerminalState = true) (sweeps : List Sweep) {o : Offer}
    (ho : o ∈ (runSweeps db sweeps).2) : o.row.queueId ≠ id := by
  induction sweeps generalizing db with
  | nil => cases ho
  | cons sweep sweeps ih =>
      rcases List.mem_append.mp ho with hfirst | hrest
      · exact not_offered_of_terminal hown hterm hfirst
      · refine ih (owned_retryOutboundQueue sweep hown) ?_ hrest
        rw [(retryOutboundQueue_sweeps sweep db).terminal sid hterm]
        exact hterm

/-- Sweeps that are too early, or come after the row has left `pending`, leave
it alone. -/
theorem runSweeps_keeps {db : Db} (hd : delivery? db id = some d) (sweeps : List Sweep)
    (h : ∀ sweep ∈ sweeps, ¬(d.state = .pending ∧ d.nextRetryAt ≤ isoNow sweep.now)) :
    delivery? (runSweeps db sweeps).1 id = some d := by
  induction sweeps generalizing db with
  | nil => exact hd
  | cons sweep sweeps ih =>
      exact ih (retryOutboundQueue_keeps hd (h sweep List.mem_cons_self))
        fun s hs => h s (List.mem_cons_of_mem _ hs)

/-- One sweep at or after its time, among any others, abandons the row. -/
theorem runSweeps_abandons {db : Db} (hown : Owned db id sid)
    (hterm : (db.status? sid).any isTerminalState = true) (hd : delivery? db id = some d)
    (hpending : d.state = .pending) {sweeps : List Sweep}
    (hdue : ∃ sweep ∈ sweeps, d.nextRetryAt ≤ isoNow sweep.now) :
    delivery? (runSweeps db sweeps).1 id = some (setState .abandoned d) := by
  induction sweeps generalizing db with
  | nil =>
      obtain ⟨sweep, hmem, -⟩ := hdue
      cases hmem
  | cons sweep sweeps ih =>
      by_cases hnow : d.nextRetryAt ≤ isoNow sweep.now
      · refine runSweeps_keeps (retryOutboundQueue_abandons hown hterm hd hpending hnow) sweeps ?_
        rintro s - ⟨hstate, -⟩
        cases hstate
      · refine ih (owned_retryOutboundQueue sweep hown) ?_ (retryOutboundQueue_keeps hd fun h => hnow h.2) ?_
        · rw [(retryOutboundQueue_sweeps sweep db).terminal sid hterm]
          exact hterm
        · obtain ⟨s, hs, hdue⟩ := hdue
          rcases List.mem_cons.mp hs with rfl | hs
          · exact absurd hdue hnow
          · exact ⟨s, hs, hdue⟩

/-- A pending row of a terminal session is kept exactly by sweeps that come
before its time. -/
theorem noticeKept_of_terminal {db : Db} {row : QueueRow}
    (hrow : row ∈ db.outboundEnvelopeQueue.rows) (hpending : row.delivery.state = .pending)
    (hterm : (db.status? row.sessionId).any isTerminalState = true) (sweeps : List Sweep) :
    NoticeKept db row.queueId sweeps ↔
      ∀ sweep ∈ sweeps, ¬row.delivery.nextRetryAt ≤ isoNow sweep.now := by
  have hd := delivery?_of_mem hrow
  have hown : Owned db row.queueId row.sessionId := by
    intro q hq hid
    have hlookup := lookup_of_mem hq
    rw [hid, lookup_of_mem hrow] at hlookup
    cases hlookup
    rfl
  constructor
  · intro hkept sweep hmem hdue
    have habandoned := runSweeps_abandons hown hterm hd hpending ⟨sweep, hmem, hdue⟩
    obtain ⟨o, ho, hid, -⟩ := hkept (by rw [habandoned]; rfl)
    exact runSweeps_not_offered hown hterm sweeps ho hid
  · intro hearly habandoned
    rw [runSweeps_keeps hd sweeps fun s hs h => hearly s hs h.2, Option.map_some, hpending]
      at habandoned
    cases habandoned

end Run

/-- `send_session_message` leaves a terminal session with an envelope pending:
sweeps keep the row from being abandoned unoffered exactly when each of them
comes before the row's `next_retry_at`. -/
theorem terminal_notice_kept_iff (sender : Sender) (db : Db) (sid : String) (kind : MessageKind)
    (payload : Fields) (agentId : Option String) (row : QueueRow) (sweeps : List Sweep)
    (hrow : row ∈ (sendSessionMessage sender db sid kind payload agentId).db.outboundEnvelopeQueue.rows)
    (hsid : row.sessionId = sid) (hpending : row.delivery.state = .pending)
    (hterminal : ((sendSessionMessage sender db sid kind payload agentId).db.status? sid).any
      isTerminalState = true) :
    NoticeKept (sendSessionMessage sender db sid kind payload agentId).db row.queueId sweeps ↔
      ∀ sweep ∈ sweeps, ¬row.delivery.nextRetryAt ≤ isoNow sweep.now :=
  noticeKept_of_terminal hrow hpending (by rw [hsid]; exact hterminal) sweeps

/-! ### A declined request -/

/-- `bob` declines `alice`'s request while nobody is reachable. -/
def declined : LocalResult :=
  sendSessionMessage (Sample.sender "bob")
    (ingestEnvelope Sample.context Sample.bobDb
      (Sample.envelope "s1" "alice" "scout" 1 .taskRequest Sample.request)).db
    "s1" .decline [(.text "reason", .text "busy")] (some "bot")

def sweepAfter (seconds : Int) : Sweep where
  ext := Sample.externals
  now := Sample.time.addSeconds seconds
  http := Sample.offline

theorem declined_isEmpty : declined.db.outboundEnvelopeQueue.rows.isEmpty = false := by
  decide +kernel

def declinedRow : QueueRow :=
  declined.db.outboundEnvelopeQueue.rows.head fun h => by
    have := declined_isEmpty
    rw [h] at this
    cases this

theorem declinedRow_mem : declinedRow ∈ declined.db.outboundEnvelopeQueue.rows :=
  List.head_mem _

theorem declinedRow_facts :
    declinedRow.sessionId = "s1" ∧ declinedRow.delivery.state = .pending ∧
      declinedRow.delivery.nextRetryAt = isoNow Sample.time ∧
      declined.db.status? "s1" = some .declined ∧
      (declined.db.session? "s1").any
        (fun row => row.expiresAt.any fun e => decide ((sweepAfter 10).now < e)) = true := by
  decide +kernel

theorem terminal_notice_kept_before :
    NoticeKept declined.db declinedRow.queueId [sweepAfter (-1)] := by
  obtain ⟨hsid, hpending, hnext, hstatus, -⟩ := declinedRow_facts
  refine (terminal_notice_kept_iff (Sample.sender "bob") _ "s1" .decline _ (some "bot") declinedRow
    [sweepAfter (-1)] declinedRow_mem hsid hpending ?_).mpr ?_
  · change (declined.db.status? "s1").any isTerminalState = true
    rw [hstatus]
    rfl
  · intro sweep hmem
    rw [List.mem_singleton.mp hmem, hnext]
    decide +kernel

/-- Ten seconds later, long before the session expires, the decline is abandoned
unoffered. -/
theorem declined_notice_abandoned :
    declinedRow ∈ declined.db.outboundEnvelopeQueue.rows ∧ declinedRow.delivery.state = .pending ∧
      declined.db.status? "s1" = some .declined ∧
      (declined.db.session? "s1").any
        (fun row => row.expiresAt.any fun e => decide ((sweepAfter 10).now < e)) = true ∧
      ¬NoticeKept declined.db declinedRow.queueId [sweepAfter 10] := by
  obtain ⟨hsid, hpending, hnext, hstatus, hexpiry⟩ := declinedRow_facts
  refine ⟨declinedRow_mem, hpending, hstatus, hexpiry, ?_⟩
  rw [noticeKept_of_terminal declinedRow_mem hpending (by rw [hsid, hstatus]; rfl)]
  intro hearly
  refine hearly (sweepAfter 10) List.mem_cons_self ?_
  rw [hnext]
  decide +kernel

end Kin.Transport
