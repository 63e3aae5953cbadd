import Kin.Node.TurnChecks
import Kin.Node.UsedNumbers
import Kin.Session.ApprovalGate

/-!
The messages of turns and the outbound queue. A turn ingests its own message and then
queues it, whatever the answer was. As long as the answer is `delivered`, the number of
every queued envelope is used up in the log, and the next number is free in the queue; one
message that is turned down leaves its number to the next turn, whose insert collides.
-/

namespace Kin.Node

open Kin.Py Kin.Lib Kin.Schemas Kin.Session Kin.Storage Kin.Audit Kin.Artifacts Kin.Policy
  Kin.Transport

/-! ### The message of a turn -/

/-- What a turn hands to ingestion and then to the queue. -/
structure Outgoing where
  db : Db
  peer : String
  sequence : Nat
  kind : MessageKind
  body : Fields

def outgoingOf? (sender : Sender) (sid agentId : String) (turn : Turn) (db : Db) (peer : String) :
    Option Outgoing := do
  let (kind, content) ← turn.response.message
  let payload : Fields := [(.text "content", .text content)]
  let contentHash ← computeContentHash sender.ext payload
  let sequence := nextSequence db sid sender.username
  return { db, peer, sequence, kind,
           body := signedEnvelope sender sid agentId contentHash sequence kind payload }

def outgoing? (sender : Sender) (db : Db) (sid : String) (turn : Turn) : Option Outgoing := do
  let i ← invocation? sender db sid
  let cleared ← cleared? sender sid i.agentId turn (db.updateSession sid addCost) i.card
  outgoingOf? sender sid i.agentId turn cleared (peerOf sender i.row)

def sendOutgoing (sender : Sender) (sid : String) (turn : Turn) (out : Outgoing) : TurnResult :=
  let result := ingestEnvelope (turnContext sender turn) out.db out.body
  match result.exit with
  | .error e => { db := result.db, exit := .error e }
  | .ok ack =>
      match enqueue result.db
        (pendingRow sender sid out.peer out.sequence out.kind out.body) with
      | .error e => { db := result.db, exit := .error e }
      | .ok db => { db, exit := .ok (.sent ack.status out.sequence out.kind) }

section Turns

variable {sender : Sender} {sid : String} {turn : Turn}

theorem finishTurn_eq (agentId : String) (db : Db) (peer : String) :
    (outgoingOf? sender sid agentId turn db peer = none ∧
      (finishTurn sender sid agentId turn db peer).db = db) ∨
    ∃ out contentHash payload, outgoingOf? sender sid agentId turn db peer = some out ∧
      out.db = db ∧ out.sequence = nextSequence db sid sender.username ∧
      out.body = signedEnvelope sender sid agentId contentHash
        (nextSequence db sid sender.username) out.kind payload ∧
      finishTurn sender sid agentId turn db peer = sendOutgoing sender sid turn out := by
  unfold outgoingOf? finishTurn
  cases turn.response.message with
  | none => exact .inl ⟨rfl, rfl⟩
  | some message =>
      obtain ⟨kind, content⟩ := message
      simp only [Option.bind_eq_bind, Option.bind_some, sendTurnMessage]
      cases computeContentHash sender.ext [(.text "content", .text content)] with
      | none => exact .inl ⟨rfl, rfl⟩
      | some contentHash => exact .inr ⟨_, contentHash, _, rfl, rfl, rfl, rfl, rfl⟩

theorem isEmpty_rowParticipants {row row' : SessionRow}
    (hinitiator : row'.initiatorUsername = row.initiatorUsername)
    (hreceiver : row'.receiverUsername = row.receiverUsername) :
    (rowParticipants row').isEmpty = (rowParticipants row).isEmpty := by
  unfold rowParticipants
  rw [hinitiator, hreceiver]
  dsimp only
  split
  · split
    · rfl
    · rw [Dict.isEmpty_set, Dict.isEmpty_set]
  · rw [Dict.isEmpty_set, Dict.isEmpty_set]

theorem isEmpty_of_invocation {i : Invocation} (h : invocation? sender db sid = some i) :
    (rowParticipants (addCost i.row)).isEmpty = false := by
  obtain ⟨hlocal, -⟩ := invocation?_spec h
  obtain ⟨hrow, -⟩ := withinBudgets_of_invocation h
  simp only [localAgent?, hrow, Option.bind_eq_bind, Option.bind_some, Option.bind_eq_some_iff]
    at hlocal
  obtain ⟨info, hinfo, -⟩ := hlocal
  have hsame : (rowParticipants (addCost i.row)).isEmpty = (rowParticipants i.row).isEmpty :=
    isEmpty_rowParticipants rfl rfl
  rw [hsame]
  exact Dict.isEmpty_of_get? hinfo

/-- A turn has come to its message, with the log and the queue it then finds. -/
structure Ready (sender : Sender) (db : Db) (sid : String) (turn : Turn) (out : Outgoing) :
    Prop where
  log : db.sessionEvents <+: out.db.sessionEvents
  queue : out.db.outboundEnvelopeQueue = db.outboundEnvelopeQueue
  sequence : out.sequence = nextSequence out.db sid sender.username
  next : NextEnvelope out.db out.body sid sender.username
  checks : turnedDown (turnContext sender turn) out.db out.body =
    turnedDown (turnContext sender turn) db out.body
  sent : advanceSessionTurn sender db sid turn = sendOutgoing sender sid turn out

/-- A turn ends by sending a message, or leaves the queue as it is. -/
theorem advanceSessionTurn_outgoing (sender : Sender) (db : Db) (sid : String) (turn : Turn) :
    (outgoing? sender db sid turn = none ∧
      db.sessionEvents <+: (advanceSessionTurn sender db sid turn).db.sessionEvents ∧
      (advanceSessionTurn sender db sid turn).db.outboundEnvelopeQueue =
        db.outboundEnvelopeQueue) ∨
    ∃ out, outgoing? sender db sid turn = some out ∧ Ready sender db sid turn out := by
  unfold outgoing?
  cases hinvocation : invocation? sender db sid with
  | none =>
      refine .inl ⟨rfl, ?_⟩
      obtain ⟨e, heq⟩ | ⟨reason, heq⟩ := advanceSessionTurn_of_none hinvocation turn
      · rw [heq]
        exact ⟨List.prefix_rfl, rfl⟩
      · have hpause := tables_of_moves (step_moves db (.pause sender sid reason))
        rw [heq]
        obtain hdb | hdb := exhaustedTurn_db sender db sid reason
        · rw [hdb]
          exact hpause
        · rw [hdb]
          exact hpause
  | some i =>
  have hrow := (withinBudgets_of_invocation hinvocation).1
  have hpaid : (db.updateSession sid addCost).session? sid = some (addCost i.row) := by
    rw [session?_updateSession_self addCost_sessionId, hrow]
    rfl
  have hturn : advanceSessionTurn sender db sid turn = _ := advanceSessionTurn_of_some hinvocation
  rw [hturn]
  simp only [Option.bind_eq_bind, Option.bind_some]
  rcases @handleResponse_cleared (fun _ _ _ => False) sender sid i.agentId turn
    (db.updateSession sid addCost) i.card (peerOf sender i.row) with
    ⟨hnone, hmoves⟩ | ⟨cleared, hsome, hmoves, heq⟩
  · rw [hnone]
    exact .inl ⟨rfl, (tables_of_moves hmoves).1, (tables_of_moves hmoves).2⟩
  obtain ⟨hlog, hqueue⟩ := tables_of_moves hmoves
  have hprepares : Prepares sid db cleared := (Prepares.of_cost db).trans (.of_cleared hsome)
  rw [hsome, heq]
  rcases finishTurn_eq i.agentId cleared (peerOf sender i.row) with
    ⟨hnone, hdb⟩ | ⟨out, contentHash, payload, hout, hcleared, hsequence, hbody, hfinish⟩
  · rw [hdb]
    exact .inl ⟨hnone, hlog, hqueue⟩
  · subst hcleared
    have hchanges : Changes (fun _ _ _ => False) False (fun _ => False) _ out.db :=
      .of_moves hmoves
    obtain ⟨row, hcleared, hterms⟩ := SameTerms.of_changes hchanges hpaid
    have hparticipants : (rowParticipants row).isEmpty = false := by
      rw [isEmpty_rowParticipants hterms.initiatorUsername hterms.receiverUsername]
      exact isEmpty_of_invocation hinvocation
    refine .inr ⟨out, hout, hlog, hqueue, hsequence, ?_, ?_, hturn.trans (heq.trans hfinish)⟩
    · rw [hbody]
      exact nextEnvelope_signedEnvelope sender hcleared hparticipants _ _ _ _
    · rw [hbody]
      exact hprepares.turnedDown_eq hrow rfl

/-! ### One turn -/

/-- A turn queues what was accepted, under a number that is free in the queue. -/
structure Disciplined (sender : Sender) (db : Db) (sid : String) (turn : Turn) : Prop where
  accepted : ∀ row ∈ (advanceSessionTurn sender db sid turn).db.outboundEnvelopeQueue.rows,
    row ∉ db.outboundEnvelopeQueue.rows →
      (advanceSessionTurn sender db sid turn).exit =
          .ok (.sent .delivered row.sequence row.envelopeKind) ∧
        ∃ event ∈ (advanceSessionTurn sender db sid turn).db.sessionEvents,
          event.sessionId = row.sessionId ∧ event.actorUsername = sender.username ∧
            event.sequence = some row.sequence
  /-- No insert collides on `UNIQUE (session_id, sequence, recipient_username)`. -/
  free : ∀ out, outgoing? sender db sid turn = some out →
    (ingestEnvelope (turnContext sender turn) out.db out.body).exit.isOk = true →
      db.outboundEnvelopeQueue.hasEnvelope (sid, out.sequence, out.peer) = false

/-- The checks of ingestion, on the state before the turn, let the message of the turn
pass. -/
def Fits (sender : Sender) (db : Db) (sid : String) (turn : Turn) : Prop :=
  ∀ out, outgoing? sender db sid turn = some out →
    turnedDown (turnContext sender turn) db out.body = false

/-- With a new id an insert fails only on the second constraint. -/
theorem enqueue_of_new_id (row : QueueRow)
    (hid : db.outboundEnvelopeQueue.hasId row.queueId = false)
    (hkey : db.outboundEnvelopeQueue.hasEnvelope row.envelopeKey = false) :
    ∃ db', enqueue db row = .ok db' ∧
      db'.outboundEnvelopeQueue.rows = db.outboundEnvelopeQueue.rows ++ [row] := by
  simp only [enqueue, OutboundQueue.insert?, hid, hkey, and_self, dite_true]
  exact ⟨_, rfl, rfl⟩

theorem fits_of_disciplined
    (hid : db.outboundEnvelopeQueue.hasId sender.queueId = false)
    (h : Disciplined sender db sid turn) : Fits sender db sid turn := by
  intro out hout
  rcases advanceSessionTurn_outgoing sender db sid turn with
    ⟨hnone, -⟩ | ⟨_, hout', hready⟩
  · rw [hnone] at hout
    cases hout
  rw [hout] at hout'
  cases hout'
  by_contra hdown
  rw [Bool.not_eq_false, ← hready.checks] at hdown
  obtain ⟨ack, hack, hrejected⟩ := (answer_of_next hready.next).1 hdown
  have hfree := h.free out hout (by rw [hack]; rfl)
  have houtside := (ingestEnvelope_outside (turnContext sender turn) out.db out.body).2.2
  rw [hready.queue] at houtside
  rw [← houtside] at hid
  obtain ⟨db', henqueue, hrows⟩ := enqueue_of_new_id
    (pendingRow sender sid out.peer out.sequence out.kind out.body) hid
    (by rw [houtside]; exact hfree)
  have hsend : sendOutgoing sender sid turn out =
      { db := db', exit := .ok (.sent ack.status out.sequence out.kind) } := by
    simp only [sendOutgoing, hack, henqueue]
  have haccepted := h.accepted (pendingRow sender sid out.peer out.sequence out.kind out.body)
  rw [hready.sent, hsend] at haccepted
  dsimp only at haccepted
  rw [hrows, houtside] at haccepted
  have hexit := (haccepted (List.mem_append_right _ List.mem_cons_self) ?_).1
  · rw [hrejected] at hexit
    cases hexit
  · intro hmem
    have hhas : db.outboundEnvelopeQueue.hasEnvelope (sid, out.sequence, out.peer) = true :=
      List.any_eq_true.mpr ⟨_, hmem, by simp [pendingRow, QueueRow.envelopeKey]⟩
    rw [hfree] at hhas
    cases hhas

/-- The queue after an insert, which may have failed. -/
theorem mem_of_enqueue {row other : QueueRow} (h : enqueue db row = .ok db')
    (hmem : other ∈ db'.outboundEnvelopeQueue.rows) :
    (other ∈ db.outboundEnvelopeQueue.rows ∨ other = row) ∧
      db'.sessionEvents = db.sessionEvents := by
  unfold enqueue OutboundQueue.insert? at h
  split at h
  · rename_i queue hqueue
    cases h
    split at hqueue
    · cases hqueue
      rcases List.mem_append.mp hmem with hold | hnew
      · exact ⟨.inl hold, rfl⟩
      · exact ⟨.inr (List.mem_singleton.mp hnew), rfl⟩
    · cases hqueue
  · cases h

theorem disciplined_of_fits
    (hfree : ∀ out, outgoing? sender db sid turn = some out →
      db.outboundEnvelopeQueue.hasEnvelope (sid, out.sequence, out.peer) = false)
    (h : Fits sender db sid turn) : Disciplined sender db sid turn := by
  refine ⟨fun row hrow hnew => ?_, fun out hout _ => hfree out hout⟩
  rcases advanceSessionTurn_outgoing sender db sid turn with
    ⟨-, -, hqueue⟩ | ⟨out, hout, hready⟩
  · rw [hqueue] at hrow
    exact absurd hrow hnew
  have houtside := (ingestEnvelope_outside (turnContext sender turn) out.db out.body).2.2
  rw [hready.queue] at houtside
  have hdown := h out hout
  rw [← hready.checks] at hdown
  rw [hready.sent] at hrow ⊢
  unfold sendOutgoing at hrow ⊢
  dsimp only at hrow ⊢
  cases hexit : (ingestEnvelope (turnContext sender turn) out.db out.body).exit with
  | error e =>
      rw [hexit] at hrow
      dsimp only at hrow
      rw [houtside] at hrow
      exact absurd hrow hnew
  | ok ack =>
  rw [hexit] at hrow
  dsimp only at hrow ⊢
  cases henqueue : enqueue (ingestEnvelope (turnContext sender turn) out.db out.body).db
    (pendingRow sender sid out.peer out.sequence out.kind out.body) with
  | error e =>
      rw [henqueue] at hrow
      dsimp only at hrow
      rw [houtside] at hrow
      exact absurd hrow hnew
  | ok db' =>
  rw [henqueue] at hrow
  dsimp only at hrow ⊢
  obtain ⟨hmem, hevents⟩ := mem_of_enqueue henqueue hrow
  rw [houtside] at hmem
  obtain rfl := hmem.resolve_left hnew
  obtain ⟨hdelivered, event, hevent, hsid, hactor, hseq⟩ := (answer_of_next hready.next).2 hdown
    ack hexit
  rw [hdelivered, hevents]
  refine ⟨rfl, event, hevent, hsid, hactor, ?_⟩
  rw [hseq, ← hready.sequence]
  rfl

/-- Where the numbers of the queue are used up, the number of the next message is free. -/
theorem Backed.free (hbacked : Backed sender.username db) {out : Outgoing}
    (hout : outgoing? sender db sid turn = some out) :
    db.outboundEnvelopeQueue.hasEnvelope (sid, out.sequence, out.peer) = false := by
  rcases advanceSessionTurn_outgoing sender db sid turn with ⟨hnone, -⟩ | ⟨_, hout', hready⟩
  · rw [hnone] at hout
    cases hout
  rw [hout] at hout'
  cases hout'
  by_contra htaken
  rw [Bool.not_eq_false] at htaken
  obtain ⟨row, hrow, hkey⟩ := List.any_eq_true.mp htaken
  simp only [QueueRow.envelopeKey, beq_iff_eq, Prod.mk.injEq] at hkey
  have hused := hbacked row hrow
  have hgrown := nextSequence_mono hready.log sid sender.username
  rw [hkey.1, hkey.2.1, hready.sequence] at hused
  exact absurd hused (Nat.not_lt.mpr hgrown)

theorem sessionEvents_prefix_sendOutgoing (out : Outgoing) :
    out.db.sessionEvents <+: (sendOutgoing sender sid turn out).db.sessionEvents := by
  have hingest := sessionEvents_prefix_ingestEnvelope (turnContext sender turn) out.db out.body
  unfold sendOutgoing
  dsimp only
  split
  · exact hingest
  split
  · exact hingest
  · rename_i henqueue
    unfold enqueue at henqueue
    split at henqueue
    · cases henqueue
      exact hingest
    · cases henqueue

/-- A disciplined turn queues under used numbers. -/
theorem Disciplined.queues (h : Disciplined sender db sid turn) :
    Queues sender.username db (advanceSessionTurn sender db sid turn).db where
  log := by
    rcases advanceSessionTurn_outgoing sender db sid turn with ⟨-, hlog, -⟩ | ⟨out, -, hready⟩
    · exact hlog
    · rw [hready.sent]
      exact hready.log.trans (sessionEvents_prefix_sendOutgoing out)
  rows row hrow := by
    by_cases hold : row ∈ db.outboundEnvelopeQueue.rows
    · exact .inl ⟨row, hold, rfl⟩
    · obtain ⟨-, event, hevent, hsid, hactor, hseq⟩ := h.accepted row hrow hold
      exact .inr (lt_nextSequence hevent hsid hactor hseq)

end Turns

/-! ### Runs -/

def Activity.sender? : Activity → Option Sender
  | .call c => c.sender?
  | .tagIn sender _ _ => some sender
  | .operation _ | .retryOutboundQueue _ => none

/-- Calls are the owner's, and the uuid for the queue is new. -/
def Owned (owner : String) (db : Db) (activity : Activity) : Prop :=
  ∀ sender, activity.sender? = some sender →
    sender.username = owner ∧ db.outboundEnvelopeQueue.hasId sender.queueId = false

def Activity.OnTurn (P : Sender → Db → String → Turn → Prop) (db : Db) : Activity → Prop
  | .call (.advance sender sid turn) => P sender db sid turn
  | _ => True

theorem backed_step {activity : Activity} (hbacked : Backed owner db)
    (howned : Owned owner db activity) (hfits : activity.OnTurn Fits db) :
    Backed owner (activity.step db) := by
  refine hbacked.of_queues ?_
  cases activity with
  | operation op => exact queues_of_moves (step_moves db op)
  | retryOutboundQueue sweep => exact queues_retryRows ..
  | tagIn sender sid args =>
      obtain ⟨rfl, -⟩ := howned sender rfl
      exact queues_tagInHandoff ..
  | call c =>
      cases c with
      | ingest ctx raw => exact queues_ingestEnvelope ..
      | dispatch sender request =>
          obtain ⟨rfl, -⟩ := howned sender rfl
          exact queues_dispatchSession ..
      | send sender sid kind payload agentId =>
          obtain ⟨rfl, -⟩ := howned sender rfl
          exact queues_sendSessionMessage ..
      | respond sender sid decision agentId reason =>
          obtain ⟨rfl, -⟩ := howned sender rfl
          exact queues_respondToSession ..
      | cancel sender sid reason => exact queues_cancelSession ..
      | pause sender sid reason => exact queues_of_moves (step_moves db (.pause sender sid reason))
      | resume sender sid reason =>
          exact queues_of_moves (step_moves db (.resume sender sid reason))
      | offer sender sid artifactId => exact queues_sendArtifactOffer ..
      | advance sender sid turn =>
          obtain ⟨rfl, -⟩ := howned sender rfl
          exact (disciplined_of_fits (fun _ hout => hbacked.free hout) hfits).queues

/-- Along the runs of a node, turns queue what ingestion accepted, under numbers that are
free, exactly when the checks of ingestion let their messages pass. -/
theorem queued_envelopes_accepted_iff (owner : String) (identity : Option String)
    (contacts : List ContactRow) (agents : List AgentRow) (activities : List Activity)
    (howned : Along Activity.step (Owned owner) (Db.fresh identity contacts agents) activities) :
    Along Activity.step (Activity.OnTurn Disciplined) (Db.fresh identity contacts agents)
        activities ↔
      Along Activity.step (Activity.OnTurn Fits) (Db.fresh identity contacts agents)
        activities := by
  constructor
  · intro h
    refine (howned.and h).mono fun db activity hboth => ?_
    obtain ⟨howned, hdisciplined⟩ := hboth
    cases activity with
    | call c =>
        cases c with
        | advance sender sid turn => exact fits_of_disciplined (howned sender rfl).2 hdisciplined
        | _ => trivial
    | _ => trivial
  · intro h
    have hbacked : Backed owner (Db.fresh identity contacts agents) := fun _ hmem => by cases hmem
    refine along_of_invariant (fun db activity hbacked hboth =>
      backed_step hbacked hboth.1 hboth.2) (fun db activity hbacked hboth => ?_) hbacked
      (howned.and h)
    obtain ⟨howned, hfits⟩ := hboth
    cases activity with
    | call c =>
        cases c with
        | advance sender sid turn =>
            obtain ⟨rfl, -⟩ := howned sender rfl
            exact disciplined_of_fits (fun _ hout => hbacked.free hout) hfits
        | _ => trivial
    | _ => trivial

namespace Sample

open Kin.Transport.Sample

/-- `alice`'s node with an agent of her own. -/
def scoutDb : Db := Db.fresh (some "alice") [] [⟨"scout", true, "available", none⟩]

/-- `alice` asked for a session, and `bob` accepted it. -/
def agreed : List Activity := [.call dispatched, .call accepted]

/-- The agent answers with a message, which the policy lets out. -/
def answering (kind : MessageKind) : Turn where
  response := { message := some (kind, "done") }
  evaluate db _ := (db.approvals, .ok .allow)

/-- A turn of `alice` under a new uuid for the queue. -/
def turnAs (queueId : String) (kind : MessageKind) : Activity :=
  .call (.advance { sender "alice" with queueId } "s1" (answering kind))

end Sample

/-- Two turns of `alice`, the first with a message that the session does not allow. -/
theorem queued_envelopes_accepted_declined :
    Along Activity.step (Activity.OnTurn Disciplined) Sample.scoutDb
        (Sample.agreed ++ [Sample.turnAs "q2" .decline, Sample.turnAs "q3" .question]) ↔
      Along Activity.step (Activity.OnTurn Fits) Sample.scoutDb
        (Sample.agreed ++ [Sample.turnAs "q2" .decline, Sample.turnAs "q3" .question]) := by
  have hfree : (run Activity.step Sample.scoutDb Sample.agreed).outboundEnvelopeQueue.hasId "q2" =
        false ∧
      (run Activity.step Sample.scoutDb (Sample.agreed ++
        [Sample.turnAs "q2" .decline])).outboundEnvelopeQueue.hasId "q3" = false := by
    decide +kernel
  refine queued_envelopes_accepted_iff "alice" (some "alice") []
    [⟨"scout", true, "available", none⟩] _ ⟨?_, ?_, ?_, ?_, trivial⟩
  · intro sender hsender
    cases hsender
    exact ⟨rfl, rfl⟩
  · intro sender hsender
    cases hsender
  · intro sender hsender
    cases hsender
    exact ⟨rfl, hfree.1⟩
  · intro sender hsender
    cases hsender
    exact ⟨rfl, hfree.2⟩

/-- `alice`'s agent declines in an active session: the message is rejected and queued under
the number 2, which is not stored, and the next turn's message collides with it. -/
theorem rejected_turn_queued :
    let db := run Activity.step Sample.scoutDb Sample.agreed
    let first := advanceSessionTurn { Transport.Sample.sender "alice" with queueId := "q2" } db "s1"
      (Sample.answering .decline)
    let second := advanceSessionTurn { Transport.Sample.sender "alice" with queueId := "q3" }
      first.db "s1" (Sample.answering .question)
    first.exit = .ok (.sent .rejected 2 .decline) ∧
      (∃ row ∈ first.db.outboundEnvelopeQueue.rows, row.sequence = 2) ∧
      (∀ event ∈ first.db.sessionEvents, event.actorUsername = "alice" →
        event.sequence ≠ some 2) ∧
      second.exit = .error .integrityError := by
  intro db first second
  decide +kernel

end Kin.Node
