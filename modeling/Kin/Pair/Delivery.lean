import Kin.Inbox.Polled
import Kin.Node.QueueRows

/-!
One node's envelopes on their way to another, past the peer's endpoint and past a relay. Calls,
sweeps of the queue, posts and polls come in any order, and answers and acknowledgements may get
lost. Every numbered event of the sender is in the queue, in the mailbox at the relay, or in the
log of the recipient.
-/

namespace Kin.Pair

open Kin.Py Kin.Lib Kin.Schemas Kin.Session Kin.Storage Kin.Audit Kin.Node Kin.Transport
open Kin.Inbox (Reader Stored PollsOnly)

/-! ### Two nodes and a relay -/

/-- The sender, the recipient with its mailbox, and the bodies that the recipient's endpoint
answered with 200. -/
structure Link where
  sender : Node.World
  recipient : Inbox.State
  answered : List Fields

inductive LinkAction
  /-- The sender calls an operation. -/
  | call (c : Call)
  /-- The sender retries its queue. -/
  | sweep (s : Sweep)
  /-- A body is posted to the recipient's endpoint. -/
  | post (ctx : IngestContext) (raw : Fields)
  /-- The recipient does anything else. -/
  | work (activity : Activity)
  /-- A message arrives at the relay, or the recipient polls. -/
  | inbox (action : Inbox.Action)

variable (reader : Reader)

def linkStep (l : Link) : LinkAction → Link
  | .call c => { l with sender := perform l.sender c }
  | .sweep s => { l with sender := { l.sender with db := (retryOutboundQueue s l.sender.db).db } }
  | .post ctx raw =>
      { l with
        recipient := Inbox.step reader l.recipient
          (.elsewhere (ingestEnvelope ctx l.recipient.db raw).db)
        answered :=
          if Delivered ctx l.recipient.db raw then l.answered ++ [raw] else l.answered }
  | .work activity =>
      { l with
        recipient := Inbox.step reader l.recipient (.elsewhere (activity.step l.recipient.db)) }
  | .inbox action => { l with recipient := Inbox.step reader l.recipient action }

def Mailed (l : Link) (body : Fields) : Prop :=
  ∃ m ∈ l.recipient.delivered, Inbox.Carries reader l.recipient.db m body

/-- The answers to an attempt are true: a 200 of the peer is one of its endpoint, and the relay
accepts what it has put into the mailbox. -/
structure Truthful (l : Link) (body : Fields) (direct relay : Option HttpResult) : Prop where
  direct : accepted? direct = true → body ∈ l.answered
  relay : accepted? relay = true → Mailed reader l body

/-- The sender's calls keep what they sign, answers are true, and only polls take messages from
the mailbox. -/
def Proper (l : Link) : LinkAction → Prop
  | .call c => Keeps l.sender c ∧
      ∀ t ∈ (perform l.sender c).sent, Truthful reader l t.envelope t.direct t.relay
  | .sweep s => ∀ o ∈ (retryOutboundQueue s l.sender.db).offers,
      Truthful reader l o.row.envelope o.direct o.relay
  | .post ctx _ => ctx.ext = reader.ext
  | .work _ => True
  | .inbox action => PollsOnly reader l.recipient action

def Link.fresh (identity : Option String) (contacts : List ContactRow) (agents : List AgentRow)
    (recipient : Db) : Link :=
  ⟨Node.World.fresh identity contacts agents, Inbox.State.initial recipient, []⟩

variable {reader} {l : Link} {body : Fields}

/-! ### The invariant -/

structure Linked (reader : Reader) (l : Link) : Prop where
  custody : Custody (Held l.sender) l.sender.db
  sent : ∀ t ∈ l.sender.sent, Truthful reader l t.envelope t.direct t.relay
  delivered : ∀ row ∈ l.sender.db.outboundEnvelopeQueue.rows, row.delivery.state = .delivered →
    row.envelope ∈ l.answered
  relayed : ∀ row ∈ l.sender.db.outboundEnvelopeQueue.rows, row.delivery.state = .relayed →
    Mailed reader l row.envelope
  answered : ∀ body ∈ l.answered, Stored reader.ext l.recipient.db body
  recipient : Inbox.Kept reader l.recipient

theorem linked_fresh (identity : Option String) (contacts : List ContactRow)
    (agents : List AgentRow) (recipient : Db) :
    Linked reader (Link.fresh identity contacts agents recipient) where
  custody := custody_fresh identity contacts agents
  sent _ ht := by cases ht
  delivered _ hrow := by cases hrow
  relayed _ hrow := by cases hrow
  answered _ hbody := by cases hbody
  recipient := Inbox.kept_initial reader recipient

/-! ### Steps of the recipient -/

theorem Mailed.later {recipient : Inbox.State} {answered : List Fields}
    (h : Mailed reader l body) (hlater : Inbox.Later l.recipient recipient) :
    Mailed reader ⟨l.sender, recipient, answered⟩ body := by
  obtain ⟨m, hm, hcarries⟩ := h
  exact ⟨m, hlater.delivered m hm, (Inbox.carries_congr hlater.contacts).mpr hcarries⟩

/-- The recipient's side moves on, and has answered no body that it has not stored. -/
theorem Linked.recipientStep (h : Linked reader l) {recipient : Inbox.State}
    {answered : List Fields} (hlater : Inbox.Later l.recipient recipient)
    (hkept : Inbox.Kept reader recipient) (hmono : ∀ body ∈ l.answered, body ∈ answered)
    (hstored : ∀ body ∈ answered, body ∈ l.answered ∨ Stored reader.ext recipient.db body) :
    Linked reader ⟨l.sender, recipient, answered⟩ where
  custody := h.custody
  sent t ht := ⟨fun hok => hmono _ ((h.sent t ht).direct hok),
    fun hok => ((h.sent t ht).relay hok).later hlater⟩
  delivered row hrow hstate := hmono _ (h.delivered row hrow hstate)
  relayed row hrow hstate := (h.relayed row hrow hstate).later hlater
  answered body hbody := by
    rcases hstored body hbody with hold | hnew
    · exact (h.answered body hold).grow hlater.log
    · exact hnew
  recipient := hkept

theorem Linked.inbox (h : Linked reader l) {action : Inbox.Action}
    (hpolls : PollsOnly reader l.recipient action) :
    Linked reader { l with recipient := Inbox.step reader l.recipient action } :=
  h.recipientStep (Inbox.later_step hpolls) (h.recipient.step hpolls) (fun _ hbody => hbody)
    fun _ hbody => .inl hbody

/-- A posted body that is answered with 200 is stored. -/
theorem Linked.post (h : Linked reader l) {ctx : IngestContext} (hext : ctx.ext = reader.ext)
    (raw : Fields) : Linked reader (linkStep reader l (.post ctx raw)) := by
  have hpolls : PollsOnly reader l.recipient
      (.elsewhere (ingestEnvelope ctx l.recipient.db raw).db) :=
    sessionEvents_prefix_step l.recipient.db (.ingest ctx raw)
  refine h.recipientStep (Inbox.later_step hpolls) (h.recipient.step hpolls) ?_ ?_
  · intro body hbody
    split
    · exact List.mem_append_left _ hbody
    · exact hbody
  · intro body hbody
    split at hbody
    · rename_i hdelivered
      rcases List.mem_append.mp hbody with hold | hnew
      · exact .inl hold
      · rw [List.mem_singleton.mp hnew, ← hext]
        exact .inr (Inbox.stored_of_delivered hdelivered)
    · exact .inl hbody

/-! ### Steps of the sender -/

/-- The owner's calls. -/
theorem Linked.call (h : Linked reader l) {c : Call} (hproper : Proper reader l (.call c)) :
    Linked reader (linkStep reader l (.call c)) := by
  obtain ⟨hkeeps, htruthful⟩ := hproper
  have hadds := addsPending_perform l.sender c
  refine ⟨custody_perform l.sender c h.custody hkeeps,
    fun t ht => ⟨(htruthful t ht).direct, (htruthful t ht).relay⟩, ?_, ?_, h.answered, h.recipient⟩
  · intro row hrow hstate
    rcases hadds.rows row hrow with hold | hpending
    · exact h.delivered row hold hstate
    · rw [hpending] at hstate
      cases hstate
  · intro row hrow hstate
    rcases hadds.rows row hrow with hold | hpending
    · exact h.relayed row hold hstate
    · rw [hpending] at hstate
      cases hstate

/-- A sweep touches no event and no identity. -/
theorem custody_sweep {kept : Fields → Prop} {db : Db} (h : Custody kept db) (s : Sweep) :
    Custody kept (retryOutboundQueue s db).db := by
  have hrows : ∀ (rows : List (QueueRow × Option Instant)) {db : Db}, Custody kept db →
      Custody kept (retryRows s db rows).db := by
    intro rows
    induction rows with
    | nil => exact fun hdb => hdb
    | cons item rows ih =>
        intro db hdb
        refine ih ?_
        have hset : ∀ f, Custody kept (setDelivery db item.1.queueId f) :=
          fun f => hdb.of_same rfl rfl fun _ hsome => hsome
        obtain ⟨f, heq | ⟨command, heq⟩⟩ := retryRow_db s db item.1 item.2
        · rw [heq]
          exact hset f
        · rw [heq]
          exact (neutral_nodeCommand ..).custody kept (hset f)
  exact hrows _ h

theorem Linked.sweep (h : Linked reader l) {s : Sweep} (hproper : Proper reader l (.sweep s)) :
    Linked reader (linkStep reader l (.sweep s)) := by
  have hswept := rowsSwept_retryOutboundQueue s l.sender.db
  have hcustody : Custody (Held { l.sender with db := (retryOutboundQueue s l.sender.db).db })
      l.sender.db := by
    refine h.custody.mono fun body hheld => hheld.imp_right ?_
    rintro ⟨row, hrow, rfl⟩
    obtain ⟨row', hrow', hrowSwept⟩ := hswept.kept row hrow
    exact ⟨row', hrow', hrowSwept.envelope⟩
  refine ⟨custody_sweep hcustody s,
    fun t ht => ⟨(h.sent t ht).direct, (h.sent t ht).relay⟩, ?_, ?_, h.answered, h.recipient⟩
  · intro row' hrow' hstate
    obtain ⟨row, hrow, hrowSwept⟩ := hswept.added row' hrow'
    rw [hrowSwept.envelope]
    rcases hrowSwept.delivered hstate with hold | ⟨o, ho, henvelope, hok⟩
    · exact h.delivered row hrow hold
    · exact henvelope ▸ (hproper o ho).direct hok
  · intro row' hrow' hstate
    obtain ⟨row, hrow, hrowSwept⟩ := hswept.added row' hrow'
    rw [hrowSwept.envelope]
    rcases hrowSwept.relayed hstate with hold | ⟨o, ho, henvelope, hok⟩
    · exact h.relayed row hrow hold
    · exact henvelope ▸ (hproper o ho).relay hok

/-! ### Whole runs -/

theorem Linked.step (l : Link) (action : LinkAction) (h : Linked reader l)
    (hproper : Proper reader l action) : Linked reader (linkStep reader l action) := by
  cases action with
  | call c => exact h.call hproper
  | sweep s => exact h.sweep hproper
  | post ctx raw => exact h.post hproper raw
  | work activity =>
      have hpolls : PollsOnly reader l.recipient (.elsewhere (activity.step l.recipient.db)) :=
        sessionEvents_prefix_activities l.recipient.db [activity]
      exact h.inbox hpolls
  | inbox action => exact h.inbox hproper

def Waiting (l : Link) (body : Fields) : Prop :=
  ∃ row ∈ l.sender.db.outboundEnvelopeQueue.rows, row.envelope = body ∧
    row.delivery.state ≠ .delivered ∧ row.delivery.state ≠ .relayed

theorem Linked.reaches (h : Linked reader l) (hheld : Held l.sender body) :
    Waiting l body ∨ (∃ m ∈ l.recipient.mailbox, Inbox.Carries reader l.recipient.db m body) ∨
      Stored reader.ext l.recipient.db body := by
  have hmailed : Mailed reader l body →
      (∃ m ∈ l.recipient.mailbox, Inbox.Carries reader l.recipient.db m body) ∨
        Stored reader.ext l.recipient.db body := by
    rintro ⟨m, hm, hcarries⟩
    rcases h.recipient.stored hm with hmail | hstored
    · exact .inl ⟨m, hmail, hcarries⟩
    · exact .inr (hstored body hcarries)
  rcases hheld with ⟨t, ht, rfl, hdirect | hrelay⟩ | ⟨row, hrow, rfl⟩
  · exact .inr (.inr (h.answered _ ((h.sent t ht).direct hdirect)))
  · exact .inr (hmailed ((h.sent t ht).relay hrelay))
  · by_cases hdelivered : row.delivery.state = .delivered
    · exact .inr (.inr (h.answered _ (h.delivered row hrow hdelivered)))
    · by_cases hrelayed : row.delivery.state = .relayed
      · exact .inr (hmailed (h.relayed row hrow hrelayed))
      · exact .inl ⟨row, hrow, rfl, hdelivered, hrelayed⟩

namespace Sample

open Kin.Node.Sample (aliceWorld dispatched dispatched_keeps)
open Kin.Inbox.Sample (bobReader bobDb)

/-- `alice` asks `bob` while nobody is reachable; `bob` finds a message at the relay. -/
def asked : List LinkAction :=
  [.call dispatched, .inbox (.deliver "alice" "00"), .inbox .pollStart,
   .inbox (.pollMessage 0 Transport.Sample.context ""), .inbox (.pollAcknowledge 0 false)]

/-- What an unreachable peer answers says nothing. -/
theorem truthful_unsent {l : Link} {t : Transmission}
    (hunsent : (accepted? t.direct || accepted? t.relay) = false) :
    Truthful bobReader l t.envelope t.direct t.relay := by
  rw [Bool.or_eq_false_iff] at hunsent
  refine ⟨fun hok => ?_, fun hok => ?_⟩
  · rw [hunsent.1] at hok
    cases hok
  · rw [hunsent.2] at hok
    cases hok

theorem asked_proper : Along (linkStep bobReader) (Proper bobReader)
    (Link.fresh (some "alice") [] [] bobDb) asked := by
  have hunsent : ∀ t ∈ (perform aliceWorld dispatched).sent,
      (accepted? t.direct || accepted? t.relay) = false := by decide +kernel
  exact ⟨⟨dispatched_keeps, fun t ht => truthful_unsent (hunsent t ht)⟩, trivial, trivial, rfl,
    trivial, trivial⟩

/-- `alice` knows where `bob` is. -/
def acquainted : Link :=
  Link.fresh (some "alice") [⟨"bob", some "http://bob", none, none, true⟩] [] bobDb

/-- The body that waits in her queue. -/
def queuedRequest : Fields :=
  ((perform acquainted.sender dispatched).db.outboundEnvelopeQueue.rows.map (·.envelope)).headD []

def sweepOnline : Sweep where
  ext := Transport.Sample.externals
  now := Transport.Sample.time.addSeconds 60
  http :=
    { post := fun _ _ => .response 200 "" (some .delivered)
      relay := fun _ _ => .requestError "unreachable" }

/-- The request is queued; a first post of it reaches `bob`, whose answer gets lost, and a sweep
posts it again. -/
def swept : List LinkAction :=
  [.call dispatched, .post Transport.Sample.context queuedRequest, .sweep sweepOnline]

theorem swept_proper : Along (linkStep bobReader) (Proper bobReader) acquainted swept := by
  have hunsent : ∀ t ∈ (perform acquainted.sender dispatched).sent,
      (accepted? t.direct || accepted? t.relay) = false := by decide +kernel
  have hkeeps : Keeps acquainted.sender dispatched := by
    refine ⟨fun s hs => ?_, fun contentHash _ => .inr ⟨rfl, .inr (And.intro rfl rfl)⟩⟩
    cases hs
    rfl
  let posted := run (linkStep bobReader) acquainted (swept.take 2)
  have hoffered : (retryOutboundQueue sweepOnline posted.sender.db).offers.map
      (·.row.envelope) = posted.answered := rfl
  have hrelay : ∀ o ∈ (retryOutboundQueue sweepOnline posted.sender.db).offers,
      accepted? o.relay = false := by decide +kernel
  refine ⟨⟨hkeeps, fun t ht => truthful_unsent (hunsent t ht)⟩, rfl, fun o ho => ⟨fun _ => ?_,
    fun hok => ?_⟩, trivial⟩
  · change o.row.envelope ∈ posted.answered
    rw [← hoffered]
    exact List.mem_map_of_mem ho
  · rw [hrelay o ho] at hok
    cases hok

end Sample

end Kin.Pair
